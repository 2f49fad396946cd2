import Mathlib.Tactic.SplitIfs
import Scaffold.Json.Reader

/-! Objects of texts read back from their written form: the escapes of a text are undone character by character,
and the entries come out in the order in which they stand. -/

namespace Scaffold.Json

open Scaffold.Text

theorem hexValue?_hexDigit : ∀ n < 16, hexValue? (hexDigit n) = some n := by
  decide

theorem hexUnit?_hexDigits {n : Nat} (h : n < 0x10000) : ∃ a b c d, hexDigits 4 n = [a, b, c, d] ∧
    hexUnit? a b c d = some n := by
  refine ⟨_, _, _, _, rfl, ?_⟩
  unfold hexUnit?
  rw [hexValue?_hexDigit _ (Nat.mod_lt _ (by decide)), hexValue?_hexDigit _ (Nat.mod_lt _ (by decide)),
    hexValue?_hexDigit _ (Nat.mod_lt _ (by decide)), hexValue?_hexDigit _ (Nat.mod_lt _ (by decide))]
  refine congrArg some ?_
  omega

theorem stringFrom_unit {n : Nat} (h : n < 0xd800 ∨ 0xe000 ≤ n ∧ n < 0x10000) (opened : Nat) {r : List Char}
    (hr : r ≠ []) :
    stringFrom opened none (unit n ++ r) = stringFrom.prepend [Char.ofNat n] (stringFrom opened none r) := by
  obtain ⟨a, b, c, d, hdigits, hunit⟩ := hexUnit?_hexDigits (show n < 0x10000 by omega)
  have hpair : opensPair n r = false := by
    have hhalf : (decide (0xd800 ≤ n) && decide (n < 0xdc00)) = false := by
      simp only [Bool.and_eq_false_iff, decide_eq_false_iff_not]
      omega
    rw [opensPair, hhalf]
    rfl
  have hchar : ofUnit n = Char.ofNat n := by
    have hhalf : (decide (0xd800 ≤ n) && decide (n < 0xe000)) = false := by
      simp only [Bool.and_eq_false_iff, decide_eq_false_iff_not]
      omega
    rw [ofUnit, hhalf]
    rfl
  rw [unit, hdigits]
  simp only [List.cons_append, List.nil_append]
  rw [stringFrom]
  simp only [List.isEmpty_iff, hr, hunit, hpair, hchar, if_false, Bool.false_eq_true]

/-- The first half of a pair is kept until the second has been read. -/
theorem stringFrom_pair {high low : Nat} {c : Char} (hhigh : 0xd800 ≤ high ∧ high < 0xdc00) (hlow : low < 0x10000)
    (h : joined? high low = some c) (opened : Nat) {r : List Char} (hr : r ≠ []) :
    stringFrom opened none (unit high ++ (unit low ++ r)) = stringFrom.prepend [c] (stringFrom opened none r) := by
  obtain ⟨a, b, d, e, hdigits, hunit⟩ := hexUnit?_hexDigits (show high < 0x10000 by omega)
  obtain ⟨a', b', d', e', hdigits', hunit'⟩ := hexUnit?_hexDigits hlow
  have hpair : opensPair high ('\\' :: 'u' :: a' :: b' :: d' :: e' :: r) = true := by
    have hlong : 6 < ('\\' :: 'u' :: a' :: b' :: d' :: e' :: r).length := by
      have hlength := List.length_pos_iff.2 hr
      simp only [List.length_cons]
      omega
    rw [opensPair, decide_eq_true hhigh.1, decide_eq_true hhigh.2, decide_eq_true hlong]
    rfl
  rw [unit, hdigits, unit, hdigits']
  simp only [List.cons_append, List.nil_append]
  rw [stringFrom]
  simp only [List.isEmpty_cons, hunit, hpair, if_true, if_false, Bool.false_eq_true]
  rw [stringFrom]
  simp only [List.isEmpty_iff, hr, hunit', h, if_false]

theorem stringFrom_units (c : Char) (opened : Nat) {r : List Char} (hr : r ≠ []) :
    stringFrom opened none (units c ++ r) = stringFrom.prepend [c] (stringFrom opened none r) := by
  have hvalid : c.toNat < 0xd800 ∨ 0xdfff < c.toNat ∧ c.toNat < 0x110000 := c.valid
  unfold units
  dsimp only
  by_cases hplane : c.toNat < 0x10000
  · rw [if_pos hplane, stringFrom_unit (by omega) opened hr, Char.ofNat_toNat]
  · rw [if_neg hplane, List.append_assoc]
    refine stringFrom_pair (by omega) (by omega) ?_ opened hr
    have hcode : 0x10000 + (0xd800 + (c.toNat - 0x10000) / 0x400 - 0xd800) * 0x400 +
        (0xdc00 + (c.toNat - 0x10000) % 0x400 - 0xdc00) = c.toNat := by omega
    unfold joined?
    rw [hcode, Char.ofNat_toNat, if_pos]
    simp only [Bool.and_eq_true, decide_eq_true_eq]
    omega

variable {charset : Charset}

theorem stringFrom_escape (c : Char) (opened : Nat) {r : List Char} (hr : r ≠ []) :
    stringFrom opened none (escape charset c ++ r) = stringFrom.prepend [c] (stringFrom opened none r) := by
  unfold escape
  simp only [beq_iff_eq]
  by_cases hquote : c = '"'
  · rw [if_pos hquote, hquote]
    rfl
  rw [if_neg hquote]
  by_cases hslash : c = '\\'
  · rw [if_pos hslash, hslash]
    rfl
  rw [if_neg hslash]
  by_cases hn : c = '\n'
  · rw [if_pos hn, hn]
    rfl
  rw [if_neg hn]
  by_cases hret : c = '\r'
  · rw [if_pos hret, hret]
    rfl
  rw [if_neg hret]
  by_cases ht : c = '\t'
  · rw [if_pos ht, ht]
    rfl
  rw [if_neg ht]
  by_cases hb : c = '\x08'
  · rw [if_pos hb, hb]
    rfl
  rw [if_neg hb]
  by_cases hf : c = '\x0c'
  · rw [if_pos hf, hf]
    rfl
  rw [if_neg hf]
  -- The rest of the control characters, and all that is not ASCII if it is to be escaped, are written as units.
  by_cases hcontrol : c.toNat < 0x20
  · rw [if_pos hcontrol, stringFrom_unit (by omega) opened hr, Char.ofNat_toNat]
  rw [if_neg hcontrol]
  split
  · exact stringFrom_units c opened hr
  · rw [List.cons_append, List.nil_append, stringFrom]
    · rw [if_neg hcontrol]
    all_goals simp [hquote, hslash]

theorem stringFrom_escaped (s : List Char) (opened : Nat) (rest : List Char) :
    stringFrom opened none (s.flatMap (escape charset) ++ '"' :: rest) = .ok (s, rest) := by
  induction s with
  | nil => rfl
  | cons c s ih =>
    rw [List.flatMap_cons, List.append_assoc, stringFrom_escape c opened (by simp), ih]
    rfl

theorem toList_stringText (s : String) :
    (stringText charset s).toList = '"' :: (s.toList.flatMap (escape charset) ++ ['"']) := by
  rw [stringText, String.toList_ofList]
  rfl

theorem readString_escaped (s : String) (rest : List Char) :
    readString (s.toList.flatMap (escape charset) ++ '"' :: rest) = .ok (s, rest) := by
  rw [readString, stringFrom_escaped]
  exact congrArg (fun t => Except.ok (t, rest)) (String.ofList_toList)

theorem readValue_stringText (fuel : Nat) (s : String) (rest : List Char) :
    readValue (fuel + 1) ((stringText charset s).toList ++ rest) = .ok (.string s, rest) := by
  rw [toList_stringText, List.cons_append, List.append_assoc, readValue]
  change (readString (s.toList.flatMap (escape charset) ++ '"' :: rest)).map _ = _
  rw [readString_escaped]
  rfl

/-- An object whose values are texts. -/
def ofTexts (entries : List (String × String)) : Value := .object (entries.map fun (k, v) => (k, .string v))

/-- A written entry of such an object. -/
def entryText (e : String × String) : List Char :=
  (stringText .unicode e.1).toList ++ ':' :: ' ' :: (stringText .unicode e.2).toList

theorem writeEntries_texts (depth : Nat) (entries : List (String × String)) :
    (writeEntries depth (entries.map fun (k, v) => (k, .string v))).map String.toList = entries.map entryText := by
  induction entries with
  | nil => rfl
  | cons e rest ih =>
    obtain ⟨k, v⟩ := e
    rw [List.map_cons, writeEntries, List.map_cons, ih, List.map_cons, Value.write, entryText]
    simp

theorem readEntries_entryText (fuel : Nat) (done : List (String × Value)) (e : String × String) (rest : List Char) :
    readEntries (fuel + 2) done (entryText e ++ rest) =
      match skip rest with
      | '\x7d' :: r => .ok (.object (Entries.put e.1 (.string e.2) done), r)
      | ',' :: r => readEntries (fuel + 1) (Entries.put e.1 (.string e.2) done) (skip r)
      | r => fail .comma r.length := by
  obtain ⟨k, v⟩ := e
  have hkey : readString (k.toList.flatMap (escape .unicode) ++ '"' :: ':' :: ' ' ::
      ((stringText .unicode v).toList ++ rest)) = .ok (k, ':' :: ' ' :: ((stringText .unicode v).toList ++ rest)) :=
    readString_escaped k _
  have hskip : skip (' ' :: ((stringText .unicode v).toList ++ rest)) = (stringText .unicode v).toList ++ rest := by
    rw [toList_stringText]
    rfl
  have hform : entryText (k, v) ++ rest = '"' :: (k.toList.flatMap (escape .unicode) ++ '"' :: ':' :: ' ' ::
      ((stringText .unicode v).toList ++ rest)) := by
    rw [entryText, toList_stringText k]
    simp
  have hcolon : skip (':' :: ' ' :: ((stringText .unicode v).toList ++ rest)) =
      ':' :: ' ' :: ((stringText .unicode v).toList ++ rest) := rfl
  rw [hform, readEntries]
  simp only [hkey, bind, Except.bind, hcolon, hskip, readValue_stringText]
  rfl

theorem skip_gap {gap : List Char} (h : ∀ c ∈ gap, isSpace c = true) (r : List Char) : skip (gap ++ r) = skip r :=
  List.dropWhile_append_of_pos h

theorem joined_eq_quote (comma : List Char) (e : String × String) (entries : List (String × String)) :
    ∃ tail, (',' :: comma).intercalate ((e :: entries).map entryText) = '"' :: tail := by
  have hentry : ∃ tail, entryText e = '"' :: tail := ⟨_, by rw [entryText, toList_stringText, List.cons_append]⟩
  obtain ⟨tail, htail⟩ := hentry
  cases entries with
  | nil => exact ⟨tail, by rw [List.map_singleton, List.intercalate_singleton, htail]⟩
  | cons _ _ =>
    rw [List.map_cons, List.map_cons, List.intercalate_cons_cons, htail]
    exact ⟨_, rfl⟩

theorem skip_joined (comma : List Char) (e : String × String) (entries : List (String × String)) (r : List Char) :
    skip ((',' :: comma).intercalate ((e :: entries).map entryText) ++ r) =
      (',' :: comma).intercalate ((e :: entries).map entryText) ++ r := by
  obtain ⟨tail, htail⟩ := joined_eq_quote comma e entries
  rw [htail]
  rfl

theorem readValue_entries (fuel : Nat) {r tail : List Char} (h : skip r = '"' :: tail) :
    readValue (fuel + 1) ('\x7b' :: r) = readEntries fuel [] ('"' :: tail) := by
  rw [readValue, h]
  rfl

section Joined

variable {opening comma close : List Char}

/-- Entries with commas and blanks in between, and blanks in front of the closing brace. -/
theorem readEntries_joined (hcomma : ∀ c ∈ comma, isSpace c = true) (hclose : ∀ c ∈ close, isSpace c = true)
    (e : String × String) (entries : List (String × String)) (done : List (String × Value)) (rest : List Char)
    {fuel : Nat} (hfuel : entries.length ≤ fuel) :
    readEntries (fuel + 2) done
        ((',' :: comma).intercalate ((e :: entries).map entryText) ++ (close ++ '\x7d' :: rest)) =
      .ok (.object (Entries.putAll ((e :: entries).map fun (k, v) => (k, .string v)) done), rest) := by
  induction entries generalizing e done fuel with
  | nil =>
    rw [List.map_singleton, List.intercalate_singleton, readEntries_entryText, skip_gap hclose]
    rfl
  | cons next entries ih =>
    obtain ⟨fuel, rfl⟩ : ∃ n, fuel = n + 1 := ⟨fuel - 1, by simp at hfuel; omega⟩
    rw [List.map_cons, List.map_cons, List.intercalate_cons_cons, ← List.map_cons, List.append_assoc,
      List.append_assoc, readEntries_entryText, List.cons_append]
    change readEntries (fuel + 1 + 1) _ (skip (comma ++ _)) = _
    rw [skip_gap hcomma, skip_joined, ih next _ (by simpa using hfuel)]
    rfl

theorem readValue_joined (hopening : ∀ c ∈ opening, isSpace c = true) (hcomma : ∀ c ∈ comma, isSpace c = true)
    (hclose : ∀ c ∈ close, isSpace c = true) (e : String × String) (entries : List (String × String))
    (rest : List Char) {fuel : Nat} (hfuel : entries.length ≤ fuel) :
    readValue (fuel + 3) ('\x7b' :: (opening ++
        ((',' :: comma).intercalate ((e :: entries).map entryText) ++ (close ++ '\x7d' :: rest)))) =
      .ok (.object (Entries.putAll ((e :: entries).map fun (k, v) => (k, .string v)) []), rest) := by
  obtain ⟨tail, htail⟩ := joined_eq_quote comma e entries
  have hskip : skip (opening ++ ((',' :: comma).intercalate ((e :: entries).map entryText) ++
      (close ++ '\x7d' :: rest))) = '"' :: (tail ++ (close ++ '\x7d' :: rest)) := by
    rw [skip_gap hopening, skip_joined, htail, List.cons_append]
  rw [readValue_entries (fuel + 2) hskip, ← List.cons_append, ← htail]
  exact readEntries_joined hcomma hclose e entries [] rest hfuel

theorem bracketed_of_ne_nil {items : List String} (h : items ≠ []) (opening closing : String) (depth : Nat) :
    bracketed opening closing depth items = opening ++ margin (depth + 1) ++
      ("," ++ margin (depth + 1)).intercalate items ++ margin depth ++ closing := by
  unfold bracketed
  split
  · exact absurd rfl h
  · rfl

theorem toList_write_ofTexts (e : String × String) (entries : List (String × String)) :
    ((ofTexts (e :: entries)).write 0).toList = '\x7b' :: (['\n', ' ', ' '] ++
      ((',' :: ['\n', ' ', ' ']).intercalate ((e :: entries).map entryText) ++ (['\n'] ++ ['\x7d']))) := by
  have hitems : (("," ++ margin 1).intercalate
      (writeEntries 1 ((e :: entries).map fun (k, v) => (k, .string v)))).toList =
        (',' :: ['\n', ' ', ' ']).intercalate ((e :: entries).map entryText) := by
    rw [String.toList_intercalate, writeEntries_texts]
    rfl
  rw [ofTexts, Value.write, bracketed_of_ne_nil (by simp [writeEntries]), String.toList_append, String.toList_append,
    String.toList_append, String.toList_append, hitems]
  change '\x7b' :: _ = _
  simp [margin, spaces]

theorem cr_ne_hexDigit : ∀ n < 16, '\r' ≠ hexDigit n := by
  decide

theorem cr_not_mem_hexDigits (width n : Nat) : '\r' ∉ hexDigits width n := by
  induction width generalizing n with
  | zero => exact List.not_mem_nil
  | succ width ih =>
    rw [hexDigits, List.mem_append, List.mem_singleton]
    exact fun h => h.elim (ih _) (cr_ne_hexDigit _ (Nat.mod_lt n (by decide)))

/-- A carriage return is written with an escape, so a line of the written text ends with a line feed. -/
theorem cr_not_mem_escape (c : Char) : '\r' ∉ escape .unicode c := by
  unfold escape
  simp only [beq_iff_eq, reduceCtorEq, Bool.and_eq_true, and_false, if_false]
  split_ifs with hquote hslash hn hr
  case pos | pos | pos | pos | pos | pos | pos => decide
  case pos =>
    have hdigits := cr_not_mem_hexDigits 4 c.toNat
    simpa [unit] using hdigits
  case neg => simpa using Ne.symm hr

theorem cr_not_mem_stringText (s : String) : '\r' ∉ (stringText .unicode s).toList := by
  rw [toList_stringText]
  simp only [List.mem_cons, List.mem_append, List.mem_flatMap, List.not_mem_nil, or_false]
  rintro (h | ⟨c, -, h⟩ | h)
  · exact absurd h (by decide)
  · exact cr_not_mem_escape c h
  · exact absurd h (by decide)

theorem cr_not_mem_entryText (e : String × String) : '\r' ∉ entryText e := by
  rw [entryText]
  simp only [List.mem_append, List.mem_cons]
  rintro (h | h | h | h)
  · exact cr_not_mem_stringText e.1 h
  · exact absurd h (by decide)
  · exact absurd h (by decide)
  · exact cr_not_mem_stringText e.2 h

theorem cr_not_mem_write (entries : List (String × String)) : '\r' ∉ ((ofTexts entries).write 0).toList := by
  cases entries with
  | nil => decide
  | cons e entries =>
    rw [toList_write_ofTexts]
    have hjoined : '\r' ∉ (',' :: ['\n', ' ', ' ']).intercalate ((e :: entries).map entryText) := by
      induction entries generalizing e with
      | nil =>
        rw [List.map_singleton, List.intercalate_singleton]
        exact cr_not_mem_entryText e
      | cons next entries ih =>
        rw [List.map_cons, List.map_cons, List.intercalate_cons_cons, ← List.map_cons, List.mem_append,
          List.mem_append]
        exact fun h => h.elim (fun h => h.elim (cr_not_mem_entryText e) (by decide)) (ih next)
    simpa using hjoined

theorem length_le_joined (comma : List Char) (e : String × String) (entries : List (String × String)) :
    entries.length ≤ ((',' :: comma).intercalate ((e :: entries).map entryText)).length := by
  induction entries generalizing e with
  | nil => exact Nat.zero_le _
  | cons next entries ih =>
    have hrest := ih next
    rw [List.map_cons] at hrest
    rw [List.map_cons, List.map_cons, List.intercalate_cons_cons]
    simp only [List.length_append, List.length_cons]
    omega

/-- An object of texts with different keys comes out of its written form as it was. -/
theorem read_write_ofTexts {entries : List (String × String)} (h : (entries.map Prod.fst).Nodup) :
    read ((ofTexts entries).write 0) = .ok (ofTexts entries) := by
  cases entries with
  | nil => rfl
  | cons e entries =>
    have hkeys : (((e :: entries).map fun (k, v) => (k, Value.string v)).map Prod.fst).Nodup := by
      rw [List.map_map]
      exact h
    have hblank : ∀ c ∈ ['\n', ' ', ' '], isSpace c = true := List.all_eq_true.1 rfl
    have hclose : ∀ c ∈ ['\n'], isSpace c = true := List.all_eq_true.1 rfl
    generalize htext : (ofTexts (e :: entries)).write 0 = text
    have hchars := (congrArg String.toList htext).symm.trans (toList_write_ofTexts e entries)
    -- The fuel is twice the length of the text, and an entry is not shorter than a character.
    have hfuel : entries.length ≤ 2 * text.toList.length - 1 := by
      have hjoined := length_le_joined ['\n', ' ', ' '] e entries
      rw [hchars]
      simp only [List.length_cons, List.length_append]
      omega
    have hlen : (2 * text.toList.length - 1) + 3 = 2 * text.toList.length + 2 := by
      rw [hchars, List.length_cons]
      omega
    have hvalue := readValue_joined hblank hblank hclose e entries [] hfuel
    rw [hlen, ← hchars, Entries.putAll_of_distinct hkeys [] fun _ _ => rfl, List.nil_append] at hvalue
    have hdocument : document text.toList = .ok (ofTexts (e :: entries)) := by
      have hfirst : skip text.toList = text.toList := by
        rw [hchars]
        rfl
      unfold document
      split
      · next h =>
        rw [hchars] at h
        exact absurd h (by simp)
      · rw [hfirst, hvalue]
        rfl
    rw [read, hdocument]
    rfl

end Joined

end Scaffold.Json
