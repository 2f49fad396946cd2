import Mathlib.Data.List.Nodup
import Scaffold.Proofs.Json.ReadBack

/-! Written values whose lines are moved to the right. The text is taken apart at every line break, also at the few that
stand unescaped inside of strings: with one of these the value is lost, and without it comes out as it was. -/

namespace Scaffold.Json

open Scaffold.Text

/-- The line breaks that are written as they are. -/
def rawBreaks : List Char := ['\u0085', '\u2028', '\u2029']

/-- A text with a line break that is written as it is. -/
def Breaks (s : String) : Prop := ∃ c ∈ s.toList, c ∈ rawBreaks

instance (s : String) : Decidable (Breaks s) := List.decidableBEx (· ∈ rawBreaks) s.toList

/-- A text that stands on one line. -/
def Unbroken (s : List Char) : Prop := ∀ c ∈ s, isLineBreak c = false

instance (s : List Char) : Decidable (Unbroken s) := List.decidableBAll (isLineBreak · = false) s

/-- Every line break becomes a line feed with `n` spaces behind it. -/
def reflow (n : Nat) (s : List Char) : List Char :=
  s.flatMap fun c => if isLineBreak c then '\n' :: List.replicate n ' ' else [c]

section Reflow

variable {n : Nat} {s t : List Char} {c : Char}

@[simp] theorem reflow_append : reflow n (s ++ t) = reflow n s ++ reflow n t := List.flatMap_append

theorem reflow_cons_of_not (h : isLineBreak c = false) : reflow n (c :: s) = c :: reflow n s := by
  rw [reflow, List.flatMap_cons, h, if_neg Bool.false_ne_true]
  rfl

theorem reflow_cons_break (h : isLineBreak c = true) :
    reflow n (c :: s) = '\n' :: (List.replicate n ' ' ++ reflow n s) := by
  rw [reflow, List.flatMap_cons, h, if_pos rfl]
  rfl

theorem unbroken_cons_iff : Unbroken (c :: s) ↔ isLineBreak c = false ∧ Unbroken s := List.forall_mem_cons

theorem reflow_of_unbroken (h : Unbroken s) : reflow n s = s := by
  induction s with
  | nil => rfl
  | cons c s ih =>
    rw [unbroken_cons_iff] at h
    rw [reflow_cons_of_not h.1, ih h.2]

theorem reflow_intercalate (ts : List (List Char)) :
    reflow n (s.intercalate ts) = (reflow n s).intercalate (ts.map (reflow n)) := by
  induction ts with
  | nil => rfl
  | cons t ts ih =>
    cases ts with
    | nil => rw [List.intercalate_singleton, List.map_singleton, List.intercalate_singleton]
    | cons u ts =>
      rw [List.intercalate_cons_cons, reflow_append, reflow_append, ih, List.map_cons, List.map_cons, List.map_cons,
        List.intercalate_cons_cons]

theorem isSpace_reflow (h : ∀ c ∈ s, isSpace c = true) : ∀ c ∈ reflow n s, isSpace c = true := by
  intro c hc
  obtain ⟨d, hd, hc⟩ := List.mem_flatMap.1 hc
  split at hc
  · rcases List.mem_cons.1 hc with rfl | hc
    · rfl
    · rw [List.eq_of_mem_replicate hc]
      rfl
  · rw [List.mem_singleton.1 hc]
    exact h d hd

theorem isSpace_margin (depth : Nat) : ∀ c ∈ (margin depth).toList, isSpace c = true := by
  intro c hc
  unfold margin spaces at hc
  rw [String.toList_append] at hc
  rcases List.mem_append.1 hc with hc | hc
  · rw [List.mem_singleton.1 hc]
    rfl
  · rw [String.toList_ofList] at hc
    rw [List.eq_of_mem_replicate hc]
    rfl

theorem hexDigit_unbroken : ∀ n < 16, isLineBreak (hexDigit n) = false := by
  decide

theorem hexDigits_unbroken (width n : Nat) : Unbroken (hexDigits width n) := by
  induction width generalizing n with
  | zero => exact List.forall_mem_nil _
  | succ width ih =>
    rw [hexDigits, Unbroken, List.forall_mem_append, List.forall_mem_singleton]
    exact ⟨ih _, hexDigit_unbroken _ (Nat.mod_lt n (by decide))⟩

theorem mem_rawBreaks_of_break (h : isLineBreak c = true) (hc : ¬ c.toNat < 0x20) : c ∈ rawBreaks := by
  simp only [isLineBreak, Bool.or_eq_true, beq_iff_eq, or_assoc] at h
  rcases h with rfl | rfl | rfl | rfl | rfl | rfl | rfl | h
  case inr.inr.inr.inr.inr.inr.inr => simpa [rawBreaks] using h
  all_goals exact absurd (by decide) hc

theorem escape_unbroken (h : c ∉ rawBreaks) : Unbroken (escape .unicode c) := by
  unfold escape
  simp only [beq_iff_eq, reduceCtorEq, Bool.and_eq_true, and_false, if_false]
  split_ifs with hquote hslash hn hr ht hb hf hcontrol
  case pos | pos | pos | pos | pos | pos | pos => decide
  case pos =>
    rw [unit, unbroken_cons_iff, unbroken_cons_iff]
    exact ⟨by decide, by decide, hexDigits_unbroken 4 c.toNat⟩
  case neg =>
    rw [Unbroken, List.forall_mem_singleton, Bool.eq_false_iff]
    exact fun hbreak => h (mem_rawBreaks_of_break hbreak hcontrol)

theorem reflow_escaped (h : ∀ c ∈ s, c ∉ rawBreaks) :
    reflow n (s.flatMap (escape .unicode)) = s.flatMap (escape .unicode) := by
  refine reflow_of_unbroken fun d hd => ?_
  obtain ⟨c, hc, hd⟩ := List.mem_flatMap.1 hd
  exact escape_unbroken (h c hc) d hd

theorem reflow_escape_raw (h : c ∈ rawBreaks) :
    reflow n (escape .unicode c) = '\n' :: List.replicate n ' ' := by
  obtain ⟨hself, hbreak⟩ : escape .unicode c = [c] ∧ isLineBreak c = true := by
    simp only [rawBreaks, List.mem_cons, List.not_mem_nil, or_false] at h
    rcases h with rfl | rfl | rfl <;> decide
  rw [hself, reflow_cons_break hbreak]
  exact congrArg _ (List.append_nil _)

theorem exists_prepend_error {cs : List Char} {r : Read (List Char)} (h : ∃ f, r = .error f) :
    ∃ f, stringFrom.prepend cs r = .error f := by
  obtain ⟨f, rfl⟩ := h
  exact ⟨f, rfl⟩

/-- A line feed in a string is a fault. -/
theorem stringFrom_reflow_raw (h : ∃ c ∈ s, c ∈ rawBreaks) (opened : Nat) (rest : List Char) :
    ∃ f, stringFrom opened none (reflow n (s.flatMap (escape .unicode)) ++ '"' :: rest) = .error f := by
  -- Up to the first such character the text is read as it was written; there the reader meets a line feed.
  induction s with
  | nil => simp at h
  | cons c s ih =>
    rw [List.flatMap_cons, reflow_append, List.append_assoc]
    by_cases hc : c ∈ rawBreaks
    · rw [reflow_escape_raw hc, List.cons_append, stringFrom]
      · exact ⟨_, rfl⟩
      all_goals simp
    · obtain ⟨d, hd, hraw⟩ := h
      have hs : d ∈ s := (List.mem_cons.1 hd).resolve_left fun heq => hc (heq ▸ hraw)
      rw [reflow_of_unbroken (escape_unbroken hc), stringFrom_escape c opened (by simp)]
      exact exists_prepend_error (ih ⟨d, hs, hraw⟩)

end Reflow

section Strings

variable {n : Nat} {s : String} {rest : List Char}

theorem reflow_stringText (n : Nat) (s : String) : reflow n (stringText .unicode s).toList =
    '"' :: (reflow n (s.toList.flatMap (escape .unicode)) ++ ['"']) := by
  rw [toList_stringText, reflow_cons_of_not (by decide), reflow_append]
  rfl

theorem readString_reflow (n : Nat) (h : ¬ Breaks s) (rest : List Char) :
    readString (reflow n (s.toList.flatMap (escape .unicode)) ++ '"' :: rest) = .ok (s, rest) := by
  rw [reflow_escaped fun c hc hraw => h ⟨c, hc, hraw⟩, readString_escaped]

theorem readString_reflow_raw (n : Nat) (h : Breaks s) (rest : List Char) :
    ∃ f, readString (reflow n (s.toList.flatMap (escape .unicode)) ++ '"' :: rest) = .error f := by
  obtain ⟨f, hf⟩ := stringFrom_reflow_raw h _ rest
  refine ⟨f, ?_⟩
  rw [readString, hf]
  rfl

end Strings

/-- A whole number without a sign. -/
structure IsWhole (text : String) : Prop where
  ne : text.toList ≠ []
  digits : ∀ c ∈ text.toList, isAsciiDigit c = true
  leading : text.toList.head? = some '0' → text.toList = ['0']

/-- Values whose written form is read as what they are: numbers are whole, and the keys of an object differ. -/
inductive Plain : Value → Prop where
  | null : Plain .null
  | bool (b : Bool) : Plain (.bool b)
  | number {text : String} (h : IsWhole text) : Plain (.number text)
  | string (text : String) : Plain (.string text)
  | array {items : List Value} (h : ∀ v ∈ items, Plain v) : Plain (.array items)
  | object {entries : List (String × Value)} (hkeys : (entries.map Prod.fst).Nodup) (h : ∀ e ∈ entries, Plain e.2) :
    Plain (.object entries)

/-- A text inside of the value, or a key, has a line break that is written as it is. -/
inductive Broken : Value → Prop where
  | string {text : String} (h : Breaks text) : Broken (.string text)
  | item {items : List Value} {v : Value} (hv : v ∈ items) (h : Broken v) : Broken (.array items)
  | key {entries : List (String × Value)} {e : String × Value} (he : e ∈ entries) (h : Breaks e.1) :
    Broken (.object entries)
  | entry {entries : List (String × Value)} {e : String × Value} (he : e ∈ entries) (h : Broken e.2) :
    Broken (.object entries)

theorem broken_string_iff {text : String} : Broken (.string text) ↔ Breaks text :=
  ⟨fun | .string h => h, .string⟩

theorem broken_array_iff {items : List Value} : Broken (.array items) ↔ ∃ v ∈ items, Broken v :=
  ⟨fun | .item hv h => ⟨_, hv, h⟩, fun ⟨_, hv, h⟩ => .item hv h⟩

theorem broken_object_iff {entries : List (String × Value)} :
    Broken (.object entries) ↔ ∃ e ∈ entries, Breaks e.1 ∨ Broken e.2 := by
  constructor
  · rintro (_ | _ | ⟨he, h⟩ | ⟨he, h⟩)
    · exact ⟨_, he, .inl h⟩
    · exact ⟨_, he, .inr h⟩
  · rintro ⟨e, he, h | h⟩
    · exact .key he h
    · exact .entry he h

/-- Whether a number goes on with the character. -/
def inNumber (c : Char) : Bool := isAsciiDigit c || c == '.' || c == 'e' || c == 'E'

/-- No number runs into the text. -/
def Follows (s : List Char) : Prop := ∀ c ∈ s.head?, inNumber c = false

theorem Follows.gap {gap rest : List Char} {c : Char} (hgap : ∀ d ∈ gap, isSpace d = true) (hc : inNumber c = false) :
    Follows (gap ++ c :: rest) := by
  cases gap with
  | nil =>
    rintro d ⟨⟩
    exact hc
  | cons d gap =>
    rintro e ⟨⟩
    have hspace := hgap d List.mem_cons_self
    simp only [isSpace, Bool.or_eq_true, beq_iff_eq, or_assoc] at hspace
    rcases hspace with rfl | rfl | rfl | rfl <;> decide

section Numbers

variable {text : String} {rest : List Char}

theorem IsWhole.exists_cons (h : IsWhole text) : ∃ c cs, text.toList = c :: cs ∧ isAsciiDigit c = true := by
  obtain ⟨c, cs, hchars⟩ := List.exists_cons_of_ne_nil h.ne
  exact ⟨c, cs, hchars, h.digits c (by rw [hchars]; exact List.mem_cons_self)⟩

theorem digitsOf_append (h : ∀ c ∈ text.toList, isAsciiDigit c = true) (hrest : Follows rest) :
    digitsOf (text.toList ++ rest) = (text.toList, rest) := by
  have hstop : rest.takeWhile isAsciiDigit = [] ∧ rest.dropWhile isAsciiDigit = rest := by
    cases rest with
    | nil => exact ⟨rfl, rfl⟩
    | cons c rest =>
      have hc := hrest c rfl
      simp only [inNumber, Bool.or_eq_false_iff, and_assoc] at hc
      exact ⟨List.takeWhile_cons_of_neg (by simp [hc]), List.dropWhile_cons_of_neg (by simp [hc])⟩
  unfold digitsOf
  rw [List.takeWhile_append_of_pos h, List.dropWhile_append_of_pos h, hstop.1, hstop.2, List.append_nil]

theorem IsWhole.whole?_append (h : IsWhole text) (hrest : Follows rest) :
    whole? (text.toList ++ rest) = some (text.toList, rest) := by
  obtain ⟨c, cs, hchars, hc⟩ := h.exists_cons
  by_cases hzero : c = '0'
  · have hone := h.leading (by rw [hchars, hzero]; rfl)
    rw [hone]
    rfl
  · rw [whole?, digitsOf_append h.digits hrest, hchars]
    rintro r hr
    rw [hchars] at hr
    exact hzero (List.cons.inj hr).1

theorem fraction_of_follows (hrest : Follows rest) : fraction rest = ([], rest) := by
  unfold fraction
  split
  · next r => exact absurd (hrest '.' rfl) (by decide)
  · rfl

theorem power?_of_follows (hrest : Follows rest) : power? rest = none := by
  cases rest with
  | nil => rfl
  | cons c rest =>
    have hc := hrest c rfl
    simp only [inNumber, Bool.or_eq_false_iff, and_assoc] at hc
    unfold power?
    dsimp only
    rw [hc.2.2.1, hc.2.2.2]
    rfl

theorem IsWhole.number?_append (h : IsWhole text) (hrest : Follows rest) :
    number? (text.toList ++ rest) = some (text, rest) := by
  obtain ⟨c, cs, hchars, hc⟩ := h.exists_cons
  have hsign : c ≠ '-' := fun heq => absurd (heq ▸ hc) (by decide)
  have hempty : "" ++ String.ofList text.toList = text := by rw [String.empty_append, String.ofList_toList]
  unfold number?
  split
  next negative r hsplit =>
    have hparts : negative = false ∧ r = text.toList ++ rest := by
      rw [hchars, List.cons_append] at hsplit ⊢
      split at hsplit
      · next hminus => exact absurd (List.cons.inj hminus).1 hsign
      · cases hsplit
        exact ⟨rfl, rfl⟩
    rw [hparts.1, hparts.2, h.whole?_append hrest]
    simp only [Option.bind_eq_bind, Option.bind_some, fraction_of_follows hrest, power?_of_follows hrest,
      Bool.false_and, Bool.false_eq_true, if_false, hempty]

theorem word?_digit {c : Char} (h : isAsciiDigit c = true) (r : List Char) : word? (c :: r) = none := by
  have hother : ∀ w ∈ words, ∃ d ds, w.1.toList = d :: ds ∧ isAsciiDigit d = false := by
    simp [words, isAsciiDigit]
  refine List.findSome?_eq_none_iff.2 fun (w, v) hw => ?_
  obtain ⟨d, ds, hword, hd⟩ := hother (w, v) hw
  dsimp only at hword ⊢
  have hne : d ≠ c := by
    rintro rfl
    rw [hd] at h
    exact nomatch h
  rw [hword, after?, if_neg (by simpa using hne)]
  rfl

theorem readValue_number (h : IsWhole text) (hrest : Follows rest) (fuel : Nat) :
    readValue (fuel + 1) (text.toList ++ rest) = .ok (.number text, rest) := by
  obtain ⟨c, cs, hchars, hc⟩ := h.exists_cons
  have hnumber := h.number?_append hrest
  rw [hchars, List.cons_append] at hnumber ⊢
  rw [readValue, word?_digit hc, hnumber]
  · rfl
  all_goals
    rintro r hr
    rw [(List.cons.inj hr).1] at hc
    exact absurd hc (by decide)

end Numbers

/-- The written form of a value at some depth, with its lines moved. -/
def hung (n depth : Nat) (v : Value) : List Char := reflow n (v.write depth).toList

/-- The blanks between two lines. -/
def hungMargin (n depth : Nat) : List Char := reflow n (margin depth).toList

def hungEntry (n depth : Nat) (e : String × Value) : List Char :=
  reflow n (stringText .unicode e.1).toList ++ ':' :: ' ' :: hung n depth e.2

/-- Items with commas and blanks in between. -/
def hungItems (n depth : Nat) (items : List Value) : List Char :=
  (',' :: hungMargin n depth).intercalate (items.map (hung n depth))

def hungEntries (n depth : Nat) (entries : List (String × Value)) : List Char :=
  (',' :: hungMargin n depth).intercalate (entries.map (hungEntry n depth))

/-- What comes of reading a value in front of a text: the value, or a fault if it is broken. -/
def Comes (v : Value) (rest : List Char) (r : Except Fault (Value × List Char)) : Prop :=
  (¬ Broken v → r = .ok (v, rest)) ∧ (Broken v → ∃ f, r = .error f)

/-- Read with enough fuel, a text gives its value or shows that it is broken. -/
def Shows (text : List Char) (v : Value) : Prop :=
  ∀ fuel rest, text.length ≤ fuel → Follows rest → Comes v rest (readValue fuel (text ++ rest))

/-- A text that cannot be taken for blanks or for the end of a list. -/
def Starts (text : List Char) : Prop := ∃ c r, text = c :: r ∧ isSpace c = false ∧ c ≠ ']'

section Written

variable {n depth : Nat}

theorem isSpace_hungMargin (n depth : Nat) : ∀ c ∈ hungMargin n depth, isSpace c = true :=
  isSpace_reflow (isSpace_margin depth)

theorem writeItems_eq_map (depth : Nat) (items : List Value) :
    writeItems depth items = items.map (Value.write depth) := by
  induction items with
  | nil => rfl
  | cons v items ih => rw [writeItems, ih, List.map_cons]

theorem writeEntries_eq_map (depth : Nat) (entries : List (String × Value)) :
    writeEntries depth entries = entries.map fun e => stringText .unicode e.1 ++ ": " ++ e.2.write depth := by
  induction entries with
  | nil => rfl
  | cons e entries ih =>
    obtain ⟨k, v⟩ := e
    rw [writeEntries, ih, List.map_cons]

theorem reflow_bracketed {opening closing : String} (hopening : Unbroken opening.toList)
    (hclosing : Unbroken closing.toList) {items : List String} (hne : items ≠ []) :
    reflow n (bracketed opening closing depth items).toList =
      opening.toList ++ (hungMargin n (depth + 1) ++ ((',' :: hungMargin n (depth + 1)).intercalate
        (items.map fun t => reflow n t.toList) ++ (hungMargin n depth ++ closing.toList))) := by
  have hcomma : reflow n ",".toList = [','] := reflow_of_unbroken (by decide)
  rw [bracketed_of_ne_nil hne]
  simp only [String.toList_append, String.toList_intercalate, reflow_append, reflow_intercalate, List.map_map,
    reflow_of_unbroken hopening, reflow_of_unbroken hclosing, hcomma, List.append_assoc]
  rfl

theorem hung_array {items : List Value} (hne : items ≠ []) : hung n depth (.array items) =
    '[' :: (hungMargin n (depth + 1) ++ (hungItems n (depth + 1) items ++ (hungMargin n depth ++ [']']))) := by
  rw [hung, Value.write, writeItems_eq_map, reflow_bracketed (by decide) (by decide) (by simpa using hne), List.map_map]
  rfl

theorem hung_object {entries : List (String × Value)} (hne : entries ≠ []) : hung n depth (.object entries) =
    '\x7b' :: (hungMargin n (depth + 1) ++
      (hungEntries n (depth + 1) entries ++ (hungMargin n depth ++ ['\x7d']))) := by
  have hcolon : reflow n ": ".toList = [':', ' '] := reflow_of_unbroken (by decide)
  have hentry (e : String × Value) : reflow n (stringText .unicode e.1 ++ ": " ++ e.2.write (depth + 1)).toList =
      hungEntry n (depth + 1) e := by
    rw [String.toList_append, String.toList_append, reflow_append, reflow_append, hcolon, List.append_assoc]
    rfl
  rw [hung, Value.write, writeEntries_eq_map, reflow_bracketed (by decide) (by decide) (by simpa using hne),
    List.map_map]
  simp only [Function.comp_def, hentry]
  rfl

theorem hungItems_singleton (v : Value) : hungItems n depth [v] = hung n depth v := by
  rw [hungItems, List.map_singleton, List.intercalate_singleton]

theorem hungItems_cons (v w : Value) (items : List Value) : hungItems n depth (v :: w :: items) =
    hung n depth v ++ ',' :: (hungMargin n depth ++ hungItems n depth (w :: items)) := by
  rw [hungItems, List.map_cons, List.map_cons, List.intercalate_cons_cons, List.append_assoc]
  rfl

theorem hungEntries_singleton (e : String × Value) : hungEntries n depth [e] = hungEntry n depth e := by
  rw [hungEntries, List.map_singleton, List.intercalate_singleton]

theorem hungEntries_cons (d e : String × Value) (entries : List (String × Value)) :
    hungEntries n depth (d :: e :: entries) =
      hungEntry n depth d ++ ',' :: (hungMargin n depth ++ hungEntries n depth (e :: entries)) := by
  rw [hungEntries, List.map_cons, List.map_cons, List.intercalate_cons_cons, List.append_assoc]
  rfl

end Written

section Lists

variable {fuel : Nat} {s r rest close : List Char} {v : Value} {f : Fault}
  {e : String × Value} {done : List (String × Value)} {n depth : Nat}

theorem Starts.skip_append (h : Starts s) (rest : List Char) : skip (s ++ rest) = s ++ rest := by
  obtain ⟨c, r, rfl, hc, -⟩ := h
  exact List.dropWhile_cons_of_neg (by simp [hc])

theorem Starts.append (h : Starts s) (rest : List Char) : Starts (s ++ rest) := by
  obtain ⟨c, r, rfl, hc⟩ := h
  exact ⟨c, r ++ rest, rfl, hc⟩

theorem starts_hungItems (h : Starts (hung n depth v)) (items : List Value) :
    Starts (hungItems n depth (v :: items)) := by
  cases items with
  | nil => rwa [hungItems_singleton]
  | cons w items =>
    rw [hungItems_cons]
    exact h.append _

theorem readItems_last (h : readValue fuel s = .ok (v, r)) (hr : skip r = ']' :: rest) :
    readItems (fuel + 1) s = .ok (.array [v], rest) := by
  simp only [readItems, h, bind, Except.bind, hr]
  rfl

theorem readItems_next (h : readValue fuel s = .ok (v, r)) (hr : skip r = ',' :: rest) : readItems (fuel + 1) s =
    (readItems fuel (skip rest)).bind fun
      | (.array vs, r) => .ok (.array (v :: vs), r)
      | other => .ok other := by
  simp only [readItems, h, bind, Except.bind, hr]
  rfl

theorem readItems_of_error (h : readValue fuel s = .error f) : readItems (fuel + 1) s = .error f := by
  rw [readItems, h]
  rfl

theorem readItems_hung (hclose : ∀ c ∈ close, isSpace c = true) (v : Value) (items : List Value)
    (hstarts : ∀ w ∈ v :: items, Starts (hung n depth w)) (hshows : ∀ w ∈ v :: items, Shows (hung n depth w) w)
    (rest : List Char) {fuel : Nat} (hfuel : (hungItems n depth (v :: items)).length < fuel) :
    Comes (.array (v :: items)) rest
      (readItems fuel (hungItems n depth (v :: items) ++ (close ++ ']' :: rest))) := by
  -- By induction on the items: each takes one step of fuel, and its text is not empty, so the bound carries over.
  obtain ⟨fuel, rfl⟩ : ∃ k, fuel = k + 1 := ⟨fuel - 1, by omega⟩
  induction items generalizing v fuel with
  | nil =>
    rw [hungItems_singleton] at hfuel ⊢
    have hread := hshows v List.mem_cons_self fuel (close ++ ']' :: rest) (by omega) (.gap hclose (by decide))
    refine ⟨fun h => ?_, fun h => ?_⟩
    · have hv := hread.1 fun hv => h (.item List.mem_cons_self hv)
      exact readItems_last hv (skip_gap hclose _)
    · obtain ⟨w, hw, hbroken⟩ := broken_array_iff.1 h
      rw [List.mem_singleton.1 hw] at hbroken
      obtain ⟨f, hf⟩ := hread.2 hbroken
      exact ⟨f, readItems_of_error hf⟩
  | cons w items ih =>
    rw [List.forall_mem_cons] at hstarts hshows
    rw [hungItems_cons] at hfuel ⊢
    simp only [List.length_append, List.length_cons] at hfuel
    simp only [List.append_assoc, List.cons_append]
    obtain ⟨fuel, rfl⟩ : ∃ k, fuel = k + 1 := ⟨fuel - 1, by omega⟩
    have hread := hshows.1 (fuel + 1) (',' :: (hungMargin n depth ++ (hungItems n depth (w :: items) ++
      (close ++ ']' :: rest)))) (by omega) (by rintro c ⟨⟩; decide)
    have hrest := ih w hstarts.2 hshows.2 fuel (by omega)
    have hskip : skip (hungMargin n depth ++ (hungItems n depth (w :: items) ++ (close ++ ']' :: rest))) =
        hungItems n depth (w :: items) ++ (close ++ ']' :: rest) := by
      rw [skip_gap (isSpace_hungMargin n depth)]
      exact (starts_hungItems (hstarts.2 w List.mem_cons_self) items).skip_append _
    by_cases hv : Broken v
    · refine ⟨fun h => absurd (.item List.mem_cons_self hv) h, fun _ => ?_⟩
      obtain ⟨f, hf⟩ := hread.2 hv
      exact ⟨f, readItems_of_error hf⟩
    · rw [readItems_next (hread.1 hv) rfl, hskip]
      refine ⟨fun h => ?_, fun h => ?_⟩
      · rw [hrest.1 fun hbroken => ?_]
        · rfl
        · obtain ⟨u, hu, hbroken⟩ := broken_array_iff.1 hbroken
          exact h (.item (List.mem_cons_of_mem v hu) hbroken)
      · obtain ⟨u, hu, hbroken⟩ := broken_array_iff.1 h
        have hu : u ∈ w :: items := (List.mem_cons.1 hu).resolve_left fun heq => hv (heq ▸ hbroken)
        obtain ⟨f, hf⟩ := hrest.2 (.item hu hbroken)
        rw [hf]
        exact ⟨f, rfl⟩

/-- An entry whose key or whose value is broken. -/
def BrokenEntry (e : String × Value) : Prop := Breaks e.1 ∨ Broken e.2

theorem hungEntry_append (n depth : Nat) (e : String × Value) (rest : List Char) : hungEntry n depth e ++ rest =
    '"' :: (reflow n (e.1.toList.flatMap (escape .unicode)) ++ '"' :: ':' :: ' ' :: (hung n depth e.2 ++ rest)) := by
  rw [hungEntry, reflow_stringText]
  simp

theorem skip_value (h : Starts s) (rest : List Char) : skip (' ' :: (s ++ rest)) = s ++ rest := h.skip_append rest

theorem skip_colon (s : List Char) : skip (':' :: s) = ':' :: s := rfl

theorem readEntries_last (hsound : ¬ BrokenEntry e) (hstarts : Starts (hung n depth e.2))
    (hread : Comes e.2 s (readValue fuel (hung n depth e.2 ++ s))) (hs : skip s = '\x7d' :: rest) :
    readEntries (fuel + 1) done (hungEntry n depth e ++ s) = .ok (.object (Entries.put e.1 e.2 done), rest) := by
  have hkey := readString_reflow n (fun h => hsound (.inl h)) (':' :: ' ' :: (hung n depth e.2 ++ s))
  have hvalue := hread.1 fun h => hsound (.inr h)
  rw [hungEntry_append, readEntries]
  simp only [hkey, bind, Except.bind, skip_colon, skip_value hstarts, hvalue, hs]
  rfl

theorem readEntries_next (hsound : ¬ BrokenEntry e) (hstarts : Starts (hung n depth e.2))
    (hread : Comes e.2 s (readValue fuel (hung n depth e.2 ++ s))) (hs : skip s = ',' :: rest) :
    readEntries (fuel + 1) done (hungEntry n depth e ++ s) =
      readEntries fuel (Entries.put e.1 e.2 done) (skip rest) := by
  have hkey := readString_reflow n (fun h => hsound (.inl h)) (':' :: ' ' :: (hung n depth e.2 ++ s))
  have hvalue := hread.1 fun h => hsound (.inr h)
  rw [hungEntry_append, readEntries]
  simp only [hkey, bind, Except.bind, skip_colon, skip_value hstarts, hvalue, hs]

theorem readEntries_broken (hbroken : BrokenEntry e) (hstarts : Starts (hung n depth e.2))
    (hread : Comes e.2 s (readValue fuel (hung n depth e.2 ++ s))) :
    ∃ f, readEntries (fuel + 1) done (hungEntry n depth e ++ s) = .error f := by
  rw [hungEntry_append, readEntries]
  by_cases hkey : Breaks e.1
  · obtain ⟨f, hf⟩ := readString_reflow_raw n hkey (':' :: ' ' :: (hung n depth e.2 ++ s))
    exact ⟨f, by simp only [hf, bind, Except.bind]⟩
  · obtain ⟨f, hf⟩ := hread.2 (hbroken.resolve_left hkey)
    exact ⟨f, by simp only [readString_reflow n hkey, bind, Except.bind, skip_colon, skip_value hstarts, hf]⟩

theorem exists_hungEntries (n depth : Nat) (e : String × Value) (entries : List (String × Value)) :
    ∃ tail, hungEntries n depth (e :: entries) = '"' :: tail := by
  have hfirst := hungEntry_append n depth e []
  rw [List.append_nil] at hfirst
  cases entries with
  | nil => exact ⟨_, (hungEntries_singleton e).trans hfirst⟩
  | cons next entries =>
    rw [hungEntries_cons, hfirst]
    exact ⟨_, rfl⟩

theorem skip_hungEntries (n depth : Nat) (e : String × Value) (entries : List (String × Value)) (rest : List Char) :
    skip (hungMargin n depth ++ (hungEntries n depth (e :: entries) ++ rest)) =
      hungEntries n depth (e :: entries) ++ rest := by
  obtain ⟨tail, htail⟩ := exists_hungEntries n depth e entries
  rw [skip_gap (isSpace_hungMargin n depth), htail]
  rfl

theorem readEntries_hung (hclose : ∀ c ∈ close, isSpace c = true) (e : String × Value)
    (entries : List (String × Value)) (hstarts : ∀ d ∈ e :: entries, Starts (hung n depth d.2))
    (hshows : ∀ d ∈ e :: entries, Shows (hung n depth d.2) d.2) (done : List (String × Value)) (rest : List Char)
    {fuel : Nat} (hfuel : (hungEntries n depth (e :: entries)).length < fuel) :
    ((∀ d ∈ e :: entries, ¬ BrokenEntry d) →
      readEntries fuel done (hungEntries n depth (e :: entries) ++ (close ++ '\x7d' :: rest)) =
        .ok (.object (Entries.putAll (e :: entries) done), rest)) ∧
    ((∃ d ∈ e :: entries, BrokenEntry d) → ∃ f,
      readEntries fuel done (hungEntries n depth (e :: entries) ++ (close ++ '\x7d' :: rest)) = .error f) := by
  obtain ⟨fuel, rfl⟩ : ∃ k, fuel = k + 1 := ⟨fuel - 1, by omega⟩
  have hlength (d : String × Value) : (hung n depth d.2).length ≤ (hungEntry n depth d).length := by
    simp only [hungEntry, List.length_append, List.length_cons]
    omega
  -- Entries that were read lie in `done`, so the induction is on those that are still ahead.
  induction entries generalizing e done fuel with
  | nil =>
    rw [hungEntries_singleton] at hfuel ⊢
    rw [List.forall_mem_singleton] at hstarts hshows
    have hread := hshows fuel (close ++ '\x7d' :: rest) (Nat.le_trans (hlength e) (by omega)) (.gap hclose (by decide))
    refine ⟨fun h => ?_, fun ⟨d, hd, hbroken⟩ => ?_⟩
    · exact readEntries_last (h e List.mem_cons_self) hstarts hread (skip_gap hclose _)
    · rw [List.mem_singleton.1 hd] at hbroken
      exact readEntries_broken hbroken hstarts hread
  | cons next entries ih =>
    rw [List.forall_mem_cons] at hstarts hshows
    rw [hungEntries_cons] at hfuel ⊢
    simp only [List.length_append, List.length_cons] at hfuel
    simp only [List.append_assoc, List.cons_append]
    obtain ⟨fuel, rfl⟩ : ∃ k, fuel = k + 1 := ⟨fuel - 1, by omega⟩
    have hread := hshows.1 (fuel + 1) (',' :: (hungMargin n depth ++ (hungEntries n depth (next :: entries) ++
      (close ++ '\x7d' :: rest)))) (Nat.le_trans (hlength e) (by omega)) (by rintro c ⟨⟩; decide)
    have hrest := ih next hstarts.2 hshows.2 (Entries.put e.1 e.2 done) fuel (by omega)
    by_cases hbroken : BrokenEntry e
    · exact ⟨fun h => absurd hbroken (h e List.mem_cons_self), fun _ => readEntries_broken hbroken hstarts.1 hread⟩
    · rw [readEntries_next hbroken hstarts.1 hread rfl, skip_hungEntries]
      refine ⟨fun h => ?_, fun ⟨d, hd, hd'⟩ => ?_⟩
      · exact hrest.1 fun d hd => h d (List.mem_cons_of_mem e hd)
      · exact hrest.2 ⟨d, (List.mem_cons.1 hd).resolve_left fun heq => hbroken (heq ▸ hd'), hd'⟩

end Lists

section Read

variable {n depth fuel : Nat} {rest : List Char} {v : Value} {text : String}

theorem IsWhole.unbroken (h : IsWhole text) : Unbroken text.toList := by
  intro c hc
  have hdigit := h.digits c hc
  rw [Bool.eq_false_iff]
  intro hbreak
  simp only [isLineBreak, Bool.or_eq_true, beq_iff_eq, or_assoc] at hbreak
  rcases hbreak with rfl | rfl | rfl | rfl | rfl | rfl | rfl | rfl | rfl | rfl <;> exact absurd hdigit (by decide)

theorem hung_of_unbroken (word : String) (hword : v.write depth = word) (h : Unbroken word.toList) :
    hung n depth v = word.toList := by
  rw [hung, hword, reflow_of_unbroken h]

theorem hung_null : hung n depth .null = ['n', 'u', 'l', 'l'] := hung_of_unbroken "null" rfl (by decide)

theorem hung_true : hung n depth (.bool true) = ['t', 'r', 'u', 'e'] := hung_of_unbroken "true" rfl (by decide)

theorem hung_false : hung n depth (.bool false) = ['f', 'a', 'l', 's', 'e'] := hung_of_unbroken "false" rfl (by decide)

theorem hung_number (h : IsWhole text) : hung n depth (.number text) = text.toList :=
  hung_of_unbroken text rfl h.unbroken

theorem hung_empty_array : hung n depth (.array []) = ['[', ']'] := hung_of_unbroken "[]" rfl (by decide)

theorem hung_empty_object : hung n depth (.object []) = ['\x7b', '\x7d'] := hung_of_unbroken "\x7b\x7d" rfl (by decide)

theorem Plain.starts (hv : Plain v) (n depth : Nat) : Starts (hung n depth v) := by
  cases hv with
  | null => exact ⟨_, _, hung_null, by decide, by decide⟩
  | bool b =>
    cases b with
    | true => exact ⟨_, _, hung_true, by decide, by decide⟩
    | false => exact ⟨_, _, hung_false, by decide, by decide⟩
  | number h =>
    obtain ⟨c, cs, hchars, hc⟩ := h.exists_cons
    refine ⟨c, cs, (hung_number h).trans hchars, ?_, ?_⟩
    · rw [Bool.eq_false_iff]
      intro hspace
      simp only [isSpace, Bool.or_eq_true, beq_iff_eq, or_assoc] at hspace
      rcases hspace with rfl | rfl | rfl | rfl <;> exact absurd hc (by decide)
    · rintro rfl
      exact absurd hc (by decide)
  | string text => exact ⟨_, _, reflow_stringText n text, by decide, by decide⟩
  | @array items h =>
    cases items with
    | nil => exact ⟨_, _, hung_empty_array, by decide, by decide⟩
    | cons v items => exact ⟨_, _, hung_array (List.cons_ne_nil v items), by decide, by decide⟩
  | @object entries hkeys h =>
    cases entries with
    | nil => exact ⟨_, _, hung_empty_object, by decide, by decide⟩
    | cons e entries => exact ⟨_, _, hung_object (List.cons_ne_nil e entries), by decide, by decide⟩

theorem Comes.of_ok {r : Except Fault (Value × List Char)} (hv : ¬ Broken v) (h : r = .ok (v, rest)) : Comes v rest r :=
  ⟨fun _ => h, fun hbroken => absurd hbroken hv⟩

theorem comes_string (n fuel : Nat) (text : String) (rest : List Char) : Comes (.string text) rest
    (readValue (fuel + 1) (hung n depth (.string text) ++ rest)) := by
  have hform : hung n depth (.string text) ++ rest =
      '"' :: (reflow n (text.toList.flatMap (escape .unicode)) ++ '"' :: rest) := by
    rw [hung, Value.write, reflow_stringText]
    simp
  rw [hform, readValue]
  refine ⟨fun h => ?_, fun h => ?_⟩
  · rw [readString_reflow n fun hbreaks => h (.string hbreaks)]
    rfl
  · obtain ⟨f, hf⟩ := readString_reflow_raw n (broken_string_iff.1 h) rest
    rw [hf]
    exact ⟨f, rfl⟩

theorem readValue_items {s t : List Char} (h : skip s = t) (ht : Starts t) :
    readValue (fuel + 1) ('[' :: s) = readItems fuel t := by
  obtain ⟨c, r, rfl, -, hc⟩ := ht
  rw [readValue, h]
  split
  · next heq => exact absurd (List.cons.inj heq).1 hc
  · rfl

theorem comes_array {items : List Value} (hstarts : ∀ v ∈ items, Starts (hung n (depth + 1) v))
    (hshows : ∀ v ∈ items, Shows (hung n (depth + 1) v) v) (hfuel : (hung n depth (.array items)).length ≤ fuel + 1)
    (rest : List Char) : Comes (.array items) rest (readValue (fuel + 1) (hung n depth (.array items) ++ rest)) := by
  cases items with
  | nil =>
    rw [hung_empty_array]
    refine .of_ok (fun h => ?_) rfl
    obtain ⟨v, hv, -⟩ := broken_array_iff.1 h
    exact List.not_mem_nil hv
  | cons v items =>
    have hstart := starts_hungItems (hstarts v List.mem_cons_self) items
    rw [hung_array (List.cons_ne_nil v items)] at hfuel ⊢
    simp only [List.length_cons, List.length_append] at hfuel
    simp only [List.cons_append, List.append_assoc, List.nil_append]
    rw [readValue_items ((skip_gap (isSpace_hungMargin n (depth + 1)) _).trans (hstart.skip_append _))
      (hstart.append _)]
    exact readItems_hung (isSpace_hungMargin n depth) v items hstarts hshows rest (by omega)

theorem comes_object {entries : List (String × Value)} (hkeys : (entries.map Prod.fst).Nodup)
    (hstarts : ∀ e ∈ entries, Starts (hung n (depth + 1) e.2))
    (hshows : ∀ e ∈ entries, Shows (hung n (depth + 1) e.2) e.2)
    (hfuel : (hung n depth (.object entries)).length ≤ fuel + 1) (rest : List Char) :
    Comes (.object entries) rest (readValue (fuel + 1) (hung n depth (.object entries) ++ rest)) := by
  cases entries with
  | nil =>
    rw [hung_empty_object]
    refine .of_ok (fun h => ?_) rfl
    obtain ⟨e, he, -⟩ := broken_object_iff.1 h
    exact List.not_mem_nil he
  | cons e entries =>
    obtain ⟨tail, htail⟩ := exists_hungEntries n (depth + 1) e entries
    have hskip := skip_hungEntries n (depth + 1) e entries (hungMargin n depth ++ '\x7d' :: rest)
    rw [htail, List.cons_append] at hskip
    rw [hung_object (List.cons_ne_nil e entries)] at hfuel ⊢
    simp only [List.length_cons, List.length_append] at hfuel
    have hlong : (hungEntries n (depth + 1) (e :: entries)).length < fuel := by omega
    have hread := readEntries_hung (isSpace_hungMargin n depth) e entries hstarts hshows [] rest hlong
    -- As the keys differ, putting the entries in one by one gives back their list.
    rw [htail, Entries.putAll_of_distinct hkeys [] fun _ _ => rfl, List.nil_append] at hread
    rw [htail]
    simp only [List.cons_append, List.append_assoc, List.nil_append] at hread ⊢
    rw [readValue_entries fuel hskip]
    refine ⟨fun h => hread.1 fun d hd hbroken => h (broken_object_iff.2 ⟨d, hd, hbroken⟩), fun h => ?_⟩
    exact hread.2 (broken_object_iff.1 h)

theorem Shows.of_pos {text : List Char} (hstarts : Starts text)
    (h : ∀ fuel rest, text.length ≤ fuel + 1 → Follows rest → Comes v rest (readValue (fuel + 1) (text ++ rest))) :
    Shows text v := by
  intro fuel rest hfuel hrest
  obtain ⟨fuel, rfl⟩ : ∃ k, fuel = k + 1 := by
    obtain ⟨c, r, rfl, -⟩ := hstarts
    rw [List.length_cons] at hfuel
    exact ⟨fuel - 1, by omega⟩
  exact h fuel rest hfuel hrest

/-- The value is read back, unless one of its texts has been taken apart. -/
theorem Plain.shows (hv : Plain v) (n depth : Nat) : Shows (hung n depth v) v := by
  refine .of_pos (hv.starts n depth) fun fuel rest hfuel hrest => ?_
  -- On the value, for every depth, fuel and rest: lists and objects go on one level deeper.
  induction hv generalizing depth fuel rest with
  | null =>
    rw [hung_null]
    exact .of_ok nofun rfl
  | bool b =>
    cases b with
    | true =>
      rw [hung_true]
      exact .of_ok nofun rfl
    | false =>
      rw [hung_false]
      exact .of_ok nofun rfl
  | number h =>
    rw [hung_number h]
    exact .of_ok nofun (readValue_number h hrest fuel)
  | string text => exact comes_string n fuel text rest
  | array h ih =>
    have hstarts := fun v hv => (h v hv).starts n (depth + 1)
    exact comes_array hstarts (fun v hv => .of_pos (hstarts v hv) (ih v hv (depth + 1))) hfuel rest
  | object hkeys h ih =>
    have hstarts := fun e he => (h e he).starts n (depth + 1)
    exact comes_object hkeys hstarts (fun e he => .of_pos (hstarts e he) (ih e he (depth + 1))) hfuel rest

end Read

section Returns

variable {opening closing : String} {depth : Nat} {v : Value}

theorem cr_not_mem_margin (depth : Nat) : '\r' ∉ (margin depth).toList := by
  unfold margin spaces
  rw [String.toList_append, List.mem_append, not_or]
  refine ⟨by decide, fun h => ?_⟩
  rw [String.toList_ofList] at h
  exact absurd (List.eq_of_mem_replicate h) (by decide)

theorem cr_not_mem_bracketed (hopening : '\r' ∉ opening.toList) (hclosing : '\r' ∉ closing.toList) {items : List String}
    (h : ∀ item ∈ items, '\r' ∉ item.toList) : '\r' ∉ (bracketed opening closing depth items).toList := by
  by_cases hne : items = []
  · rw [hne, bracketed, String.toList_append, List.mem_append, not_or]
    exact ⟨hopening, hclosing⟩
  · have hjoined : '\r' ∉ (("," ++ margin (depth + 1)).intercalate items).toList := by
      intro hmem
      rcases mem_of_mem_intercalate hmem with hmem | ⟨item, hitem, hmem⟩
      · rw [String.toList_append, List.mem_append] at hmem
        exact hmem.elim (by decide) (cr_not_mem_margin _)
      · exact h item hitem hmem
    rw [bracketed_of_ne_nil hne]
    simp only [String.toList_append, List.mem_append, hopening, hclosing, hjoined, cr_not_mem_margin, or_self,
      not_false_eq_true]

theorem Plain.cr_not_mem_write (hv : Plain v) (depth : Nat) : '\r' ∉ (v.write depth).toList := by
  induction hv generalizing depth with
  | null => exact (by decide : '\r' ∉ "null".toList)
  | bool b =>
    cases b with
    | true => exact (by decide : '\r' ∉ "true".toList)
    | false => exact (by decide : '\r' ∉ "false".toList)
  | number h => exact fun hmem => absurd (h.unbroken _ hmem) (by decide)
  | string text => exact cr_not_mem_stringText text
  | array h ih =>
    rw [Value.write, writeItems_eq_map]
    refine cr_not_mem_bracketed (by decide) (by decide) fun item hitem => ?_
    obtain ⟨v, hv, rfl⟩ := List.mem_map.1 hitem
    exact ih v hv (depth + 1)
  | object hkeys h ih =>
    rw [Value.write, writeEntries_eq_map]
    refine cr_not_mem_bracketed (by decide) (by decide) fun item hitem => ?_
    obtain ⟨e, he, rfl⟩ := List.mem_map.1 hitem
    rw [String.toList_append, String.toList_append, List.mem_append, List.mem_append]
    exact fun hmem => hmem.elim (fun hmem => hmem.elim (cr_not_mem_stringText e.1) (by decide)) (ih e he (depth + 1))

theorem getLast?_bracketed (items : List String) :
    (bracketed opening "]" depth items).toList.getLast? = some ']' := by
  cases items with
  | nil => rw [bracketed, String.toList_append, List.getLast?_append]; rfl
  | cons item items =>
    rw [bracketed_of_ne_nil (List.cons_ne_nil item items), String.toList_append, List.getLast?_append]
    rfl

end Returns

end Scaffold.Json
