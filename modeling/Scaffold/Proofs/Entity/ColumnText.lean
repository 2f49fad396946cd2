import Mathlib.Data.List.Induction
import Mathlib.Data.List.TakeWhile
import Mathlib.Data.Nat.Digits.Defs
import Scaffold.Entity.ColumnText
import Scaffold.Proofs.Java.Identifiers

/-! Clauses of column definitions, told by what they are made of. Blanks may stand between their parts, and key words
have any case. -/

namespace Scaffold.Entity.ColumnText

open Scaffold.Text

variable {s r t w front rest : List Char} {c : Char} {n : Nat}

/-- A key word in any case. -/
def Spells (word : String) (s : List Char) : Prop := s.map Char.toLower = word.toList

def Blanks (s : List Char) : Prop := ∀ c ∈ s, isBlank c = true

section Words

theorem lowerAscii_eq (c : Char) : sameLetter.lowerAscii c = c.toLower := by
  have hletters : ∀ n ∈ List.range' 65 26, sameLetter.lowerAscii (Char.ofNat n) = (Char.ofNat n).toLower := by decide
  by_cases h : 'A' ≤ c ∧ c ≤ 'Z'
  · have hA : 65 ≤ c.toNat := h.1
    have hZ : c.toNat ≤ 90 := h.2
    have hc := hletters c.toNat (List.mem_range'_1.2 ⟨hA, by omega⟩)
    rwa [Char.ofNat_toNat] at hc
  · have hval : ¬(c.val ≥ 'A'.val ∧ c.val ≤ 'Z'.val) := h
    unfold sameLetter.lowerAscii Char.toLower
    rw [dif_neg hval, if_neg (by simpa using h)]

theorem afterWord?_eq_some_iff {p : List Char} :
    afterWord? p s = some r ↔ ∃ w, s = w ++ r ∧ w.map Char.toLower = p := by
  -- The recursion is on the word, and the text loses a character with each letter of it.
  induction p generalizing s with
  | nil =>
    simp only [afterWord?, Option.some.injEq, List.map_eq_nil_iff]
    constructor
    · rintro rfl
      exact ⟨[], rfl, rfl⟩
    · rintro ⟨w, rfl, rfl⟩
      rfl
  | cons a p ih =>
    cases s with
    | nil => simp [afterWord?]
    | cons b s =>
      rw [afterWord?, sameLetter, lowerAscii_eq]
      by_cases h : a = b.toLower
      · rw [if_pos (by simp [h]), ih]
        constructor
        · rintro ⟨w, rfl, rfl⟩
          exact ⟨b :: w, rfl, by rw [List.map_cons, h]⟩
        · rintro ⟨_ | ⟨d, w⟩, hs, hw⟩
          · exact nomatch hw
          · obtain ⟨rfl, rfl⟩ := List.cons.inj hs
            exact ⟨w, rfl, (List.cons.inj hw).2⟩
      · rw [if_neg (by simpa using h)]
        refine iff_of_false nofun ?_
        rintro ⟨_ | ⟨d, w⟩, hs, hw⟩
        · exact nomatch hw
        · obtain ⟨rfl, rfl⟩ := List.cons.inj hs
          exact h (List.cons.inj hw).1.symm

theorem toLower_of_blank (h : isBlank c = true) : c.toLower = c := by
  unfold Char.toLower
  rw [dif_neg]
  rintro ⟨hA, hZ⟩
  have hA : 65 ≤ c.toNat := hA
  have hZ : c.toNat ≤ 90 := hZ
  simp only [isBlank, within, blanks, List.any_cons, List.any_nil, Bool.or_false, Bool.or_eq_true, Bool.and_eq_true,
    decide_eq_true_eq] at h
  omega

theorem dropBlanks_spelled {word : String} (hw : Spells word w) (hne : word ≠ "")
    (hword : word.toList.any isBlank = false) (s : List Char) : dropBlanks (w ++ s) = w ++ s := by
  cases w with
  | nil => exact absurd (String.toList_eq_nil_iff.1 hw.symm) hne
  | cons c w =>
    refine dropBlanks_cons_of_not (w ++ s) ?_
    have hmem : c.toLower ∈ word.toList := by
      rw [← show (c :: w).map Char.toLower = word.toList from hw]
      exact List.mem_cons_self
    cases hc : isBlank c with
    | false => rfl
    | true =>
      have hlower := List.any_eq_false.1 hword _ hmem
      rw [toLower_of_blank hc, hc] at hlower
      exact absurd rfl hlower

theorem exists_blanks (s : List Char) : ∃ gap, Blanks gap ∧ s = gap ++ dropBlanks s :=
  ⟨s.takeWhile isBlank, fun _ hc => List.mem_takeWhile_imp hc, (List.takeWhile_append_dropWhile ..).symm⟩

theorem afterBlanks?_of_blanks (hne : s ≠ []) (h : Blanks s) (t : List Char) :
    afterBlanks? (s ++ t) = some (dropBlanks t) := by
  obtain ⟨c, s, rfl⟩ := List.exists_cons_of_ne_nil hne
  obtain ⟨hc, hs⟩ := List.forall_mem_cons.1 h
  rw [List.cons_append, afterBlanks?, if_pos hc, dropBlanks_append hs]

theorem exists_of_afterBlanks? (h : afterBlanks? s = some t) : ∃ gap, gap ≠ [] ∧ Blanks gap ∧ s = gap ++ t := by
  cases s with
  | nil => exact nomatch h
  | cons c s =>
    rw [afterBlanks?] at h
    split at h
    · next hc =>
      obtain ⟨gap, hgap, hs⟩ := exists_blanks s
      rw [Option.some.inj h] at hs
      exact ⟨c :: gap, List.cons_ne_nil c gap, List.forall_mem_cons.2 ⟨hc, hgap⟩, by rw [hs, List.cons_append]⟩
    · exact nomatch h

theorem afterChar?_eq_some_iff : afterChar? c s = some r ↔ s = c :: r := by
  cases s with
  | nil => simp [afterChar?]
  | cons d s =>
    by_cases h : d = c
    · simp [afterChar?, h]
    · simp [afterChar?, h]

end Words

theorem guard_eq_some_iff {p : Prop} [Decidable p] {u : Unit} : (guard p : Option Unit) = some u ↔ p := by
  by_cases h : p <;> simp [guard, h]

section Search

variable {α : Type} {f : Option Char → List Char → Option α} {before : Option Char} {a : α}

theorem getLast?_cons_or (c : Char) (l : List Char) (before : Option Char) :
    (c :: l).getLast?.or before = l.getLast?.or (some c) := by
  rw [List.getLast?_cons]
  cases l.getLast? <;> rfl

/-- The answer of a search comes from the first place that has one. -/
theorem firstMatch_eq_some_iff :
    firstMatch f before s = some a ↔ ∃ front rest, s = front ++ rest ∧ f (front.getLast?.or before) rest = some a ∧
      ∀ l r, s = l ++ r → l.length < front.length → f (l.getLast?.or before) r = none := by
  induction s generalizing before with
  | nil =>
    constructor
    · intro h
      exact ⟨[], [], rfl, h, fun l r _ hl => absurd hl (Nat.not_lt_zero _)⟩
    · rintro ⟨front, rest, hs, hf, -⟩
      obtain ⟨rfl, rfl⟩ := List.append_eq_nil_iff.1 hs.symm
      exact hf
  | cons c s ih =>
    rw [firstMatch]
    cases hc : f before (c :: s) with
    | some b =>
      constructor
      · intro h
        exact ⟨[], c :: s, rfl, hc.trans h, fun l r _ hl => absurd hl (Nat.not_lt_zero _)⟩
      · rintro ⟨front, rest, hs, hf, hfirst⟩
        cases front with
        | nil =>
          obtain rfl : c :: s = rest := hs
          exact hc.symm.trans hf
        | cons d front =>
          -- A place further on counts only if this one has no answer.
          have hnone := hfirst [] (c :: s) rfl (Nat.succ_pos _)
          exact absurd (hc.symm.trans hnone) nofun
    | none =>
      change firstMatch f (some c) s = some a ↔ _
      rw [ih]
      constructor
      · rintro ⟨front, rest, rfl, hf, hfirst⟩
        refine ⟨c :: front, rest, rfl, by rwa [getLast?_cons_or], fun l r hs hl => ?_⟩
        cases l with
        | nil =>
          obtain rfl : c :: (front ++ rest) = r := hs
          exact hc
        | cons d l =>
          obtain ⟨rfl, htail⟩ := List.cons.inj hs
          rw [getLast?_cons_or]
          exact hfirst l r htail (Nat.lt_of_succ_lt_succ hl)
      · rintro ⟨front, rest, hs, hf, hfirst⟩
        cases front with
        | nil =>
          obtain rfl : c :: s = rest := hs
          exact absurd (hc.symm.trans hf) nofun
        | cons d front =>
          obtain ⟨rfl, rfl⟩ := List.cons.inj hs
          rw [getLast?_cons_or] at hf
          refine ⟨front, rest, rfl, hf, fun l r hs hl => ?_⟩
          rw [← getLast?_cons_or c l before]
          exact hfirst (c :: l) r (congrArg (c :: ·) hs) (Nat.succ_lt_succ hl)

theorem firstMatch_eq_none_iff :
    firstMatch f before s = none ↔ ∀ front rest, s = front ++ rest → f (front.getLast?.or before) rest = none := by
  constructor
  · intro h
    induction s generalizing before with
    | nil =>
      intro front rest hs
      obtain ⟨rfl, rfl⟩ := List.append_eq_nil_iff.1 hs.symm
      exact h
    | cons c s ih =>
      rw [firstMatch] at h
      cases hc : f before (c :: s) with
      | some b => simp [hc] at h
      | none =>
        rw [hc] at h
        intro front rest hs
        cases front with
        | nil =>
          obtain rfl : c :: s = rest := hs
          exact hc
        | cons d front =>
          obtain ⟨rfl, rfl⟩ := List.cons.inj hs
          rw [getLast?_cons_or]
          exact ih h front rest rfl
  · intro h
    by_contra hsome
    obtain ⟨a, ha⟩ := Option.ne_none_iff_exists'.1 hsome
    obtain ⟨front, rest, hs, hf, -⟩ := firstMatch_eq_some_iff.1 ha
    rw [h front rest hs] at hf
    exact nomatch hf

end Search

/-- A place of a text into which no word runs from the left. -/
def FreeLeft (front : List Char) : Prop := ∀ c ∈ front.getLast?, isWord c = false

theorem freeLeft_iff : freeLeft front.getLast? = true ↔ FreeLeft front := by
  unfold freeLeft FreeLeft
  cases front.getLast? <;> simp

/-- The words `not null` stand in the text, each as a whole word and with blanks in between. -/
def SaysNotNull (text : List Char) : Prop :=
  ∃ front word gap word' rest, text = front ++ (word ++ (gap ++ (word' ++ rest))) ∧ Spells "not" word ∧ gap ≠ [] ∧
    Blanks gap ∧ Spells "null" word' ∧ FreeLeft front ∧ ∀ c ∈ rest.head?, isWord c = false

theorem notNullHere?_iff {before : Option Char} : notNullHere? before s = some () ↔ freeLeft before = true ∧
    ∃ word gap word' rest, s = word ++ (gap ++ (word' ++ rest)) ∧ Spells "not" word ∧ gap ≠ [] ∧ Blanks gap ∧
      Spells "null" word' ∧ ∀ c ∈ rest.head?, isWord c = false := by
  have hright (rest : List Char) : freeRight rest = true ↔ ∀ c ∈ rest.head?, isWord c = false := by
    unfold freeRight
    cases rest <;> simp
  unfold notNullHere?
  simp only [bind, Option.bind_eq_some_iff, guard_eq_some_iff, afterWord?_eq_some_iff]
  constructor
  · rintro ⟨-, hfree, _, ⟨word, rfl, hword⟩, _, hgap, rest, ⟨word', rfl, hword'⟩, hrest⟩
    obtain ⟨gap, hne, hblank, rfl⟩ := exists_of_afterBlanks? hgap
    exact ⟨hfree, word, gap, word', rest, rfl, hword, hne, hblank, hword', (hright rest).1 hrest⟩
  · rintro ⟨hfree, word, gap, word', rest, rfl, hword, hne, hblank, hword', hrest⟩
    refine ⟨(), hfree, _, ⟨word, rfl, hword⟩, _, afterBlanks?_of_blanks hne hblank _, rest, ⟨word', ?_, hword'⟩,
      (hright rest).2 hrest⟩
    exact dropBlanks_spelled hword' (by decide) (by decide) rest

theorem notNull_iff {definition : String} : notNull definition = true ↔ SaysNotNull definition.toList := by
  rw [notNull, Option.isSome_iff_exists]
  constructor
  · rintro ⟨⟨⟩, h⟩
    obtain ⟨front, rest, htext, hhere, -⟩ := firstMatch_eq_some_iff.1 h
    rw [Option.or_none] at hhere
    obtain ⟨hfree, word, gap, word', back, rfl, hword, hne, hblank, hword', hback⟩ := notNullHere?_iff.1 hhere
    exact ⟨front, word, gap, word', back, htext, hword, hne, hblank, hword', freeLeft_iff.1 hfree, hback⟩
  · rintro ⟨front, word, gap, word', back, htext, hword, hne, hblank, hword', hfree, hback⟩
    rw [← Option.ne_none_iff_exists']
    intro hnone
    have hhere : notNullHere? front.getLast? (word ++ (gap ++ (word' ++ back))) = some () :=
      notNullHere?_iff.2 ⟨freeLeft_iff.2 hfree, word, gap, word', back, rfl, hword, hne, hblank, hword', hback⟩
    have hno := firstMatch_eq_none_iff.1 hnone front _ htext
    rw [Option.or_none, hhere] at hno
    exact nomatch hno

/-- A length clause at the start of a text: `char` or `varchar`, and a decimal number in brackets. -/
def LengthClause (n : Nat) (s : List Char) : Prop :=
  ∃ word gap before digits behind rest,
    s = word ++ (gap ++ '(' :: (before ++ (digits ++ (behind ++ ')' :: rest)))) ∧
    (Spells "char" word ∨ Spells "varchar" word) ∧ Blanks gap ∧ Blanks before ∧ Blanks behind ∧ digits ≠ [] ∧
    (∀ c ∈ digits, isDecimal c = true) ∧ n = Nat.ofDigits 10 (digits.reverse.map fun c => (decimal? c).getD 0)

/-- The number in the first length clause of a text. No word runs into the clause from the left. -/
def StatesLength (n : Nat) (text : List Char) : Prop :=
  ∃ front rest, text = front ++ rest ∧ FreeLeft front ∧ LengthClause n rest ∧
    ∀ l r m, text = l ++ r → l.length < front.length → FreeLeft l → ¬LengthClause m r

theorem decimalsValue_eq (ds : List Char) :
    decimalsValue ds = Nat.ofDigits 10 (ds.reverse.map fun c => (decimal? c).getD 0) := by
  unfold decimalsValue
  induction ds using List.reverseRecOn with
  | nil => rfl
  | append_singleton ds c ih =>
    rw [List.foldl_append, ih, List.reverse_append, List.reverse_singleton, List.singleton_append, List.map_cons,
      Nat.ofDigits_cons, Nat.add_comm]
    rfl

theorem not_decimal_of_blank (h : isBlank c = true) : isDecimal c = false :=
  eq_false_of_blank (by decide +kernel) h

theorem not_blank_of_decimal (h : isDecimal c = true) : isBlank c = false := by
  cases hb : isBlank c with
  | false => rfl
  | true =>
    rw [not_decimal_of_blank hb] at h
    exact nomatch h

/-- The first part of `varchar` is passed over where it is there. -/
theorem afterWord?_char_iff : afterWord? "char".toList ((afterWord? "var".toList s).getD s) = some r ↔
    ∃ w, s = w ++ r ∧ (Spells "char" w ∨ Spells "varchar" w) := by
  rw [afterWord?_eq_some_iff]
  cases hvar : afterWord? "var".toList s with
  -- With `var` in front the clause can only be spelled `varchar`, without it only `char`.
  | some t =>
    obtain ⟨v, rfl, hv⟩ := afterWord?_eq_some_iff.1 hvar
    rw [Option.getD_some]
    constructor
    · rintro ⟨w, rfl, hw⟩
      refine ⟨v ++ w, (List.append_assoc v w r).symm, .inr ?_⟩
      rw [Spells, List.map_append, hv, hw]
      rfl
    · rintro ⟨w, hs, hw | hw⟩
      · -- The word would have to start with both `c` and `v`.
        obtain ⟨a, v, rfl⟩ := List.exists_cons_of_ne_nil (l := v) (by rintro rfl; exact nomatch hv)
        obtain ⟨b, w, rfl⟩ := List.exists_cons_of_ne_nil (l := w) (by rintro rfl; exact nomatch hw)
        obtain ⟨rfl, -⟩ := List.cons.inj hs
        have hletters : 'v' = 'c' := (List.cons.inj hv).1.symm.trans (List.cons.inj hw).1
        exact absurd hletters (by decide)
      · have hsplit : w.map Char.toLower = "var".toList ++ "char".toList := hw
        obtain ⟨v', w', rfl, hv', hw'⟩ := List.map_eq_append_iff.1 hsplit
        have hlen : v.length = v'.length := by
          have hlengths := congrArg List.length (hv.trans hv'.symm)
          rwa [List.length_map, List.length_map] at hlengths
        rw [List.append_assoc] at hs
        obtain ⟨-, rfl⟩ := List.append_inj hs hlen
        exact ⟨w', rfl, hw'⟩
  | none =>
    rw [Option.getD_none]
    constructor
    · rintro ⟨w, hs, hw⟩
      exact ⟨w, hs, .inl hw⟩
    · rintro ⟨w, rfl, hw | hw⟩
      · exact ⟨w, rfl, hw⟩
      · have hsplit : w.map Char.toLower = "var".toList ++ "char".toList := hw
        obtain ⟨v, w, rfl, hv, -⟩ := List.map_eq_append_iff.1 hsplit
        have hsome := afterWord?_eq_some_iff.2 ⟨v, List.append_assoc v w r, hv⟩
        rw [hvar] at hsome
        exact nomatch hsome

theorem decimals_before_close {digits behind : List Char} (hdecimal : ∀ c ∈ digits, isDecimal c = true)
    (hbehind : Blanks behind) (back : List Char) :
    (digits ++ (behind ++ ')' :: back)).takeWhile isDecimal = digits ∧
      (digits ++ (behind ++ ')' :: back)).dropWhile isDecimal = behind ++ ')' :: back := by
  obtain ⟨d, ds, hd, hdec⟩ : ∃ d ds, behind ++ ')' :: back = d :: ds ∧ isDecimal d = false := by
    cases behind with
    | nil => exact ⟨')', back, rfl, by decide⟩
    | cons d ds => exact ⟨d, _, rfl, not_decimal_of_blank (hbehind d List.mem_cons_self)⟩
  rw [List.takeWhile_append_of_pos hdecimal, List.dropWhile_append_of_pos hdecimal, hd,
    List.takeWhile_cons_of_neg (by simp [hdec]), List.dropWhile_cons_of_neg (by simp [hdec]), List.append_nil]
  exact ⟨rfl, rfl⟩

theorem lengthHere?_iff {before : Option Char} :
    lengthHere? before s = some n ↔ freeLeft before = true ∧ LengthClause n s := by
  unfold lengthHere?
  simp only [bind, Option.bind_eq_some_iff, guard_eq_some_iff, afterWord?_char_iff, afterChar?_eq_some_iff, pure,
    Option.some.injEq]
  constructor
  · rintro ⟨-, hfree, t, ⟨word, rfl, hword⟩, u, hopen, -, hdigits, back, hclose, rfl⟩
    obtain ⟨gap, hgap, ht⟩ := exists_blanks t
    obtain ⟨inner, hinner, hu⟩ := exists_blanks u
    obtain ⟨behind, hbehind, hrest⟩ := exists_blanks ((dropBlanks u).dropWhile isDecimal)
    refine ⟨hfree, word, gap, inner, (dropBlanks u).takeWhile isDecimal, behind, back, ?_, hword, hgap, hinner, hbehind,
      by simpa using hdigits, fun c hc => List.mem_takeWhile_imp hc, decimalsValue_eq _⟩
    rw [← hclose, ← hrest, List.takeWhile_append_dropWhile, ← hu, ← hopen, ← ht]
  · rintro ⟨hfree, word, gap, inner, digits, behind, back, rfl, hword, hgap, hinner, hbehind, hne, hdecimal, rfl⟩
    -- Each reader stops where the next part of the clause starts.
    have hopen : dropBlanks (gap ++ '(' :: (inner ++ (digits ++ (behind ++ ')' :: back)))) =
        '(' :: (inner ++ (digits ++ (behind ++ ')' :: back))) := by
      rw [dropBlanks_append hgap, dropBlanks_cons_of_not _ (by decide)]
    have hinside : dropBlanks (inner ++ (digits ++ (behind ++ ')' :: back))) = digits ++ (behind ++ ')' :: back) := by
      obtain ⟨d, ds, rfl⟩ := List.exists_cons_of_ne_nil hne
      rw [dropBlanks_append hinner]
      exact dropBlanks_cons_of_not _ (not_blank_of_decimal (hdecimal d List.mem_cons_self))
    obtain ⟨htake, hdrop⟩ := decimals_before_close hdecimal hbehind back
    have hclose : dropBlanks (behind ++ ')' :: back) = ')' :: back := by
      rw [dropBlanks_append hbehind, dropBlanks_cons_of_not _ (by decide)]
    refine ⟨(), hfree, _, ⟨word, rfl, hword⟩, _, hopen, ?_⟩
    rw [hinside, htake, hdrop]
    exact ⟨(), by simpa using hne, back, hclose, decimalsValue_eq digits⟩

theorem maxLength_eq_iff {definition : String} (hn : 0 < n) :
    maxLength definition = n ↔ StatesLength n definition.toList := by
  have hfirst : maxLength definition = n ↔ firstMatch lengthHere? none definition.toList = some n := by
    rw [maxLength]
    cases firstMatch lengthHere? none definition.toList with
    | none => simpa using Nat.ne_of_lt hn
    | some m => simp
  have hplace (front rest : List Char) (m : Nat) :
      lengthHere? (front.getLast?.or none) rest = some m ↔ FreeLeft front ∧ LengthClause m rest := by
    rw [Option.or_none, lengthHere?_iff, freeLeft_iff]
  rw [hfirst, firstMatch_eq_some_iff]
  constructor
  · rintro ⟨front, rest, htext, hhere, hearlier⟩
    obtain ⟨hfree, hclause⟩ := (hplace front rest n).1 hhere
    refine ⟨front, rest, htext, hfree, hclause, fun l r m hs hl hleft hm => ?_⟩
    have hsome := (hplace l r m).2 ⟨hleft, hm⟩
    rw [hearlier l r hs hl] at hsome
    exact nomatch hsome
  · rintro ⟨front, rest, htext, hfree, hclause, hearlier⟩
    refine ⟨front, rest, htext, (hplace front rest n).2 ⟨hfree, hclause⟩, fun l r hs hl => ?_⟩
    refine Option.eq_none_iff_forall_ne_some.2 fun m hm => ?_
    obtain ⟨hleft, hother⟩ := (hplace l r m).1 hm
    exact hearlier l r m hs hl hleft hother

end Scaffold.Entity.ColumnText
