import Mathlib.Logic.Basic
import Scaffold.Annotate.Source

/-! Lines that declare a field, told by what they are made of. The words `return` and `throw` keep a line from being
taken for a declaration only where no blank stands in front of them. -/

namespace Scaffold.Annotate

open Scaffold.Text

section Readers

variable {p : Char → Bool} {k : List Char → Bool} {s : List Char}

/-- A text that `k` accepts behind one or more characters of a class. -/
def Behind (p : Char → Bool) (k : List Char → Bool) (s : List Char) : Prop :=
  ∃ front rest, s = front ++ rest ∧ front ≠ [] ∧ front.all p = true ∧ k rest = true

theorem not_behind_nil : ¬ Behind p k [] := by
  rintro ⟨front, rest, hs, hfront, -⟩
  exact hfront (List.append_eq_nil_iff.1 hs.symm).1

theorem behind_cons {c : Char} : Behind p k (c :: s) ↔ p c = true ∧ (k s = true ∨ Behind p k s) := by
  constructor
  · rintro ⟨_ | ⟨d, front⟩, rest, hs, hne, hfront, hk⟩
    · exact absurd rfl hne
    · obtain ⟨rfl, rfl⟩ := List.cons.inj hs
      rw [List.all_cons, Bool.and_eq_true] at hfront
      refine ⟨hfront.1, ?_⟩
      cases front with
      | nil => exact .inl hk
      | cons d front => exact .inr ⟨d :: front, rest, rfl, List.cons_ne_nil d front, hfront.2, hk⟩
  · rintro ⟨hc, hk | ⟨front, rest, rfl, -, hfront, hk⟩⟩
    · exact ⟨[c], s, rfl, List.cons_ne_nil c [], by simp [hc], hk⟩
    · exact ⟨c :: front, rest, rfl, List.cons_ne_nil c front, by simp [hc, hfront], hk⟩

theorem afterType_iff : afterType k s = true ↔ Behind inType k s := by
  induction s with
  | nil => simp [afterType, not_behind_nil]
  | cons c r ih => rw [afterType, Bool.and_eq_true, Bool.or_eq_true, ih, behind_cons]

theorem afterBlanks_iff : afterBlanks k s = true ↔ k s = true ∨ Behind isBlank k s := by
  induction s with
  | nil => simp [afterBlanks, not_behind_nil]
  | cons c r ih => rw [afterBlanks, Bool.or_eq_true, Bool.and_eq_true, ih, behind_cons]

theorem afterSomeBlanks_iff : afterSomeBlanks k s = true ↔ Behind isBlank k s := by
  cases s with
  | nil => simp [afterSomeBlanks, not_behind_nil]
  | cons c r => rw [afterSomeBlanks, Bool.and_eq_true, afterBlanks_iff, behind_cons]

theorem afterText_iff {word : List Char} :
    afterText word k s = true ↔ ∃ rest, s = word ++ rest ∧ k rest = true := by
  simp only [afterText, Option.any_eq_true, after?_eq_some_iff]

end Readers

/-- What ends a declaration: perhaps a value, and a semicolon. -/
def Ending (s : List Char) : Prop :=
  ∃ gap rest, s = gap ++ rest ∧ gap.all isBlank = true ∧
    ((∃ more, rest = ';' :: more) ∨ ∃ value more, rest = '=' :: (value ++ ';' :: more) ∧ ';' ∉ value)

/-- The form of a declaration: modifiers and a type, blanks, the name, and an ending. -/
def DeclarationForm (name s : List Char) : Prop :=
  ∃ type gap rest, s = type ++ (gap ++ (name ++ rest)) ∧ type ≠ [] ∧ type.all inType = true ∧ gap ≠ [] ∧
    gap.all isBlank = true ∧ Ending rest

/-- A text with the word `return` or the word `throw` at its very start. -/
def StatementForm (s : List Char) : Prop :=
  ∃ word ∈ ["return", "throw"], ∃ rest, s = word.toList ++ rest ∧ ∀ c ∈ rest.head?, isWord c = false

theorem opensStatement_iff {s : List Char} : opensStatement s = true ↔ StatementForm s := by
  have hword (rest : List Char) : (!rest.head?.any isWord) = true ↔ ∀ c ∈ rest.head?, isWord c = false := by
    cases rest <;> simp
  simp only [opensStatement, StatementForm, List.any_cons, List.any_nil, Bool.or_false, Bool.or_eq_true,
    afterText_iff, hword, List.mem_cons, List.not_mem_nil, or_false, exists_eq_or_imp, exists_eq_left]

theorem endsDeclaration_iff {s : List Char} : endsDeclaration s = true ↔ Ending s := by
  constructor
  · intro h
    have hgap : (s.takeWhile isBlank).all isBlank = true := List.all_takeWhile
    refine ⟨s.takeWhile isBlank, dropBlanks s, (List.takeWhile_append_dropWhile ..).symm, hgap, ?_⟩
    unfold endsDeclaration at h
    rcases hrest : dropBlanks s with _ | ⟨c, r⟩
    · rw [hrest] at h
      exact nomatch h
    · rw [hrest] at h
      split at h
      · next heq => exact .inl ⟨_, heq⟩
      · next heq =>
        obtain ⟨value, more, rfl, hvalue⟩ := List.eq_append_cons_of_mem (List.contains_iff_mem.1 h)
        exact .inr ⟨value, more, heq, hvalue⟩
      · exact nomatch h
  · rintro ⟨gap, rest, rfl, hgap, ⟨more, rfl⟩ | ⟨value, more, rfl, -⟩⟩
    · unfold endsDeclaration
      rw [dropBlanks_append (List.all_eq_true.1 hgap), dropBlanks_cons_of_not _ (by decide)]
      rfl
    · unfold endsDeclaration
      rw [dropBlanks_append (List.all_eq_true.1 hgap), dropBlanks_cons_of_not _ (by decide)]
      simp

theorem declarationForm_iff {name s : List Char} :
    afterType (afterSomeBlanks (afterText name endsDeclaration)) s = true ↔ DeclarationForm name s := by
  rw [afterType_iff]
  constructor
  · rintro ⟨type, _, rfl, hne, htype, h⟩
    obtain ⟨gap, _, rfl, hgap, hblank, h⟩ := afterSomeBlanks_iff.1 h
    obtain ⟨rest, rfl, hend⟩ := afterText_iff.1 h
    exact ⟨type, gap, rest, rfl, hne, htype, hgap, hblank, endsDeclaration_iff.1 hend⟩
  · rintro ⟨type, gap, rest, rfl, hne, htype, hgap, hblank, hend⟩
    have hname : afterText name endsDeclaration (name ++ rest) = true :=
      afterText_iff.2 ⟨rest, rfl, endsDeclaration_iff.2 hend⟩
    exact ⟨type, _, rfl, hne, htype, afterSomeBlanks_iff.2 ⟨gap, _, rfl, hgap, hblank, hname⟩⟩

theorem DeclarationForm.behind_blanks {name s margin : List Char} (h : DeclarationForm name s)
    (hmargin : margin.all isBlank = true) : DeclarationForm name (margin ++ s) := by
  obtain ⟨type, gap, rest, rfl, hne, htype, hgap⟩ := h
  have hfront : margin.all inType = true := by
    rw [List.all_eq_true] at hmargin ⊢
    intro c hc
    simp [inType, hmargin c hc]
  refine ⟨margin ++ type, gap, rest, (List.append_assoc ..).symm, ?_, ?_, hgap⟩
  · exact List.append_ne_nil_of_right_ne_nil margin hne
  · rw [List.all_append, hfront, htype, Bool.and_self]

theorem not_statementForm_of_blank {c : Char} (hc : isBlank c = true) (s : List Char) :
    ¬ StatementForm (c :: s) := by
  rintro ⟨word, hword, rest, hs, -⟩
  simp only [List.mem_cons, List.not_mem_nil, or_false] at hword
  rcases hword with rfl | rfl
  all_goals
    obtain ⟨rfl, -⟩ := List.cons.inj hs
    exact absurd hc (by decide)

/-- Passing over fewer blanks is enough to hide the first word, so that it is looked at only if the line has no
blanks in front of it. -/
theorem declaresField_iff {name s : List Char} :
    declaresField name s = true ↔ DeclarationForm name s ∧ ¬ StatementForm s := by
  have hhere (t : List Char) : (!opensStatement t &&
      afterType (afterSomeBlanks (afterText name endsDeclaration)) t) = true ↔
        DeclarationForm name t ∧ ¬ StatementForm t := by
    rw [Bool.and_eq_true, Bool.not_eq_true', ← Bool.not_eq_true, opensStatement_iff, declarationForm_iff, and_comm]
  unfold declaresField
  rw [afterBlanks_iff, hhere]
  constructor
  · rintro (h | ⟨_ | ⟨c, margin⟩, rest, rfl, hne, hmargin, h⟩)
    · exact h
    · exact absurd rfl hne
    · have hc : isBlank c = true := List.all_eq_true.1 hmargin c List.mem_cons_self
      exact ⟨((hhere rest).1 h).1.behind_blanks hmargin, not_statementForm_of_blank hc (margin ++ rest)⟩
  · exact .inl

theorem fieldLine?_eq_some_iff {lines : List String} {start : Nat} {name : String} {i : Nat} :
    fieldLine? lines start name = some i ↔
      start ≤ i ∧ (∃ l, lines[i]? = some l ∧ declaresField name.toList l.toList = true) ∧
        ∀ j l, start ≤ j → j < i → lines[j]? = some l → declaresField name.toList l.toList = false := by
  have hget {j : Nat} (hj : j < (lines.drop start).length) : lines[start + j]? = some (lines.drop start)[j] := by
    rw [← List.getElem?_drop, List.getElem?_eq_getElem hj]
  unfold fieldLine?
  rw [Option.map_eq_some_iff]
  constructor
  · rintro ⟨n, hn, rfl⟩
    obtain ⟨hlt, hhere, hbefore⟩ := List.findIdx?_eq_some_iff_getElem.1 hn
    refine ⟨Nat.le_add_right start n, ⟨_, hget hlt, hhere⟩, fun j l hstart hj hl => ?_⟩
    obtain ⟨m, rfl⟩ := Nat.exists_eq_add_of_le hstart
    have hm : m < n := Nat.lt_of_add_lt_add_left hj
    rw [hget (Nat.lt_trans hm hlt)] at hl
    exact Option.some.inj hl ▸ Bool.eq_false_iff.2 (hbefore m hm)
  · rintro ⟨hstart, ⟨l, hl, hhere⟩, hbefore⟩
    obtain ⟨n, rfl⟩ := Nat.exists_eq_add_of_le hstart
    have hlt : n < (lines.drop start).length := by
      have hi := (List.getElem?_eq_some_iff.1 hl).1
      rw [List.length_drop]
      omega
    rw [hget hlt] at hl
    refine ⟨n, List.findIdx?_eq_some_iff_getElem.2 ⟨hlt, Option.some.inj hl ▸ hhere, fun m hm => ?_⟩, rfl⟩
    have hm' := hbefore (start + m) _ (Nat.le_add_right start m) (Nat.add_lt_add_left hm start)
      (hget (Nat.lt_trans hm hlt))
    exact Bool.eq_false_iff.1 hm'

/-- The line of a field is the first one that has the form of its declaration and does not open, right at its start,
with `return` or `throw`. An indented statement of that form passes for a declaration. -/
theorem field_found_by_form (lines : List String) (start : Nat) (name : String) (i : Nat) :
    fieldLine? lines start name = some i ↔
      start ≤ i ∧ (∃ l, lines[i]? = some l ∧ DeclarationForm name.toList l.toList ∧ ¬ StatementForm l.toList) ∧
        ∀ j l, start ≤ j → j < i → lines[j]? = some l → DeclarationForm name.toList l.toList →
          StatementForm l.toList := by
  have hnot (l : String) : declaresField name.toList l.toList = false ↔
      (DeclarationForm name.toList l.toList → StatementForm l.toList) := by
    rw [← Bool.not_eq_true, declaresField_iff, not_and_not_right]
  rw [fieldLine?_eq_some_iff]
  simp only [declaresField_iff, hnot]

/-- A getter above the field that it returns. -/
def getterFirst : List String :=
  ["class A \x7b", "    int getX() \x7b", "        return x;", "    \x7d", "    private int x;", "\x7d"]

theorem indented_return_taken : ∃ l, fieldLine? getterFirst 1 "x" = some 2 ∧ getterFirst[2]? = some l ∧
    opensStatement (dropBlanks l.toList) = true := by
  exact ⟨"        return x;", by decide, rfl, by decide⟩

end Scaffold.Annotate
