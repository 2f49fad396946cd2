import Scaffold.Proofs.Annotate.FieldLine
import Scaffold.Proofs.Annotate.Report

/-! What annotating a class inserts: the annotations of the class, those of its fields, and imports, and nothing
else. The report names each of them once, from the top of the class down. -/

namespace Scaffold.Annotate

open Scaffold.Text
open Scaffold.Entity (Field)
open scoped List

section Fields

variable {ls : List String} {start : Nat} {f : Field} {i : Insertion}

/-- What a field gets that is not settled yet: above the line that declares it, and with the margin of that line,
two lines if it is an id, and else one for its column. -/
structure Insertion.For (ls : List String) (start : Nat) (f : Field) (i : Insertion) : Prop where
  free : f.annotations.any settled.contains = false
  here : fieldLine? ls start f.name = some i.line
  added : ∃ l, ls[i.line]? = some l ∧
    ((Name.snake f.name = "id" ∧ i.change = .id f.name ∧ i.added = idLines.map (marginOf l ++ ·)) ∨
      (Name.snake f.name ≠ "id" ∧ i.change = .column f.name ∧ i.added = [marginOf l ++ columnLine f]))

theorem insertion?_for (h : insertion? ls start f = some i) : i.For ls start f := by
  unfold insertion? at h
  split at h
  · exact nomatch h
  · next hfree =>
    obtain ⟨line, hline, rfl⟩ := Option.map_eq_some_iff.1 h
    obtain ⟨-, ⟨l, hl, -⟩, -⟩ := fieldLine?_eq_some_iff.1 hline
    have hmargin : ls.getD line "" = l := by rw [List.getD_eq_getElem?_getD, hl, Option.getD_some]
    dsimp only
    rw [hmargin]
    split
    · next hid => exact ⟨Bool.eq_false_iff.2 hfree, hline, l, hl, .inl ⟨beq_iff_eq.1 hid, rfl, rfl⟩⟩
    · next hid => exact ⟨Bool.eq_false_iff.2 hfree, hline, l, hl, .inr ⟨fun h => hid (beq_iff_eq.2 h), rfl, rfl⟩⟩

theorem Insertion.For.start_le (h : i.For ls start f) : start ≤ i.line :=
  (fieldLine?_eq_some_iff.1 h.here).1

theorem Insertion.For.line_lt (h : i.For ls start f) : i.line < ls.length := by
  obtain ⟨l, hl, -⟩ := h.added
  exact (List.getElem?_eq_some_iff.1 hl).1

theorem neutral_of_at {l : String} (hl : l.toList.head? = some '@') : Neutral l := by
  obtain ⟨s, hs⟩ := List.head?_eq_some_iff.1 hl
  exact neutral_of_margin (List.all_nil ..) hs

theorem neutral_behind_margin {l m : String} (hm : m.toList.head? = some '@') : Neutral (marginOf l ++ m) := by
  obtain ⟨s, hs⟩ := List.head?_eq_some_iff.1 hm
  have hmargin : (l.toList.takeWhile isBlank).all isBlank = true := List.all_takeWhile
  refine neutral_of_margin hmargin (s := s) ?_
  rw [marginOf, String.toList_append, String.toList_ofList, hs]

theorem Insertion.For.neutral (h : i.For ls start f) : ∀ l ∈ i.added, Neutral l := by
  obtain ⟨l, -, ⟨-, -, hadded⟩ | ⟨-, -, hadded⟩⟩ := h.added
  · rw [hadded]
    exact List.forall_mem_cons.2 ⟨neutral_behind_margin rfl, List.forall_mem_singleton.2 (neutral_behind_margin rfl)⟩
  · rw [hadded]
    refine List.forall_mem_singleton.2 (neutral_behind_margin ?_)
    unfold columnLine
    simp only [String.toList_append]
    rfl

end Fields

theorem neutral_of_mem_entityLines {table comment : String} : ∀ l ∈ entityLines table comment, Neutral l := by
  have htable : ("@Table(name = \"" ++ table ++ "\")").toList.head? = some '@' := by
    simp only [String.toList_append]
    rfl
  have hcomment : ("@org.hibernate.annotations.Table(appliesTo = \"" ++ table ++ "\", comment = \"" ++ comment
      ++ "\")").toList.head? = some '@' := by
    simp only [String.toList_append]
    rfl
  refine List.forall_mem_cons.2 ⟨neutral_of_at rfl, List.forall_mem_cons.2 ⟨neutral_of_at htable, ?_⟩⟩
  exact List.forall_mem_singleton.2 (neutral_of_at hcomment)

theorem neutral_of_mem_stacked {ls : List String} {start : Nat} {fs : List Field} {is : List Insertion}
    (h : ∀ i ∈ is, ∃ f ∈ fs, i.For ls start f) {j : Nat} {l : String} (hl : l ∈ stacked is j) : Neutral l := by
  obtain ⟨i, hi, hl⟩ := List.mem_flatMap.1 hl
  obtain ⟨f, -, hfor⟩ := h i (List.mem_filter.1 hi).1
  exact hfor.neutral l hl

theorem bottomUp_perm (is : List Insertion) : (bottomUp is).Perm is := List.mergeSort_perm is _

theorem bottomUp_descending (is : List Insertion) : (bottomUp is).Pairwise fun i k => k.line ≤ i.line := by
  refine (List.pairwise_mergeSort ?_ ?_ is).imp of_decide_eq_true
  · intro i k m hik hkm
    simp only [decide_eq_true_eq] at hik hkm ⊢
    exact Nat.le_trans hkm hik
  · intro i k
    simpa using Nat.le_total k.line i.line

/-- A line with the word `class` and a name behind it. -/
def ClassForm (name s : List Char) : Prop :=
  ∃ front gap rest, s = front ++ ("class".toList ++ (gap ++ (name ++ rest))) ∧ front.getLast?.any isWord = false ∧
    gap ≠ [] ∧ gap.all isBlank = true ∧ boundary name.getLast? rest.head? = true

theorem classHere_iff {name s : List Char} {before : Option Char} : classHere name before s = true ↔
    before.any isWord = false ∧ ∃ gap rest, s = "class".toList ++ (gap ++ (name ++ rest)) ∧ gap ≠ [] ∧
      gap.all isBlank = true ∧ boundary name.getLast? rest.head? = true := by
  rw [classHere, Bool.and_eq_true, Bool.not_eq_true', afterText_iff]
  refine and_congr_right fun _ => ⟨?_, ?_⟩
  · rintro ⟨_, rfl, h⟩
    obtain ⟨gap, _, rfl, hgap, hblank, h⟩ := afterSomeBlanks_iff.1 h
    obtain ⟨rest, rfl, hend⟩ := afterText_iff.1 h
    exact ⟨gap, rest, rfl, hgap, hblank, hend⟩
  · rintro ⟨gap, rest, rfl, hgap, hblank, hend⟩
    exact ⟨_, rfl, afterSomeBlanks_iff.2 ⟨gap, _, rfl, hgap, hblank, afterText_iff.2 ⟨rest, rfl, hend⟩⟩⟩

theorem classWithin_iff_split {name s : List Char} {before : Option Char} : classWithin name before s = true ↔
    ∃ front back, s = front ++ back ∧ classHere name (front.getLast?.or before) back = true := by
  induction s generalizing before with
  | nil => simp [classWithin]
  | cons c r ih =>
    have hlast (front : List Char) : (c :: front).getLast?.or before = front.getLast?.or (some c) := by
      rw [List.getLast?_cons]
      cases front.getLast? <;> rfl
    rw [classWithin, Bool.or_eq_true, ih]
    constructor
    · rintro (h | ⟨front, back, rfl, h⟩)
      · exact ⟨[], c :: r, rfl, h⟩
      · exact ⟨c :: front, back, rfl, (hlast front).symm ▸ h⟩
    · rintro ⟨_ | ⟨d, front⟩, back, hs, h⟩
      · rw [List.nil_append] at hs
        exact .inl (hs ▸ h)
      · obtain ⟨rfl, rfl⟩ := List.cons.inj hs
        exact .inr ⟨front, back, rfl, hlast front ▸ h⟩

theorem classWithin_iff {name s : List Char} : classWithin name none s = true ↔ ClassForm name s := by
  simp only [classWithin_iff_split, classHere_iff, Option.or_none]
  constructor
  · rintro ⟨front, _, rfl, hfront, gap, rest, rfl, hform⟩
    exact ⟨front, gap, rest, rfl, hfront, hform⟩
  · rintro ⟨front, gap, rest, rfl, hfront, hform⟩
    exact ⟨front, _, rfl, hfront, gap, rest, rfl, hform⟩

theorem classLine?_eq_some {ls : List String} {name : String} {line : Nat} (h : classLine? ls name = some line) :
    (∃ l, ls[line]? = some l ∧ ClassForm name.toList l.toList) ∧
      ∀ j l, j < line → ls[j]? = some l → ¬ ClassForm name.toList l.toList := by
  obtain ⟨hlt, hhere, hbefore⟩ := List.findIdx?_eq_some_iff_getElem.1 h
  refine ⟨⟨_, List.getElem?_eq_getElem hlt, classWithin_iff.1 hhere⟩, fun j l hj hl hform => ?_⟩
  obtain ⟨_, rfl⟩ := List.getElem?_eq_some_iff.1 hl
  exact hbefore j hj (classWithin_iff.2 hform)

/-- What is added to a class among some lines: at the first line that declares the class, at the lines of its fields,
and at the place of imports. -/
structure Additions (e : Entity) (ls : List String) where
  line : Nat
  here : ∃ l, ls[line]? = some l ∧ ClassForm e.name.toList l.toList
  first : ∀ j l, j < line → ls[j]? = some l → ¬ ClassForm e.name.toList l.toList
  onFields : List Insertion
  fields : ∀ i ∈ onFields, ∃ f ∈ e.fields, i.For ls (line + 1) f
  all : onFields.Perm (e.fields.filterMap (insertion? ls (line + 1)))
  ascending : onFields.Pairwise fun i k => i.line ≤ k.line
  imported : List String
  place : ImportPlace
  site : ImportSite ls place

namespace Additions

variable {e : Entity} {ls : List String}

/-- The lines that go above each line. -/
def above (a : Additions e ls) (j : Nat) : List String :=
  if j = a.line then entityLines (Name.table e.baseName) (withoutQuotes (e.comment.getD "")) else stacked a.onFields j

def layout (a : Additions e ls) : Layout := .of a.above a.imported a.place

def lines (a : Additions e ls) : List String := a.layout.lines ls

/-- The lines with all additions, marked by whether they were there before. -/
def marked (a : Additions e ls) : List (String × Bool) := a.layout.marked ls

def changes (a : Additions e ls) : List Change :=
  .entity (Name.table e.baseName) :: a.onFields.map (·.change) ++ a.imported.map .imported

theorem sublist_lines (a : Additions e ls) : ls <+ a.lines := a.layout.sublist_lines ls

theorem marked_lines (a : Additions e ls) : a.marked.map Prod.fst = a.lines := a.layout.marked_lines ls

theorem marked_kept (a : Additions e ls) : (a.marked.filter Prod.snd).map Prod.fst = ls := a.layout.marked_kept ls

theorem forall_mem_lines {p : String → Prop} (a : Additions e ls) (hls : ∀ l ∈ ls, p l)
    (habove : ∀ j, ∀ l ∈ a.above j, p l) (himports : ∀ name ∈ a.imported, p (importLine name)) (hempty : p "") :
    ∀ l ∈ a.lines, p l :=
  Layout.forall_mem_lines hls habove himports hempty

theorem lines_concat {front : List String} {x : String} (a : Additions e (front ++ [x])) :
    a.lines = (a.layout.top ++ (around a.above a.layout.below front ++ a.above front.length)) ++
      x :: a.layout.below front.length := by
  have habove : a.layout.above = a.above := Layout.of_above a.imported
  rw [lines, Layout.lines, around_at, around, List.append_nil, habove, List.append_assoc, List.append_assoc,
    List.append_assoc]

theorem front_ne_nil {front : List String} {x : String} (a : Additions e (front ++ [x])) :
    a.layout.top ++ (around a.above a.layout.below front ++ a.above front.length) ≠ [] := by
  refine List.append_ne_nil_of_right_ne_nil _ ?_
  cases front with
  | nil =>
    obtain ⟨l, hl, -⟩ := a.here
    have hline : a.line < 1 := (List.getElem?_eq_some_iff.1 hl).1
    have habove : a.above 0 ≠ [] := by
      rw [above, if_pos (by omega)]
      exact List.cons_ne_nil _ _
    exact habove
  | cons y front => simp [around]

/-- The lines with all additions end in a line feed only if the last of the old lines is empty. -/
theorem endsWith_feed (a : Additions e ls) (hls : ∀ l ∈ ls, endsWith l "\n" = false) :
    endsWith (unlines a.lines) "\n" = true ↔ ls.getLast? = some "" := by
  have hne : ls ≠ [] := by
    rintro rfl
    obtain ⟨l, hl, -⟩ := a.here
    exact nomatch hl
  obtain ⟨front, x, rfl⟩ := (List.eq_nil_or_concat' ls).resolve_left hne
  have hx : endsWith x "\n" = false := hls x (List.mem_append_right front (List.mem_singleton_self x))
  rw [a.lines_concat, List.getLast?_concat, Option.some_inj]
  rcases below_last a.site a.imported with hbelow | ⟨hempty, block, name, hbelow⟩
  · rw [show a.layout.below front.length = [] from hbelow]
    exact endsWith_unlines_concat a.front_ne_nil hx
  · have hname : importLine name ≠ "" := ne_empty_of_opensWith neutral_empty.imports (opensWith_importLine name)
    rw [show a.layout.below front.length = block ++ [importLine name] from hbelow, ← List.cons_append,
      ← List.append_assoc, endsWith_unlines_concat (by simp) (endsWith_importLine name)]
    exact ⟨fun h => absurd h hname, fun h => absurd h hempty⟩

end Additions

/-- The annotated form of a class is its lines with all additions at their places, whatever the order in which they
are inserted. -/
theorem annotateAt_additions (source : String) {e : Entity} {ls : List String} {line : Nat}
    (h : classLine? ls e.name = some line) : ∃ a : Additions e ls,
      annotateAt source ls e line = { source := unlines a.lines ++ lastFeed source, changes := a.changes } ∧
      a.imported <+ neededImports (persistencePackage source) (a.onFields.map (·.change)) := by
  obtain ⟨hhere, hfirst⟩ := classLine?_eq_some h
  let is := bottomUp (e.fields.filterMap (insertion? ls (line + 1)))
  let head := entityLines (Name.table e.baseName) (withoutQuotes (e.comment.getD ""))
  have hfields : ∀ i ∈ is.reverse, ∃ f ∈ e.fields, i.For ls (line + 1) f := by
    intro i hi
    obtain ⟨f, hf, hins⟩ := List.mem_filterMap.1 ((bottomUp_perm _).mem_iff.1 (List.mem_reverse.1 hi))
    exact ⟨f, hf, insertion?_for hins⟩
  have hbelow : ∀ i ∈ is, line < i.line ∧ i.line < ls.length := by
    intro i hi
    obtain ⟨f, -, hfor⟩ := hfields i (List.mem_reverse.2 hi)
    exact ⟨hfor.start_le, hfor.line_lt⟩
  -- The line of the class gets the annotations of the class, and every other line what its fields get.
  let above (j : Nat) : List String := if j = line then head else stacked is.reverse j
  have hneutral : ∀ j, ∀ l ∈ above j, Neutral l := by
    intro j
    dsimp only [above]
    split
    · exact neutral_of_mem_entityLines
    · exact fun l hl => neutral_of_mem_stacked hfields hl
  have hline : line < ls.length := by
    obtain ⟨l, hl, -⟩ := hhere
    exact (List.getElem?_eq_some_iff.1 hl).1
  have hannotated : insertAt line head (insertAll is ls) = (Layout.of above [] (importPlace ls)).lines ls :=
    insertAt_insertAll head (bottomUp_descending _) hline hbelow
  -- Imports come last, when the lines have all that goes above them.
  obtain ⟨imported, hneeded, himports⟩ := importAll_layout (importSite ls) hneutral
    (neededImports (persistencePackage source) (is.map Insertion.change).reverse) []
  rw [← hannotated, List.nil_append] at himports
  refine ⟨{ line, here := hhere, first := hfirst, onFields := is.reverse, imported, place := importPlace ls,
            fields := hfields
            all := (List.reverse_perm is).trans (bottomUp_perm _)
            ascending := List.pairwise_reverse.2 (bottomUp_descending _)
            site := importSite ls }, ?_, ?_⟩
  · unfold annotateAt
    dsimp only
    rw [himports]
    dsimp only
    unfold Additions.changes
    rw [List.map_reverse]
    rfl
  · rw [List.map_reverse]
    exact hneeded

theorem annotateAt_of_changed {source : String} {o : Outcome} (h : annotate source = .ok o) (hc : o.changed = true) :
    ∃ e line, Source.entity source (fun _ => none) = .ok e ∧ e.isEntity = false ∧
      classLine? (lines source) e.name = some line ∧ annotateAt source (lines source) e line = o := by
  unfold annotate at h
  rcases he : Source.entity source fun _ => none with f | e
  · rw [he] at h
    exact nomatch h
  rw [he] at h
  dsimp only at h
  by_cases hentity : e.isEntity = true
  · rw [if_pos hentity] at h
    cases h
    exact absurd hc Bool.false_ne_true
  rw [if_neg hentity] at h
  rcases hclass : classLine? (lines source) e.name with _ | line
  · rw [hclass] at h
    exact nomatch h
  · rw [hclass] at h
    exact ⟨e, line, rfl, Bool.eq_false_iff.2 hentity, hclass, Except.ok.inj h⟩

/-- A class that is no entity yet is only added to, and the additions are those that the report names, in its order.
The result ends in a line feed if the source does; it also does if some other line break ends the source, behind an
empty line. -/
theorem annotate_inserts {source : String} {o : Outcome} (h : annotate source = .ok o) (hc : o.changed = true) :
    ∃ e, ∃ a : Additions e (lines source), Source.entity source (fun _ => none) = .ok e ∧
      o.source = unlines a.lines ++ (if endsWith source "\n" then "\n" else "") ∧ lines source <+ a.lines ∧
      o.changes = a.changes ∧ a.imported <+ neededImports (persistencePackage source) (a.onFields.map (·.change)) ∧
      (endsWith o.source "\n" = true ↔ endsWith source "\n" = true ∨ (lines source).getLast? = some "") := by
  obtain ⟨e, line, he, -, hclass, rfl⟩ := annotateAt_of_changed h hc
  obtain ⟨a, hresult, hneeded⟩ := annotateAt_additions source hclass
  refine ⟨e, a, he, congrArg Outcome.source hresult, a.sublist_lines, congrArg Outcome.changes hresult, hneeded, ?_⟩
  rw [congrArg Outcome.source hresult]
  dsimp only
  unfold lastFeed
  split
  · next hfeed =>
    have hend : endsWith (unlines a.lines ++ "\n") "\n" = true := endsWith_feed_iff.2 (by simp)
    exact ⟨fun _ => .inl hfeed, fun _ => hend⟩
  · next hfeed =>
    rw [String.append_empty, a.endsWith_feed fun l hl => endsWith_of_mem_lines hl, or_iff_right hfeed]

/-- A class with an id, and behind its last line feed a form feed. -/
def formFed : String := "class A \x7b\nlong id;\n\x7d\n\x0c"

theorem formFed_annotated : ∃ e, classLine? (lines formFed) e.name = some 0 ∧
    annotate formFed = .ok (annotateAt formFed (lines formFed) e 0) := by
  have hread : (Source.entity formFed fun _ => none).toOption.map
      (fun e => (e.isEntity, classLine? (lines formFed) e.name)) = some (false, some 0) := by decide +kernel
  rcases he : Source.entity formFed fun _ => none with f | e
  · rw [he] at hread
    exact nomatch hread
  · rw [he] at hread
    obtain ⟨hplain, hline⟩ := Prod.mk.inj (Option.some.inj hread)
    exact ⟨e, hline, annotate_of_plain he hplain hline⟩

theorem annotate_inserts_formFed : ∃ o, annotate formFed = .ok o ∧ o.changed = true ∧
    ∃ e, ∃ a : Additions e (lines formFed), o.source = unlines a.lines ∧ lines formFed <+ a.lines ∧
      o.changes = a.changes := by
  obtain ⟨e, -, ho⟩ := formFed_annotated
  obtain ⟨e, a, -, hsource, hkept, hchanges, -⟩ := annotate_inserts ho rfl
  have hend : endsWith formFed "\n" = false := by decide
  rw [hend, if_neg Bool.false_ne_true, String.append_empty] at hsource
  exact ⟨_, ho, rfl, e, a, hsource, hkept, hchanges⟩

/-- A result may end in a line feed though its source does not. -/
theorem formFed_gains_feed : ∃ o, annotate formFed = .ok o ∧ o.changed = true ∧
    endsWith formFed "\n" = false ∧ endsWith o.source "\n" = true := by
  obtain ⟨e, hline, ho⟩ := formFed_annotated
  obtain ⟨a, hresult, -⟩ := annotateAt_additions formFed hline
  have hend : endsWith formFed "\n" = false := by decide
  have hfeed : endsWith (unlines a.lines) "\n" = true :=
    (a.endsWith_feed fun l hl => endsWith_of_mem_lines hl).2 (by decide)
  refine ⟨_, ho, rfl, hend, ?_⟩
  rw [congrArg Outcome.source hresult]
  dsimp only
  rw [lastFeed, hend, if_neg Bool.false_ne_true, String.append_empty, hfeed]

end Scaffold.Annotate
