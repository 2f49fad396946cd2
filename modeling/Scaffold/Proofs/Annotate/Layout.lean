import Mathlib.Data.List.Basic
import Scaffold.Annotate.Entity
import Scaffold.Proofs.Text.Lines

/-! Lines around the lines of a text. Whatever is inserted, one thing after the other and each at the place that counts
by then, comes to one layout: some lines on top, and above and below every line of the text those that belong
there. -/

namespace Scaffold.Annotate

open Scaffold.Text
open scoped List

section Around

variable {α β : Type}

/-- The items of a list, each with those above and below it. -/
def around (above below : Nat → List α) : List α → List α
  | [] => []
  | x :: xs => above 0 ++ x :: (below 0 ++ around (fun i => above (i + 1)) (fun i => below (i + 1)) xs)

variable {above below above' below' : Nat → List α} {xs ys : List α}

theorem around_append : around above below (xs ++ ys) = around above below xs ++
    around (fun i => above (i + xs.length)) (fun i => below (i + xs.length)) ys := by
  induction xs generalizing above below with
  | nil => rfl
  | cons x xs ih =>
    rw [List.cons_append, around, around, ih, List.append_assoc, List.cons_append, List.append_assoc]
    rfl

theorem around_at (x : α) : around above below (xs ++ x :: ys) = around above below xs ++ above xs.length ++
    x :: (below xs.length ++
      around (fun i => above (i + 1 + xs.length)) (fun i => below (i + 1 + xs.length)) ys) := by
  rw [around_append, around, Nat.zero_add, List.append_assoc]

theorem around_congr (h : ∀ i < xs.length, above i = above' i ∧ below i = below' i) :
    around above below xs = around above' below' xs := by
  induction xs generalizing above below above' below' with
  | nil => rfl
  | cons x xs ih =>
    obtain ⟨habove, hbelow⟩ := h 0 (Nat.zero_lt_succ _)
    have hrest : around (fun i => above (i + 1)) (fun i => below (i + 1)) xs =
        around (fun i => above' (i + 1)) (fun i => below' (i + 1)) xs :=
      ih fun i hi => h (i + 1) (Nat.succ_lt_succ hi)
    rw [around, around, habove, hbelow, hrest]

theorem around_nothing : around (fun _ => []) (fun _ => []) xs = xs := by
  induction xs with
  | nil => rfl
  | cons x xs ih => rw [around, ih, List.nil_append, List.nil_append]

theorem mem_around {x : α} (h : x ∈ around above below xs) : x ∈ xs ∨ ∃ i, x ∈ above i ∨ x ∈ below i := by
  induction xs generalizing above below with
  | nil => exact absurd h List.not_mem_nil
  | cons y xs ih =>
    rw [around, List.mem_append, List.mem_cons, List.mem_append] at h
    rcases h with h | rfl | h | h
    · exact .inr ⟨0, .inl h⟩
    · exact .inl List.mem_cons_self
    · exact .inr ⟨0, .inr h⟩
    · rcases ih h with h | ⟨i, h⟩
      · exact .inl (List.mem_cons_of_mem y h)
      · exact .inr ⟨i + 1, h⟩

theorem map_around (f : α → β) :
    (around above below xs).map f = around (fun i => (above i).map f) (fun i => (below i).map f) (xs.map f) := by
  induction xs generalizing above below with
  | nil => rfl
  | cons x xs ih => simp only [around, List.map_append, List.map_cons, ih]

theorem sublist_around : xs <+ around above below xs := by
  induction xs generalizing above below with
  | nil => exact .slnil
  | cons x xs ih =>
    have hrest : xs <+ below 0 ++ around (fun i => above (i + 1)) (fun i => below (i + 1)) xs :=
      ih.trans (List.sublist_append_right _ _)
    exact (hrest.cons_cons x).trans (List.sublist_append_right _ _)

theorem filter_around {p : α → Bool} (habove : ∀ i, ∀ x ∈ above i, p x = false)
    (hbelow : ∀ i, ∀ x ∈ below i, p x = false) (hxs : ∀ x ∈ xs, p x = true) :
    (around above below xs).filter p = xs := by
  have hnone {ys : List α} (h : ∀ x ∈ ys, p x = false) : ys.filter p = [] :=
    List.filter_eq_nil_iff.2 fun x hx => by simp [h x hx]
  induction xs generalizing above below with
  | nil => rfl
  | cons x xs ih =>
    rw [List.forall_mem_cons] at hxs
    rw [around, List.filter_append, List.filter_cons_of_pos hxs.1, List.filter_append, hnone (habove 0),
      hnone (hbelow 0), ih (fun i => habove (i + 1)) (fun i => hbelow (i + 1)) hxs.2]
    rfl

theorem insertAt_length (new : List α) : insertAt xs.length new (xs ++ ys) = xs ++ (new ++ ys) := by
  rw [insertAt, List.take_left, List.drop_left, List.append_assoc]

theorem insertAt_behind (x : α) (new : List α) :
    insertAt (xs.length + 1) new (xs ++ x :: ys) = xs ++ x :: (new ++ ys) := by
  have hlength : (xs ++ [x]).length = xs.length + 1 := by simp
  rw [List.append_cons xs x ys, ← hlength, insertAt_length, List.append_assoc]
  rfl

theorem exists_split {i : Nat} (h : i < xs.length) : ∃ front x back, xs = front ++ x :: back ∧ front.length = i := by
  refine ⟨xs.take i, xs[i], xs.drop (i + 1), ?_, List.length_take_of_le (Nat.le_of_lt h)⟩
  rw [List.getElem_cons_drop, List.take_append_drop]

/-- What is inserted above all that was inserted so far goes above its line. -/
theorem insertAt_around {i : Nat} (new : List α) (hi : i < xs.length) (hfree : ∀ j < i, above j = []) :
    insertAt i new (around above (fun _ => []) xs) =
      around (fun j => if j = i then new ++ above j else above j) (fun _ => []) xs := by
  obtain ⟨front, x, back, rfl, rfl⟩ := exists_split hi
  have hfront {above' : Nat → List α} (h : ∀ j < front.length, above' j = []) :
      around above' (fun _ => []) front = front :=
    (around_congr fun j hj => ⟨h j hj, rfl⟩).trans around_nothing
  have hback : around (fun j => if j + 1 + front.length = front.length then new ++ above (j + 1 + front.length)
      else above (j + 1 + front.length)) (fun _ => []) back =
        around (fun j => above (j + 1 + front.length)) (fun _ => []) back :=
    around_congr fun j _ => ⟨if_neg (by omega), rfl⟩
  rw [around_at, around_at, hfront hfree, hfront fun j hj => by rw [if_neg (Nat.ne_of_lt hj), hfree j hj], hback,
    if_pos rfl, List.append_assoc, insertAt_length, List.append_assoc, List.append_assoc]

end Around

/-- Insertions stand above their lines in the order in which they come up the text. -/
def stacked (is : List Insertion) (j : Nat) : List String := (is.filter (·.line == j)).flatMap (·.added)

theorem stacked_append (is more : List Insertion) (j : Nat) :
    stacked (is ++ more) j = stacked is j ++ stacked more j := by
  unfold stacked
  rw [List.filter_append, List.flatMap_append]

theorem stacked_singleton (i : Insertion) (j : Nat) : stacked [i] j = if j = i.line then i.added else [] := by
  unfold stacked
  by_cases h : j = i.line
  · simp [h]
  · simp [h, Ne.symm h]

theorem stacked_of_free {is : List Insertion} {j : Nat} (h : ∀ i ∈ is, i.line ≠ j) : stacked is j = [] := by
  unfold stacked
  rw [List.filter_eq_nil_iff.2 fun i hi => by simp [h i hi]]
  rfl

/-- From the bottom up, every insertion finds its line where it was in the beginning. -/
theorem insertAll_around {is : List Insertion} {ls : List String} {above : Nat → List String}
    (hsorted : is.Pairwise fun a b => b.line ≤ a.line) (hlt : ∀ i ∈ is, i.line < ls.length)
    (hfree : ∀ i ∈ is, ∀ j < i.line, above j = []) :
    insertAll is (around above (fun _ => []) ls) =
      around (fun j => stacked is.reverse j ++ above j) (fun _ => []) ls := by
  induction is generalizing above with
  | nil => rfl
  | cons i rest ih =>
    obtain ⟨hbelow, hsorted⟩ := List.pairwise_cons.1 hsorted
    rw [List.forall_mem_cons] at hlt hfree
    -- Nothing stands above the lines of the insertions that are left, since they are no further down.
    have hrest : ∀ k ∈ rest, ∀ j < k.line, (if j = i.line then i.added ++ above j else above j) = [] := by
      intro k hk j hj
      have hj : j < i.line := Nat.lt_of_lt_of_le hj (hbelow k hk)
      rw [if_neg (Nat.ne_of_lt hj), hfree.1 j hj]
    have hstack : (fun j => stacked (i :: rest).reverse j ++ above j) = fun j =>
        stacked rest.reverse j ++ if j = i.line then i.added ++ above j else above j := by
      funext j
      rw [List.reverse_cons, stacked_append, stacked_singleton, List.append_assoc]
      split <;> rfl
    change insertAll rest (insertAt i.line i.added (around above (fun _ => []) ls)) = _
    rw [insertAt_around i.added hlt.1 hfree.1, ih hsorted hlt.2 hrest, hstack]

/-- What belongs to a line above all insertions is inserted last, and still finds its line. -/
theorem insertAt_insertAll {is : List Insertion} {ls : List String} {line : Nat} (head : List String)
    (hsorted : is.Pairwise fun a b => b.line ≤ a.line) (hline : line < ls.length)
    (hbelow : ∀ i ∈ is, line < i.line ∧ i.line < ls.length) :
    insertAt line head (insertAll is ls) =
      around (fun j => if j = line then head else stacked is.reverse j) (fun _ => []) ls := by
  -- All insertions are further down, so nothing stands above the line yet.
  have hfree : ∀ j ≤ line, stacked is.reverse j = [] := by
    refine fun j hj => stacked_of_free fun i hi hij => ?_
    have hi := (hbelow i (List.mem_reverse.1 hi)).1
    omega
  have hfields : insertAll is ls = around (stacked is.reverse) (fun _ => []) ls := by
    have hbare : insertAll is (around (fun _ => []) (fun _ => []) ls) =
        around (fun j => stacked is.reverse j ++ []) (fun _ => []) ls :=
      insertAll_around hsorted (fun i hi => (hbelow i hi).2) fun _ _ _ _ => rfl
    rw [around_nothing] at hbare
    simpa only [List.append_nil] using hbare
  rw [hfields, insertAt_around head hline fun j hj => hfree j (Nat.le_of_lt hj)]
  refine around_congr fun j _ => ⟨?_, rfl⟩
  split
  · next hj => rw [hj, hfree line (Nat.le_refl line), List.append_nil]
  · rfl

section Imports

variable {front back ls : List String} {l : String} {above : Nat → List String} {place : ImportPlace}

/-- A line that says nothing about packages and imports. -/
structure Neutral (l : String) : Prop where
  imports : opensWith "import " l = false
  package : opensWith "package " l = false

theorem findIdx?_of_first {p : String → Bool} (hl : p l = true) (hfront : ∀ x ∈ front, p x = false) :
    (front ++ l :: back).findIdx? p = some front.length := by
  rw [List.findIdx?_append, List.findIdx?_eq_none_iff.2 hfront, List.findIdx?_cons, if_pos hl]
  simp

theorem lastIdx?_of_last {p : String → Bool} (hl : p l = true) (hback : ∀ x ∈ back, p x = false) :
    lastIdx? p (front ++ l :: back) = some front.length := by
  have hreverse : (front ++ l :: back).reverse = back.reverse ++ l :: front.reverse := by simp
  unfold lastIdx?
  rw [hreverse, findIdx?_of_first hl fun x hx => hback x (List.mem_reverse.1 hx), Option.map_some]
  congr 1
  simp

theorem lastIdx?_of_none {p : String → Bool} (h : ∀ x ∈ ls, p x = false) : lastIdx? p ls = none := by
  unfold lastIdx?
  rw [List.findIdx?_eq_none_iff.2 fun x hx => h x (List.mem_reverse.1 hx)]
  rfl

theorem importPlace_of_import (hl : opensWith "import " l = true) (hback : ∀ x ∈ back, opensWith "import " x = false) :
    importPlace (front ++ l :: back) = .after front.length := by
  unfold importPlace
  rw [lastIdx?_of_last hl hback]

theorem importPlace_of_package (hnone : ∀ x ∈ front ++ l :: back, opensWith "import " x = false)
    (hl : opensWith "package " l = true) (hfront : ∀ x ∈ front, opensWith "package " x = false) :
    importPlace (front ++ l :: back) = .afterPackage front.length := by
  unfold importPlace
  rw [lastIdx?_of_none hnone, findIdx?_of_first hl hfront]

theorem importPlace_of_neutral (h : ∀ x ∈ ls, Neutral x) : importPlace ls = .top := by
  unfold importPlace
  rw [lastIdx?_of_none fun x hx => (h x hx).imports, List.findIdx?_eq_none_iff.2 fun x hx => (h x hx).package]

/-- The place of imports among some lines: behind the last import, else behind the package, else on top. -/
inductive ImportSite (ls : List String) : ImportPlace → Prop where
  | imports (front : List String) (l : String) (back : List String) (split : ls = front ++ l :: back)
      (here : opensWith "import " l = true) (last : ∀ x ∈ back, opensWith "import " x = false) :
      ImportSite ls (.after front.length)
  | package (front : List String) (l : String) (back : List String) (split : ls = front ++ l :: back)
      (here : opensWith "package " l = true) (first : ∀ x ∈ front, opensWith "package " x = false)
      (none : ∀ x ∈ ls, opensWith "import " x = false) : ImportSite ls (.afterPackage front.length)
  | nowhere (neutral : ∀ x ∈ ls, Neutral x) : ImportSite ls .top

theorem exists_first {p : String → Bool} (h : ∃ x ∈ ls, p x = true) :
    ∃ front l back, ls = front ++ l :: back ∧ p l = true ∧ ∀ x ∈ front, p x = false := by
  obtain ⟨l, hl⟩ := Option.isSome_iff_exists.1 (List.find?_isSome.2 h)
  obtain ⟨hp, front, back, rfl, hfront⟩ := List.find?_eq_some_iff_append.1 hl
  exact ⟨front, l, back, rfl, hp, fun x hx => by simpa using hfront x hx⟩

theorem exists_last {p : String → Bool} (h : ∃ x ∈ ls, p x = true) :
    ∃ front l back, ls = front ++ l :: back ∧ p l = true ∧ ∀ x ∈ back, p x = false := by
  obtain ⟨x, hx, hp⟩ := h
  obtain ⟨back, l, front, hsplit, hl, hback⟩ := exists_first ⟨x, List.mem_reverse.2 hx, hp⟩
  refine ⟨front.reverse, l, back.reverse, ?_, hl, fun y hy => hback y (List.mem_reverse.1 hy)⟩
  rw [← List.reverse_reverse ls, hsplit]
  simp

theorem importSite (ls : List String) : ImportSite ls (importPlace ls) := by
  by_cases himport : ∃ x ∈ ls, opensWith "import " x = true
  · obtain ⟨front, l, back, rfl, hl, hback⟩ := exists_last himport
    rw [importPlace_of_import hl hback]
    exact .imports front l back rfl hl hback
  have hnone : ∀ x ∈ ls, opensWith "import " x = false := fun x hx => Bool.eq_false_iff.2 fun h => himport ⟨x, hx, h⟩
  by_cases hpackage : ∃ x ∈ ls, opensWith "package " x = true
  · obtain ⟨front, l, back, rfl, hl, hfront⟩ := exists_first hpackage
    rw [importPlace_of_package hnone hl hfront]
    exact .package front l back rfl hl hfront hnone
  · have hneutral : ∀ x ∈ ls, Neutral x := fun x hx =>
      ⟨hnone x hx, Bool.eq_false_iff.2 fun h => hpackage ⟨x, hx, h⟩⟩
    rw [importPlace_of_neutral hneutral]
    exact .nowhere hneutral

/-- Lines around the lines of a text. -/
structure Layout where
  top : List String := []
  above : Nat → List String
  below : Nat → List String := fun _ => []

def Layout.lines (y : Layout) (ls : List String) : List String := y.top ++ around y.above y.below ls

/-- Import lines at their place. -/
def Layout.withImports (above : Nat → List String) (new : List String) : ImportPlace → Layout
  | .after k => { above, below := fun i => if i = k then new else [] }
  | .afterPackage k => { above, below := fun i => if i = k then "" :: new else [] }
  | .top => { top := new ++ [""], above }

/-- A layout with some names imported; without names nothing is put at the place for them. -/
def Layout.of (above : Nat → List String) (names : List String) (place : ImportPlace) : Layout :=
  if names.isEmpty then { above } else Layout.withImports above (names.map importLine) place

theorem Layout.of_names {names : List String} (h : names ≠ []) (place : ImportPlace) :
    Layout.of above names place = Layout.withImports above (names.map importLine) place :=
  if_neg (by simpa using h)

@[simp] theorem Layout.of_above (names : List String) : (Layout.of above names place).above = above := by
  unfold Layout.of
  split
  · rfl
  · cases place <;> rfl

theorem Layout.sublist_lines (y : Layout) (ls : List String) : ls <+ y.lines ls :=
  sublist_around.trans (List.sublist_append_right _ _)

theorem Layout.forall_mem_lines {p : String → Prop} {names : List String} (hls : ∀ l ∈ ls, p l)
    (habove : ∀ i, ∀ l ∈ above i, p l) (himports : ∀ name ∈ names, p (importLine name)) (hempty : p "") :
    ∀ l ∈ (Layout.of above names place).lines ls, p l := by
  have hnew : ∀ l ∈ names.map importLine, p l := List.forall_mem_map.2 himports
  have hplace : (∀ l ∈ (Layout.of above names place).top, p l) ∧
      ∀ i, ∀ l ∈ (Layout.of above names place).below i, p l := by
    have hat {xs : List String} (hxs : ∀ l ∈ xs, p l) (i k : Nat) : ∀ l ∈ if i = k then xs else [], p l := by
      split
      · exact hxs
      · exact List.forall_mem_nil p
    unfold Layout.of
    split
    · exact ⟨List.forall_mem_nil p, fun _ => List.forall_mem_nil p⟩
    cases place with
    | after k => exact ⟨List.forall_mem_nil p, fun i => hat hnew i k⟩
    | afterPackage k => exact ⟨List.forall_mem_nil p, fun i => hat (List.forall_mem_cons.2 ⟨hempty, hnew⟩) i k⟩
    | top =>
      exact ⟨List.forall_mem_append.2 ⟨hnew, List.forall_mem_singleton.2 hempty⟩, fun _ => List.forall_mem_nil p⟩
  refine List.forall_mem_append.2 ⟨hplace.1, fun l hl => ?_⟩
  rcases mem_around hl with hl | ⟨i, hl | hl⟩
  · exact hls l hl
  · rw [Layout.of_above] at hl
    exact habove i l hl
  · exact hplace.2 i l hl

/-- All lines of a layout, marked by whether they were there before. -/
def Layout.marked (y : Layout) (ls : List String) : List (String × Bool) :=
  y.top.map (·, false) ++
    around (fun i => (y.above i).map (·, false)) (fun i => (y.below i).map (·, false)) (ls.map (·, true))

theorem Layout.marked_lines (y : Layout) (ls : List String) : (y.marked ls).map Prod.fst = y.lines ls := by
  have hfst (mark : Bool) (xs : List String) : (xs.map (·, mark)).map Prod.fst = xs := by
    rw [List.map_map]
    exact List.map_id xs
  rw [marked, List.map_append, map_around, hfst]
  simp only [hfst]
  rfl

theorem Layout.marked_kept (y : Layout) (ls : List String) : ((y.marked ls).filter Prod.snd).map Prod.fst = ls := by
  have hnew {xs : List String} : ∀ x ∈ xs.map (·, false), x.2 = false := by
    rintro _ hx
    obtain ⟨_, -, rfl⟩ := List.mem_map.1 hx
    rfl
  have hold : ∀ x ∈ ls.map (·, true), x.2 = true := by
    rintro _ hx
    obtain ⟨_, -, rfl⟩ := List.mem_map.1 hx
    rfl
  have htop : (y.top.map (·, false)).filter Prod.snd = [] := List.filter_eq_nil_iff.2 fun x hx => by simp [hnew x hx]
  rw [marked, List.filter_append, htop, filter_around (fun _ => hnew) (fun _ => hnew) hold, List.nil_append,
    List.map_map]
  exact List.map_id ls

theorem around_below (new : List String) :
    around above (fun i => if i = front.length then new else []) (front ++ l :: back) =
      around above (fun _ => []) front ++ above front.length ++
        l :: (new ++ around (fun i => above (i + 1 + front.length)) (fun _ => []) back) := by
  have hfront : around above (fun i => if i = front.length then new else []) front =
      around above (fun _ => []) front :=
    around_congr fun i hi => ⟨rfl, if_neg (Nat.ne_of_lt hi)⟩
  have hback : around (fun i => above (i + 1 + front.length))
      (fun i => if i + 1 + front.length = front.length then new else []) back =
        around (fun i => above (i + 1 + front.length)) (fun _ => []) back :=
    around_congr fun i _ => ⟨rfl, if_neg (by omega)⟩
  rw [around_at, if_pos rfl, hfront, hback]

theorem trimChars_of_margin {margin : List Char} (hmargin : margin.all isBlank = true) {c : Char}
    (hc : isBlank c = false) (s : List Char) : trimChars (margin ++ c :: s) = c :: dropBlanksRight s := by
  unfold trimChars dropBlanks
  rw [List.dropWhile_append_of_pos (List.all_eq_true.1 hmargin), ← dropBlanks, dropBlanks_cons_of_not s hc,
    dropBlanksRight_cons hc]

theorem neutral_of_margin {margin : List Char} (hmargin : margin.all isBlank = true) {s : List Char}
    (hl : l.toList = margin ++ '@' :: s) : Neutral l := by
  have htrim : (trim l).toList = '@' :: dropBlanksRight s := by
    rw [trim, String.toList_ofList, hl, trimChars_of_margin hmargin (by decide)]
  have hopens {word : String} (hword : word.toList.head? ≠ some '@') (hne : word.toList ≠ []) :
      opensWith word l = false := by
    refine Bool.eq_false_iff.2 fun h => ?_
    obtain ⟨rest, hrest⟩ := startsWith_iff.1 h
    have hhead := congrArg List.head? hrest
    rw [htrim, List.head?_append_of_ne_nil _ hne] at hhead
    exact hword hhead
  exact ⟨hopens (by decide) (by decide), hopens (by decide) (by decide)⟩

theorem neutral_empty : Neutral "" := ⟨by decide, by decide⟩

theorem opensWith_importLine (name : String) : opensWith "import " (importLine name) = true := by
  have hline : (importLine name).toList = 'i' :: ("mport ".toList ++ name.toList ++ [';']) := by
    unfold importLine
    rw [String.toList_append, String.toList_append]
    rfl
  have hend (s : List Char) : dropBlanksRight (s ++ [';']) = s ++ [';'] := by
    have hsemicolon : isBlank ';' = false := by decide
    unfold dropBlanksRight
    rw [List.reverse_append]
    simp [hsemicolon]
  have htrim (s : List Char) : trimChars ('i' :: s) = 'i' :: dropBlanksRight s :=
    trimChars_of_margin (List.all_nil ..) (by decide) s
  unfold opensWith
  rw [startsWith_iff, trim, String.toList_ofList, hline, htrim, hend]
  exact ⟨name.toList ++ [';'], by simp⟩

theorem addImport_behind (hl : opensWith "import " l = true) (hback : ∀ x ∈ back, opensWith "import " x = false)
    (name : String) : addImport (front ++ l :: back) name = front ++ l :: importLine name :: back := by
  unfold addImport
  rw [importPlace_of_import hl hback]
  exact insertAt_behind l [importLine name]

theorem around_quiet {p : String → Bool} (habove : ∀ i, ∀ l ∈ above i, p l = false) (hls : ∀ l ∈ ls, p l = false) :
    ∀ l ∈ around above (fun _ => []) ls, p l = false := by
  intro l hl
  rcases mem_around hl with hl | ⟨i, hl | hl⟩
  · exact hls l hl
  · exact habove i l hl
  · exact absurd hl List.not_mem_nil

/-- All import lines stand in one place, and one more goes behind them. -/
theorem importBlock (site : ImportSite ls place) (habove : ∀ i, ∀ l ∈ above i, Neutral l) : ∃ us rest,
    (∀ x ∈ rest, opensWith "import " x = false) ∧
    (∀ names ≠ [], (Layout.of above names place).lines ls = us ++ (names.map importLine ++ rest)) ∧
    ∀ name, addImport (around above (fun _ => []) ls) name = us ++ importLine name :: rest := by
  -- In each case: where the block stands, and that one import line that is added finds the same place.
  have hquiet (i : Nat) : ∀ l ∈ above i, opensWith "import " l = false := fun l hl => (habove i l hl).imports
  cases site with
  | imports front l back hsplit hl hback =>
    subst hsplit
    have hrest := around_quiet (fun i => hquiet (i + 1 + front.length)) hback
    refine ⟨around above (fun _ => []) front ++ above front.length ++ [l], _, hrest, fun names hnames => ?_,
      fun name => ?_⟩
    · rw [Layout.of_names hnames]
      change around above (fun i => if i = front.length then names.map importLine else []) (front ++ l :: back) = _
      rw [around_below, List.append_cons]
    · rw [around_at, List.nil_append, addImport_behind hl hrest, List.append_cons]
  | package front l back hsplit hl hfront hnone =>
    have hall := around_quiet hquiet hnone
    subst hsplit
    rw [around_at, List.nil_append] at hall ⊢
    have hbefore : ∀ x ∈ around above (fun _ => []) front ++ above front.length, opensWith "package " x = false := by
      refine List.forall_mem_append.2 ⟨around_quiet (fun i l hl => (habove i l hl).package) hfront, ?_⟩
      exact fun x hx => (habove _ x hx).package
    refine ⟨around above (fun _ => []) front ++ above front.length ++ [l, ""],
      around (fun i => above (i + 1 + front.length)) (fun _ => []) back, ?_, fun names hnames => ?_, fun name => ?_⟩
    · exact fun x hx => hall x (List.mem_append_right _ (List.mem_cons_of_mem l hx))
    · rw [Layout.of_names hnames]
      change around above (fun i => if i = front.length then "" :: names.map importLine else [])
        (front ++ l :: back) = _
      rw [around_below]
      simp
    · unfold addImport
      rw [importPlace_of_package hall hl hbefore]
      dsimp only
      rw [insertAt_behind]
      simp
  | nowhere hneutral =>
    have hall : ∀ x ∈ around above (fun _ => []) ls, Neutral x := fun x hx =>
      ⟨around_quiet hquiet (fun x hx => (hneutral x hx).imports) x hx,
        around_quiet (fun i l hl => (habove i l hl).package) (fun x hx => (hneutral x hx).package) x hx⟩
    refine ⟨[], "" :: around above (fun _ => []) ls, ?_, fun names hnames => ?_, fun name => ?_⟩
    · exact List.forall_mem_cons.2 ⟨neutral_empty.imports, fun x hx => (hall x hx).imports⟩
    · rw [Layout.of_names hnames]
      change names.map importLine ++ [""] ++ around above (fun _ => []) ls = _
      simp
    · unfold addImport
      rw [importPlace_of_neutral hall]
      rfl

theorem addImport_layout (site : ImportSite ls place) (habove : ∀ i, ∀ l ∈ above i, Neutral l) (names : List String)
    (name : String) :
    addImport ((Layout.of above names place).lines ls) name = (Layout.of above (names ++ [name]) place).lines ls := by
  obtain ⟨us, rest, hrest, hlines, hfirst⟩ := importBlock site habove
  have hmore : names ++ [name] ≠ [] := List.append_ne_nil_of_right_ne_nil names (List.cons_ne_nil name [])
  rw [hlines _ hmore]
  rcases List.eq_nil_or_concat' names with rfl | ⟨front, last, rfl⟩
  · exact hfirst name
  · have hne : front ++ [last] ≠ [] := List.append_ne_nil_of_right_ne_nil front (List.cons_ne_nil last [])
    have hsplit : us ++ ((front ++ [last]).map importLine ++ rest) =
        us ++ front.map importLine ++ importLine last :: rest := by simp
    rw [hlines _ hne, hsplit, addImport_behind (opensWith_importLine last) hrest]
    simp

theorem ensureImport_eq_some {more : List String} {name : String} (h : ensureImport ls name = some more) :
    more = addImport ls name := by
  unfold ensureImport at h
  split at h
  · exact nomatch h
  · exact (Option.some.inj h).symm

/-- The imports that are added make a block, in the order in which they are added. -/
theorem importAll_layout (site : ImportSite ls place) (habove : ∀ i, ∀ l ∈ above i, Neutral l)
    (names done : List String) : ∃ added, added <+ names ∧
      importAll names ((Layout.of above done place).lines ls) =
        ((Layout.of above (done ++ added) place).lines ls, added) := by
  induction names generalizing done with
  | nil => exact ⟨[], .slnil, by rw [importAll, List.append_nil]⟩
  | cons name names ih =>
    rw [importAll]
    rcases hadd : ensureImport ((Layout.of above done place).lines ls) name with _ | more
    · obtain ⟨added, hsub, hrest⟩ := ih done
      exact ⟨added, .cons _ hsub, hrest⟩
    · obtain ⟨added, hsub, hrest⟩ := ih (done ++ [name])
      obtain rfl := (ensureImport_eq_some hadd).trans (addImport_layout site habove done name)
      refine ⟨name :: added, .cons_cons _ hsub, ?_⟩
      dsimp only
      rw [hrest, List.append_assoc]
      rfl

theorem ne_empty_of_opensWith {word : String} (hword : opensWith word "" = false) (hl : opensWith word l = true) :
    l ≠ "" := by
  rintro rfl
  rw [hl] at hword
  exact nomatch hword

theorem endsWith_importLine (name : String) : endsWith (importLine name) "\n" = false := by
  have hlast : (importLine name).toList.getLast? = some ';' := by
    rw [importLine, String.toList_append, List.getLast?_append]
    rfl
  rw [← Bool.not_eq_true, endsWith_feed_iff, hlast]
  decide

/-- Nothing goes below the last line of a text, or imports do, and then that line is not empty. -/
theorem below_last {x : String} (site : ImportSite (front ++ [x]) place) (names : List String) :
    (Layout.of above names place).below front.length = [] ∨
      x ≠ "" ∧ ∃ block name, (Layout.of above names place).below front.length = block ++ [importLine name] := by
  rcases List.eq_nil_or_concat' names with rfl | ⟨others, name, rfl⟩
  · exact .inl rfl
  rw [Layout.of_names (List.append_ne_nil_of_right_ne_nil others (List.cons_ne_nil name []))]
  cases site with
  | imports before l back hsplit hl hback =>
    by_cases hlast : front.length = before.length
    · obtain ⟨rfl, hx⟩ := List.append_inj hsplit hlast
      obtain ⟨rfl, -⟩ := List.cons.inj hx
      refine .inr ⟨ne_empty_of_opensWith neutral_empty.imports hl, others.map importLine, name, ?_⟩
      exact (if_pos rfl).trans (by simp)
    · exact .inl (if_neg hlast)
  | package before l back hsplit hl hfirst hnone =>
    by_cases hlast : front.length = before.length
    · obtain ⟨rfl, hx⟩ := List.append_inj hsplit hlast
      obtain ⟨rfl, -⟩ := List.cons.inj hx
      refine .inr ⟨ne_empty_of_opensWith neutral_empty.package hl, "" :: others.map importLine, name, ?_⟩
      exact (if_pos rfl).trans (by simp)
    · exact .inl (if_neg hlast)
  | nowhere => exact .inl rfl

end Imports

end Scaffold.Annotate
