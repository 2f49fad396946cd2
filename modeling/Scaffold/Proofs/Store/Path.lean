import Mathlib.Data.List.TakeWhile
import Scaffold.Store.Disk

/-! Paths that are made of names alone, without empty segments and dots. On these joining is adding a
name, and the directory above is all names but the last. -/

namespace Scaffold.Text

theorem segments_eq_splitOn (sep : Char) (s : List Char) : segments sep s = s.splitOn sep := by
  induction s with
  | nil => rw [segments, List.splitOn_nil]
  | cons c r ih =>
    obtain ⟨w, ws, hr⟩ := List.exists_cons_of_ne_nil (segments_ne_nil sep r)
    rw [segments, List.splitOn_cons_eq_if_modifyHead, ← ih, hr]
    rfl

theorem not_mem_segments {sep : Char} {s w : List Char} (h : w ∈ segments sep s) : sep ∉ w := by
  induction s generalizing w with
  | nil =>
    rw [List.mem_singleton.1 h]
    exact List.not_mem_nil
  | cons c s ih =>
    rw [segments] at h
    by_cases hc : (c == sep) = true
    · rw [if_pos hc] at h
      rcases List.mem_cons.1 h with rfl | h
      · exact List.not_mem_nil
      · exact ih h
    · rw [if_neg hc] at h
      obtain ⟨first, rest, hs⟩ := List.exists_cons_of_ne_nil (segments_ne_nil sep s)
      rw [hs] at h ih
      rcases List.mem_cons.1 h with rfl | h
      · have hfirst := ih List.mem_cons_self
        intro hmem
        rcases List.mem_cons.1 hmem with rfl | hmem
        · exact hc (beq_self_eq_true _)
        · exact hfirst hmem
      · exact ih (List.mem_cons_of_mem first h)

theorem splitLast?_of_not_mem {sep : Char} {s : List Char} (h : sep ∉ s) : splitLast? sep s = none := by
  induction s with
  | nil => rfl
  | cons c s ih =>
    have hc : (c == sep) = false := beq_eq_false_iff_ne.2 fun hc => h (hc ▸ List.mem_cons_self)
    rw [splitLast?, ih fun hs => h (List.mem_cons_of_mem c hs)]
    simp [hc]

theorem splitLast?_append {sep : Char} {a b : List Char} (h : sep ∉ b) :
    splitLast? sep (a ++ sep :: b) = some (a, b) := by
  induction a with
  | nil =>
    rw [List.nil_append, splitLast?, splitLast?_of_not_mem h]
    simp
  | cons c a ih => rw [List.cons_append, splitLast?, ih]

theorem eq_of_splitLast? {sep : Char} {s a b : List Char} (h : splitLast? sep s = some (a, b)) :
    s = a ++ sep :: b := by
  induction s generalizing a with
  | nil => exact nomatch h
  | cons c r ih =>
    rw [splitLast?] at h
    rcases hr : splitLast? sep r with _ | ⟨x, y⟩
    · rw [hr] at h
      dsimp only at h
      by_cases hc : (c == sep) = true
      · rw [if_pos hc] at h
        cases h
        rw [eq_of_beq hc]
        rfl
      · rw [if_neg hc] at h
        exact nomatch h
    · rw [hr] at h
      cases h
      rw [ih hr]
      rfl

theorem startsWith_iff {s p : String} : startsWith s p = true ↔ p.toList <+: s.toList := by
  unfold startsWith
  rw [Option.isSome_iff_exists]
  constructor
  · rintro ⟨r, hr⟩
    exact ⟨r, (after?_eq_some_iff.1 hr).symm⟩
  · rintro ⟨r, hr⟩
    exact ⟨r, after?_eq_some_iff.2 hr.symm⟩

theorem endsWith_iff {s p : String} : endsWith s p = true ↔ p.toList <:+ s.toList := by
  unfold endsWith
  rw [Option.isSome_iff_exists, ← List.reverse_prefix]
  constructor
  · rintro ⟨r, hr⟩
    exact ⟨r, (after?_eq_some_iff.1 hr).symm⟩
  · rintro ⟨r, hr⟩
    exact ⟨r, after?_eq_some_iff.2 hr.symm⟩

/-- A text has only one of two endings none of which ends the other. -/
theorem not_endsWith {s ending other : String} (h : endsWith s ending = true)
    (ho : ¬ other.toList <:+ ending.toList ∧ ¬ ending.toList <:+ other.toList) : endsWith s other = false := by
  refine Bool.eq_false_iff.2 fun hs => ?_
  rcases List.suffix_or_suffix_of_suffix (endsWith_iff.1 hs) (endsWith_iff.1 h) with hend | hend
  · exact ho.1 hend
  · exact ho.2 hend

theorem dropWhile_of_not_startsWith {s : String} {c : Char} (h : startsWith s c.toString = false) :
    s.toList.dropWhile (· == c) = s.toList := by
  rcases hs : s.toList with _ | ⟨d, r⟩
  · rfl
  · refine List.dropWhile_cons_of_neg fun hd => ?_
    rw [eq_of_beq hd] at hs
    rw [startsWith_iff.2 (show c.toString.toList <+: s.toList from ⟨r, by rw [hs]; simp⟩)] at h
    exact nomatch h

theorem dropWhile_of_not_endsWith {s : String} {c : Char} (h : endsWith s c.toString = false) :
    (s.toList.reverse.dropWhile (· == c)).reverse = s.toList := by
  rcases hs : s.toList.reverse with _ | ⟨d, r⟩
  · rw [← List.reverse_reverse s.toList, hs]
    rfl
  · rw [← List.reverse_reverse s.toList, hs, List.dropWhile_cons_of_neg]
    intro hd
    rw [eq_of_beq hd] at hs
    rw [endsWith_iff.2 (List.reverse_prefix.1 ⟨r, by rw [hs]; simp⟩)] at h
    exact nomatch h

end Scaffold.Text

namespace Scaffold.Store

open Scaffold.Text

/-- A name that stands for itself in a path. -/
structure IsName (name : String) : Prop where
  nonempty : name ≠ ""
  not_dot : name ≠ "."
  not_dots : name ≠ ".."
  no_slash : '/' ∉ name.toList

def pathOf (names : List String) : String := "/".intercalate names

/-- A path that is nothing but names with slashes in between, none of them leading upwards. -/
structure Normal (path : String) : Prop where
  upward : ".." ∉ parts path
  eq : pathOf (parts path) = path

theorem toList_pathOf (names : List String) :
    (pathOf names).toList = ['/'].intercalate (names.map String.toList) :=
  String.toList_intercalate

theorem pathOf_nil : pathOf [] = "" := String.intercalate_nil

theorem pathOf_concat {names : List String} (h : names ≠ []) (name : String) :
    pathOf (names ++ [name]) = pathOf names ++ "/" ++ name := by
  unfold pathOf
  rw [String.intercalate_append_of_ne_nil h (List.cons_ne_nil name []), String.intercalate_singleton]

theorem isName_of_mem_parts {path name : String} (h : name ∈ parts path) (hu : name ≠ "..") :
    IsName name := by
  obtain ⟨hmem, hfilter⟩ := List.mem_filter.1 h
  obtain ⟨chars, hchars, rfl⟩ := List.mem_map.1 hmem
  simp only [Bool.and_eq_true, bne_iff_ne, ne_eq] at hfilter
  refine ⟨hfilter.1, hfilter.2, hu, ?_⟩
  rw [String.toList_ofList]
  exact not_mem_segments hchars

theorem parts_pathOf {names : List String} (h : ∀ name ∈ names, IsName name) :
    parts (pathOf names) = names := by
  rcases List.eq_nil_or_concat names with rfl | ⟨init, last, hnames⟩
  · rw [pathOf_nil]
    rfl
  · have hne : names.map String.toList ≠ [] := by simp [hnames]
    unfold parts
    rw [toList_pathOf, segments_eq_splitOn, List.splitOn_intercalate '/' ?_ hne, List.map_map]
    · have hid : String.ofList ∘ String.toList = id := funext fun s => String.ofList_toList
      rw [hid, List.map_id, List.filter_eq_self]
      intro name hname
      simp [(h name hname).nonempty, (h name hname).not_dot]
    · intro chars hchars
      obtain ⟨name, hname, rfl⟩ := List.mem_map.1 hchars
      exact (h name hname).no_slash

theorem normal_pathOf {names : List String} (h : ∀ name ∈ names, IsName name) : Normal (pathOf names) := by
  refine ⟨?_, ?_⟩
  · rw [parts_pathOf h]
    exact fun hu => (h _ hu).not_dots rfl
  · rw [parts_pathOf h]

theorem IsName.toList_ne_nil {name : String} (h : IsName name) : name.toList ≠ [] :=
  fun he => h.nonempty (String.toList_eq_nil_iff.1 he)

theorem pathOf_front {names : List String} (h : names ≠ []) :
    ∃ name ∈ names, name.toList <+: (pathOf names).toList := by
  rcases names with _ | ⟨name, _ | ⟨second, rest⟩⟩
  · exact absurd rfl h
  · exact ⟨name, List.mem_cons_self, [], by simp [pathOf]⟩
  · refine ⟨name, List.mem_cons_self, ("/" ++ pathOf (second :: rest)).toList, ?_⟩
    unfold pathOf
    rw [String.intercalate_cons_cons, String.append_assoc, ← String.toList_append]

theorem pathOf_end {names : List String} (h : names ≠ []) :
    ∃ name ∈ names, name.toList <:+ (pathOf names).toList := by
  rcases List.eq_nil_or_concat names with rfl | ⟨init, name, rfl⟩
  · exact absurd rfl h
  · refine ⟨name, by simp, ?_⟩
    by_cases hi : init = []
    · exact ⟨[], by simp [hi, pathOf]⟩
    · refine ⟨(pathOf init ++ "/").toList, ?_⟩
      rw [List.concat_eq_append, pathOf_concat hi, ← String.toList_append]

theorem not_startsWith_slash {names : List String} (h : ∀ name ∈ names, IsName name) :
    startsWith (pathOf names) "/" = false := by
  rw [← Bool.not_eq_true, startsWith_iff]
  intro hslash
  by_cases hne : names = []
  · subst hne
    exact absurd (List.prefix_nil.1 hslash) (by decide)
  · obtain ⟨name, hname, rest, hfront⟩ := pathOf_front hne
    obtain ⟨c, cs, hcs⟩ := List.exists_cons_of_ne_nil (h name hname).toList_ne_nil
    obtain ⟨tail, htail⟩ := hslash
    rw [← hfront, hcs] at htail
    refine (h name hname).no_slash ?_
    rw [hcs, ← (List.cons.inj htail).1]
    exact List.mem_cons_self

theorem not_endsWith_slash {names : List String} (h : ∀ name ∈ names, IsName name) :
    endsWith (pathOf names) "/" = false := by
  rw [← Bool.not_eq_true, endsWith_iff]
  intro hslash
  by_cases hne : names = []
  · subst hne
    exact absurd (List.suffix_nil.1 hslash) (by decide)
  · obtain ⟨name, hname, hend⟩ := pathOf_end hne
    obtain ⟨init, last, hlast⟩ :=
      (List.eq_nil_or_concat name.toList).resolve_left (h name hname).toList_ne_nil
    obtain ⟨front, hfront⟩ := hslash
    obtain ⟨rest, hrest⟩ := hend
    rw [← hrest, hlast, List.concat_eq_append, ← List.append_assoc] at hfront
    have hslash : last = '/' := (List.singleton_inj.1 (List.append_inj_right' hfront rfl)).symm
    refine (h name hname).no_slash ?_
    rw [hlast, hslash]
    simp

theorem mem_of_mem_join {directory name : String} {c : Char} (h : c ∈ (join directory name).toList) :
    c ∈ directory.toList ∨ c = '/' ∨ c ∈ name.toList := by
  unfold join at h
  split at h
  · exact .inr (.inr h)
  · split at h
    · rw [String.toList_append, List.mem_append] at h
      exact h.imp_right .inr
    · rw [String.toList_append, String.toList_append, List.mem_append, List.mem_append] at h
      rcases h with (h | h) | h
      · exact .inl h
      · exact .inr (.inl (List.mem_singleton.1 h))
      · exact .inr (.inr h)

theorem mem_of_mem_parent {path : String} {c : Char} (h : c ∈ (parent path).toList) :
    c ∈ path.toList := by
  unfold parent parentChars at h
  rw [String.toList_ofList] at h
  rcases hs : splitLast? '/' path.toList with _ | ⟨before, rest⟩
  · rw [hs] at h
    exact absurd h List.not_mem_nil
  · rw [hs] at h
    rw [eq_of_splitLast? hs]
    dsimp only at h
    split at h
    · rcases List.mem_append.1 h with h | h
      · exact List.mem_append_left _ h
      · rw [List.mem_singleton.1 h]
        simp
    · have hmem := (List.dropWhile_sublist _).subset (List.mem_reverse.1 h)
      exact List.mem_append_left _ (List.mem_reverse.1 hmem)

namespace Normal

variable {path other name : String}

theorem isName (h : Normal path) : ∀ name ∈ parts path, IsName name := by
  intro name hname
  refine isName_of_mem_parts hname ?_
  rintro rfl
  exact h.upward hname

theorem inj (h : Normal path) (k : Normal other) (he : parts path = parts other) : path = other := by
  rw [← h.eq, he, k.eq]

theorem parts_eq_nil_iff (h : Normal path) : parts path = [] ↔ path = "" := by
  constructor
  · intro hp
    rw [← h.eq, hp, pathOf_nil]
  · rintro rfl
    rfl

theorem not_absolute (h : Normal path) : startsWith path "/" = false := by
  rw [← h.eq]
  exact not_startsWith_slash h.isName

theorem below_eq (h : Normal path) (base : Location) : below base path = base ++ parts path := by
  unfold below
  rw [h.not_absolute]
  rfl

theorem join_eq (h : Normal path) (hn : IsName name) : join path name = pathOf (parts path ++ [name]) := by
  have hname : startsWith name "/" = false := by
    have hone : ∀ x ∈ [name], IsName x := by simpa using hn
    have hfront := not_startsWith_slash hone
    rwa [pathOf, String.intercalate_singleton] at hfront
  have hend : endsWith path "/" = false := by
    rw [← h.eq]
    exact not_endsWith_slash h.isName
  unfold join
  rw [hname, Bool.or_false, hend]
  by_cases he : path = ""
  · subst he
    rfl
  · rw [if_neg (by simpa using he), if_neg (by decide), pathOf_concat (mt h.parts_eq_nil_iff.1 he), h.eq]

theorem isName_concat (h : Normal path) (hn : IsName name) : ∀ x ∈ parts path ++ [name], IsName x := by
  intro x hx
  rcases List.mem_append.1 hx with hx | hx
  · exact h.isName x hx
  · rw [List.mem_singleton.1 hx]
    exact hn

theorem join (h : Normal path) (hn : IsName name) : Normal (Store.join path name) := by
  rw [h.join_eq hn]
  exact normal_pathOf (h.isName_concat hn)

theorem parts_join (h : Normal path) (hn : IsName name) :
    parts (Store.join path name) = parts path ++ [name] := by
  rw [h.join_eq hn]
  exact parts_pathOf (h.isName_concat hn)

theorem parent_eq (h : Normal path) : parent path = pathOf (parts path).dropLast := by
  rcases List.eq_nil_or_concat (parts path) with hp | ⟨init, last, hp⟩
  · rw [h.parts_eq_nil_iff.1 hp]
    rfl
  · have hnames := h.isName
    rw [hp, List.concat_eq_append] at hnames ⊢
    have hlast := (hnames last (by simp)).no_slash
    rw [List.dropLast_concat]
    unfold parent parentChars
    rw [← h.eq, hp, List.concat_eq_append]
    by_cases hi : init = []
    · subst hi
      rw [List.nil_append, pathOf, String.intercalate_singleton, splitLast?_of_not_mem hlast]
      rfl
    · have hchars : (pathOf (init ++ [last])).toList = (pathOf init).toList ++ '/' :: last.toList := by
        rw [pathOf_concat hi, String.toList_append, String.toList_append]
        simp
      have hinit : ∀ name ∈ init, IsName name := fun x hx => hnames x (List.mem_append_left _ hx)
      have hfront := dropWhile_of_not_startsWith (c := '/') (not_startsWith_slash hinit)
      -- What stands in front of the last slash is no run of slashes, since its names have characters.
      have hall : ¬ ((pathOf init).toList.all (· == '/')) = true := by
        intro hall
        rw [List.dropWhile_eq_nil_iff.2 (List.all_eq_true.1 hall)] at hfront
        obtain ⟨name, hname, hend⟩ := pathOf_end hi
        rw [← hfront] at hend
        exact (hinit name hname).toList_ne_nil (List.suffix_nil.1 hend)
      rw [hchars, splitLast?_append hlast]
      dsimp only
      rw [if_neg hall, dropWhile_of_not_endsWith (c := '/') (not_endsWith_slash hinit), String.ofList_toList]

theorem parent (h : Normal path) : Normal (Store.parent path) := by
  rw [h.parent_eq]
  exact normal_pathOf fun x hx => h.isName x (List.dropLast_subset _ hx)

theorem parts_parent (h : Normal path) : parts (Store.parent path) = (parts path).dropLast := by
  rw [h.parent_eq]
  exact parts_pathOf fun x hx => h.isName x (List.dropLast_subset _ hx)

theorem stripSlashes_eq (h : Normal path) : stripSlashes path = path := by
  have hfront := dropWhile_of_not_startsWith (c := '/') h.not_absolute
  have hend : endsWith path "/" = false := by
    rw [← h.eq]
    exact not_endsWith_slash h.isName
  unfold stripSlashes stripWhere
  rw [hfront, dropWhile_of_not_endsWith (c := '/') hend, String.ofList_toList]

end Normal

end Scaffold.Store
