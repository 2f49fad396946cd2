import Scaffold.Proofs.Store.Path
import Scaffold.Store.Memory

/-! The directories of a store in memory: they only become more, and what a file adds above itself is no
longer than the directory of the file. -/

namespace Scaffold.Store

theorem length_parentChars {before name : List Char} (h : '/' ∉ name) :
    (parentChars (before ++ '/' :: name)).length ≤ before.length + 1 ∧
      (before.all (· == '/') = false → (parentChars (before ++ '/' :: name)).length ≤ before.length) := by
  unfold parentChars
  rw [Text.splitLast?_append h]
  have hstrip : (before.reverse.dropWhile (· == '/')).reverse.length ≤ before.length := by
    have hdrop := (List.dropWhile_suffix (l := before.reverse) (· == '/')).length_le
    rw [List.length_reverse] at hdrop ⊢
    exact hdrop
  by_cases hall : before.all (· == '/') = true
  · simp only [if_pos hall]
    refine ⟨by simp, fun hnot => ?_⟩
    rw [hall] at hnot
    exact nomatch hnot
  · simp only [if_neg hall]
    exact ⟨Nat.le_succ_of_le hstrip, fun _ => hstrip⟩

theorem length_parent_le (path : String) : (parent path).toList.length ≤ path.toList.length := by
  unfold parent
  rw [String.toList_ofList]
  unfold parentChars
  rcases hsplit : Text.splitLast? '/' path.toList with _ | ⟨before, name⟩
  · exact Nat.zero_le _
  · have hpath := congrArg List.length (Text.eq_of_splitLast? hsplit)
    simp only [List.length_append, List.length_cons] at hpath
    dsimp only
    split
    · simp
      omega
    · rw [List.length_reverse]
      have hdrop := (List.dropWhile_suffix (l := before.reverse) (· == '/')).length_le
      rw [List.length_reverse] at hdrop
      omega

theorem length_of_mem_parentsFrom {n : Nat} {path x : String} (h : x ∈ parentsFrom n path) :
    x.toList.length ≤ (parent path).toList.length := by
  induction n generalizing path with
  | zero => exact absurd h List.not_mem_nil
  | succ n ih =>
    unfold parentsFrom at h
    dsimp only at h
    split at h
    · exact absurd h List.not_mem_nil
    · rcases List.mem_cons.1 h with rfl | h
      · exact Nat.le_refl _
      · exact Nat.le_trans (ih h) (length_parent_le _)

theorem not_startsWith_slash_of_not_mem {name : String} (h : '/' ∉ name.toList) :
    Text.startsWith name "/" = false := by
  refine Bool.eq_false_iff.2 fun hs => h ?_
  exact (Text.startsWith_iff.1 hs).subset (List.mem_singleton_self _)

theorem length_parent_join {directory name : String} (h : '/' ∉ name.toList) :
    (parent (join directory name)).toList.length ≤ directory.toList.length := by
  unfold join
  rw [not_startsWith_slash_of_not_mem h, Bool.or_false]
  by_cases hempty : directory.isEmpty = true
  · rw [if_pos hempty]
    unfold parent parentChars
    rw [Text.splitLast?_of_not_mem h]
    exact Nat.zero_le _
  · rw [if_neg hempty]
    unfold parent
    rw [String.toList_ofList]
    by_cases hslash : Text.endsWith directory "/" = true
    · obtain ⟨front, hfront⟩ := Text.endsWith_iff.1 hslash
      rw [if_pos hslash, String.toList_append, ← hfront, List.append_assoc]
      rw [List.length_append]
      exact (length_parentChars h).1
    · rw [if_neg hslash, String.toList_append, String.toList_append, List.append_assoc]
      refine (length_parentChars h).2 (Bool.eq_false_iff.2 fun hall => hslash ?_)
      -- Slashes alone would end in one.
      have hne : directory.toList ≠ [] := fun hnil =>
        hempty (String.isEmpty_iff.2 (String.toList_eq_nil_iff.1 hnil))
      have hlast := List.all_eq_true.1 hall _ (List.getLast_mem hne)
      refine Text.endsWith_iff.2 ⟨directory.toList.dropLast, ?_⟩
      conv => rhs; rw [← List.dropLast_concat_getLast hne, eq_of_beq hlast]
      rfl

/-- What a directory name adds to the length of a path does not depend on the name. -/
theorem length_join {a b : String} (directory : String) (ha : '/' ∉ a.toList) (hb : '/' ∉ b.toList) :
    (join directory a).toList.length + b.toList.length =
      (join directory b).toList.length + a.toList.length := by
  unfold join
  rw [not_startsWith_slash_of_not_mem ha, not_startsWith_slash_of_not_mem hb]
  split
  · exact Nat.add_comm _ _
  · split <;> simp only [String.toList_append, List.length_append] <;> omega

theorem length_join_le (directory name : String) :
    (join directory name).toList.length ≤ directory.toList.length + 1 + name.toList.length := by
  unfold join
  split
  · omega
  · split
    · rw [String.toList_append, List.length_append]
      omega
    · rw [String.toList_append, String.toList_append, List.length_append, List.length_append]
      exact Nat.le_refl _

theorem suffix_join (directory name : String) : name.toList <:+ (join directory name).toList := by
  unfold join
  split
  · exact List.suffix_refl _
  · split
    · rw [String.toList_append]
      exact List.suffix_append _ _
    · rw [String.toList_append]
      exact List.suffix_append _ _

theorem endsWith_join {directory name ending : String} (h : Text.endsWith name ending = true) :
    Text.endsWith (join directory name) ending = true :=
  Text.endsWith_iff.2 ((Text.endsWith_iff.1 h).trans (suffix_join directory name))

theorem mem_addDir {x path : String} {dirs : List String} :
    x ∈ addDir path dirs ↔ x = path ∨ x ∈ dirs := by
  unfold addDir
  by_cases h : dirs.contains path = true
  · rw [if_pos h]
    refine ⟨.inr, ?_⟩
    rintro (rfl | hx)
    · exact List.contains_iff_mem.1 h
    · exact hx
  · rw [if_neg h, List.mem_append, List.mem_singleton]
    exact or_comm

theorem mem_addDirs {x : String} {paths dirs : List String} :
    x ∈ paths.foldl (fun ds d => addDir d ds) dirs ↔ x ∈ paths ∨ x ∈ dirs := by
  induction paths generalizing dirs with
  | nil => simp
  | cons path rest ih =>
    rw [List.foldl_cons, ih, mem_addDir, List.mem_cons, or_left_comm, or_assoc]

namespace Memory

theorem isDir_iff {m : Memory} {x : String} : m.isDir x = true ↔ x = "" ∨ x ∈ m.dirs := by
  unfold isDir
  rw [Bool.or_eq_true, beq_iff_eq, List.contains_iff_mem]

theorem isDir_makeDir {m : Memory} {path x : String} :
    (m.makeDir path).isDir x = true ↔ x = path ∨ x ∈ parents path ∨ m.isDir x = true := by
  rw [isDir_iff, isDir_iff]
  change x = "" ∨ x ∈ (parents path).foldl _ (addDir path m.dirs) ↔ _
  rw [mem_addDirs, mem_addDir, or_left_comm (a := x ∈ parents path), or_left_comm (a := x = "")]
  rw [or_left_comm (a := x = "")]

theorem isDir_addParents {m : Memory} {path x : String} :
    (m.addParents path).isDir x = true ↔ x ∈ parents path ∨ m.isDir x = true := by
  rw [isDir_iff, isDir_iff]
  change x = "" ∨ x ∈ (parents path).foldl _ m.dirs ↔ _
  rw [mem_addDirs, or_left_comm]

theorem isDir_write {m : Memory} {path content x : String} :
    (m.write path content).isDir x = true ↔ x ∈ parents path ∨ m.isDir x = true :=
  isDir_addParents (m := { m with files := Entries.put path content m.files })

end Memory

end Scaffold.Store
