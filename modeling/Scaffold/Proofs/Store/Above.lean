import Mathlib.Data.List.DropRight
import Scaffold.Proofs.Store.Memory

/-! The directory above a path. For paths without a slash at their ends it undoes joining; the directories of a
memory stay closed under it. -/

namespace Scaffold

namespace Store

open Scaffold.Text

/-- A path without a slash at its ends. -/
structure Bare (path : String) : Prop where
  front : startsWith path "/" = false
  back : endsWith path "/" = false

theorem startsWith_slash {path : String} : startsWith path "/" = true ↔ path.toList.head? = some '/' := by
  rw [startsWith_iff]
  rcases path.toList with _ | ⟨c, cs⟩
  · simp
  · simp [List.cons_prefix_cons, eq_comm]

theorem endsWith_slash {path : String} : endsWith path "/" = true ↔ path.toList.getLast? = some '/' := by
  rw [endsWith_iff, ← List.reverse_prefix, ← List.head?_reverse]
  rcases path.toList.reverse with _ | ⟨c, cs⟩
  · simp
  · simp [List.cons_prefix_cons, eq_comm]

theorem head?_of_prefix {s t : List Char} (h : s <+: t) (hs : s.head? = some '/') : t.head? = some '/' := by
  obtain ⟨rest, rfl⟩ := h
  rw [List.head?_append, hs, Option.some_or]

theorem getLast?_rdropWhile (s : List Char) : (s.rdropWhile (· == '/')).getLast? ≠ some '/' := by
  intro h
  have hne : s.rdropWhile (· == '/') ≠ [] := fun hnil => by rw [hnil] at h; exact nomatch h
  refine List.rdropWhile_last_not (· == '/') s hne ?_
  rw [List.getLast?_eq_some_getLast hne] at h
  rw [Option.some.inj h]
  rfl

theorem bare_stripSlashes (path : String) : Bare (stripSlashes path) := by
  have hchars : (stripSlashes path).toList = (path.toList.dropWhile (· == '/')).rdropWhile (· == '/') :=
    String.toList_ofList
  refine ⟨Bool.eq_false_iff.2 fun h => ?_, Bool.eq_false_iff.2 fun h => ?_⟩
  · rw [startsWith_slash, hchars] at h
    have hfront := head?_of_prefix (List.rdropWhile_prefix (· == '/') _) h
    have hdrop := List.head?_dropWhile_not (· == '/') path.toList
    rw [hfront] at hdrop
    exact nomatch hdrop
  · rw [endsWith_slash, hchars] at h
    exact getLast?_rdropWhile _ h

theorem toList_join {directory name : String} (hd : endsWith directory "/" = false) (hn : '/' ∉ name.toList)
    (hne : directory ≠ "") : (join directory name).toList = directory.toList ++ '/' :: name.toList := by
  have hempty : directory.isEmpty = false := Bool.eq_false_iff.2 fun h => hne (String.isEmpty_iff.1 h)
  unfold join
  rw [not_startsWith_slash_of_not_mem hn, hempty, hd]
  simp

theorem join_empty (name : String) : join "" name = name := rfl

theorem toList_parent {path : String} {before name : List Char} (h : path.toList = before ++ '/' :: name)
    (hn : '/' ∉ name) (hb : before.all (· == '/') = false) :
    (parent path).toList = before.rdropWhile (· == '/') := by
  unfold parent parentChars
  rw [String.toList_ofList, h, splitLast?_append hn]
  dsimp only
  rw [hb]
  rfl

theorem toList_parent_of_slashes {path : String} {before name : List Char} (h : path.toList = before ++ '/' :: name)
    (hn : '/' ∉ name) (hb : before.all (· == '/') = true) : (parent path).toList = before ++ ['/'] := by
  unfold parent parentChars
  rw [String.toList_ofList, h, splitLast?_append hn]
  dsimp only
  rw [hb]
  rfl

theorem parent_of_not_mem {path : String} (h : '/' ∉ path.toList) : parent path = "" := by
  unfold parent parentChars
  rw [splitLast?_of_not_mem h]

theorem not_all_slashes {s : List Char} (hne : s ≠ []) (h : s.head? ≠ some '/') : s.all (· == '/') = false := by
  obtain ⟨c, cs, rfl⟩ := List.exists_cons_of_ne_nil hne
  have hc : (c == '/') = false := beq_eq_false_iff_ne.2 fun hc => h (by rw [hc]; rfl)
  rw [List.all_cons, hc, Bool.false_and]

theorem rdropWhile_of_back {s : List Char} (h : s.getLast? ≠ some '/') : s.rdropWhile (· == '/') = s := by
  refine List.rdropWhile_eq_self_iff.2 fun hl hlast => h ?_
  rw [List.getLast?_eq_some_getLast hl, eq_of_beq hlast]

theorem Bare.getLast?_ne {directory : String} (h : Bare directory) : directory.toList.getLast? ≠ some '/' := by
  intro hlast
  have hslash := h.back
  rw [endsWith_slash.2 hlast] at hslash
  cases hslash

theorem parent_join {directory name : String} (hd : Bare directory) (hn : '/' ∉ name.toList) :
    parent (join directory name) = directory := by
  by_cases hne : directory = ""
  · rw [hne, join_empty, parent_of_not_mem hn]
  · have hchars : directory.toList ≠ [] := fun h => hne (String.toList_eq_nil_iff.1 h)
    have hfront : directory.toList.head? ≠ some '/' := fun h => by
      have hslash := hd.front
      rw [startsWith_slash.2 h] at hslash
      exact nomatch hslash
    rw [← String.toList_inj, toList_parent (toList_join hd.back hn hne) hn (not_all_slashes hchars hfront)]
    exact rdropWhile_of_back hd.getLast?_ne

theorem Bare.front_join {directory name : String} (h : Bare directory) (hn : '/' ∉ name.toList) :
    startsWith (join directory name) "/" = false := by
  by_cases hd : directory = ""
  · rw [hd, join_empty]
    exact not_startsWith_slash_of_not_mem hn
  · have hfront := h.front
    obtain ⟨c, cs, hchars⟩ := List.exists_cons_of_ne_nil fun hnil => hd (String.toList_eq_nil_iff.1 hnil)
    rw [← Bool.not_eq_true, startsWith_slash, hchars] at hfront
    rw [← Bool.not_eq_true, startsWith_slash, toList_join h.back hn hd, hchars]
    exact hfront

theorem Bare.join {directory name : String} (h : Bare directory) (hn : '/' ∉ name.toList) (hne : name ≠ "") :
    Bare (join directory name) := by
  have hlast : (Store.join directory name).toList.getLast? = name.toList.getLast? := by
    by_cases hd : directory = ""
    · rw [hd, join_empty]
    · have hname : name.toList ≠ [] := fun hnil => hne (String.toList_eq_nil_iff.1 hnil)
      rw [toList_join h.back hn hd, List.append_cons, List.getLast?_append_of_ne_nil _ hname]
  refine ⟨h.front_join hn, Bool.eq_false_iff.2 fun hslash => hn ?_⟩
  rw [endsWith_slash, hlast] at hslash
  exact List.mem_of_getLast? hslash

theorem exists_last_name {s : List Char} (h : '/' ∈ s) :
    ∃ before name, s = before ++ '/' :: name ∧ '/' ∉ name := by
  obtain ⟨first, rest, hsplit, hfirst⟩ := List.eq_append_cons_of_mem (List.mem_reverse.2 h)
  refine ⟨rest.reverse, first.reverse, ?_, fun hmem => hfirst (List.mem_reverse.1 hmem)⟩
  rw [← List.reverse_reverse s, hsplit]
  simp

/-- The last slash of a path that does not begin with one has a name in front of it. -/
theorem exists_above {path : String} (h : startsWith path "/" = false) (hslash : '/' ∈ path.toList) :
    ∃ before name, path.toList = before ++ '/' :: name ∧ '/' ∉ name ∧
      (parent path).toList = before.rdropWhile (· == '/') := by
  obtain ⟨before, name, hpath, hname⟩ := exists_last_name hslash
  have hfront : before ≠ [] ∧ before.head? ≠ some '/' := by
    rw [← Bool.not_eq_true, startsWith_slash, hpath] at h
    refine ⟨fun hnil => h (by rw [hnil]; rfl), fun hhead => h ?_⟩
    exact head?_of_prefix (List.prefix_append _ _) hhead
  exact ⟨before, name, hpath, hname, toList_parent hpath hname (not_all_slashes hfront.1 hfront.2)⟩

theorem Bare.parent {path : String} (h : Bare path) : Bare (parent path) := by
  by_cases hslash : '/' ∈ path.toList
  · obtain ⟨before, name, hpath, -, hparent⟩ := exists_above h.front hslash
    refine ⟨Bool.eq_false_iff.2 fun hstart => Bool.eq_false_iff.1 h.front ?_, Bool.eq_false_iff.2 fun hend => ?_⟩
    · rw [startsWith_slash, hparent] at hstart
      rw [startsWith_slash, hpath]
      exact head?_of_prefix ((List.rdropWhile_prefix _ _).trans (List.prefix_append _ _)) hstart
    · rw [endsWith_slash, hparent] at hend
      exact getLast?_rdropWhile before hend
  · rw [parent_of_not_mem hslash]
    exact ⟨rfl, rfl⟩

theorem rdropWhile_append_of_back {root s : List Char} (h : root.getLast? ≠ some '/') :
    (root ++ s).rdropWhile (· == '/') = root ++ s.rdropWhile (· == '/') := by
  have hroot := rdropWhile_of_back h
  rcases hs : s.rdropWhile (· == '/') with _ | ⟨c, cs⟩
  · unfold List.rdropWhile at hs hroot ⊢
    rw [List.reverse_append, List.dropWhile_append, List.reverse_eq_nil_iff.1 hs]
    rw [List.isEmpty_nil, if_pos rfl, hroot, List.append_nil]
  · unfold List.rdropWhile at hs ⊢
    have hne : ((s.reverse.dropWhile (· == '/')).isEmpty) = false := by
      rw [← List.isEmpty_reverse, hs]
      rfl
    rw [List.reverse_append, List.dropWhile_append, if_neg (by rw [hne]; decide), List.reverse_append,
      List.reverse_reverse, hs]

theorem parent_eq_or_lt (path : String) :
    parent path = path ∨ (parent path).toList.length < path.toList.length := by
  by_cases hslash : '/' ∈ path.toList
  · obtain ⟨before, name, hpath, hname⟩ := exists_last_name hslash
    cases hb : before.all (· == '/') with
    | true =>
      have hparent := toList_parent_of_slashes hpath hname hb
      rcases name with _ | ⟨c, cs⟩
      · exact .inl (String.toList_inj.1 (hparent.trans hpath.symm))
      · right
        rw [hparent, hpath]
        simp
    | false =>
      right
      have hlength := (List.rdropWhile_prefix (· == '/') before).length_le
      rw [toList_parent hpath hname hb, hpath, List.length_append, List.length_cons]
      omega
  · rw [parent_of_not_mem hslash]
    rcases hpath : path.toList with _ | ⟨c, cs⟩
    · exact .inl (String.toList_eq_nil_iff.1 hpath).symm
    · exact .inr (by simp)

theorem parentsFrom_succ {n : Nat} {path : String} (h : parent path ≠ "") :
    parentsFrom (n + 1) path = parent path :: parentsFrom n (parent path) := by
  have hempty : ¬ (parent path).isEmpty = true := fun he => h (String.isEmpty_iff.1 he)
  rw [parentsFrom, if_neg hempty]

/-- With as many steps as a path has characters, all directories above it are met. -/
theorem parent_mem_parentsFrom {n : Nat} {path x : String}
    (hn : path.toList.length ≤ n ∨ parent path = path) (hx : x ∈ parentsFrom n path) :
    parent x = "" ∨ parent x ∈ parentsFrom n path := by
  induction n generalizing path with
  | zero => exact absurd hx List.not_mem_nil
  | succ n ih =>
    by_cases habove : parent path = ""
    · rw [parentsFrom, habove] at hx
      exact absurd hx List.not_mem_nil
    · rw [parentsFrom_succ habove] at hx ⊢
      have hnext : (parent path).toList.length ≤ n ∨ parent (parent path) = parent path := by
        rcases parent_eq_or_lt path with hsame | hlt
        · exact .inr (by rw [hsame, hsame])
        · rcases hn with hn | hsame
          · exact .inl (by omega)
          · exact .inr (by rw [hsame, hsame])
      rcases List.mem_cons.1 hx with rfl | hx
      · by_cases htop : parent (parent path) = ""
        · exact .inl htop
        · right
          rcases hnext with hle | hsame
          · -- The directory above has a character, so there is a step left for it.
            have hpos : 0 < (parent path).toList.length :=
              List.length_pos_iff.2 fun hnil => habove (String.toList_eq_nil_iff.1 hnil)
            obtain ⟨m, rfl⟩ := Nat.exists_eq_succ_of_ne_zero (Nat.ne_of_gt (Nat.lt_of_lt_of_le hpos hle))
            rw [Nat.succ_eq_add_one, parentsFrom_succ htop]
            exact List.mem_cons_of_mem _ List.mem_cons_self
          · rw [hsame]
            exact List.mem_cons_self
      · exact (ih hnext hx).imp_right (List.mem_cons_of_mem _)

/-- The directory above a path is met first. -/
theorem parent_mem_parents (path : String) : parent path = "" ∨ parent path ∈ parents path := by
  by_cases htop : parent path = ""
  · exact .inl htop
  · have hpos : path.length ≠ 0 := fun hzero => htop (by rw [String.length_eq_zero_iff.1 hzero]; rfl)
    obtain ⟨k, hk⟩ := Nat.exists_eq_succ_of_ne_zero hpos
    right
    unfold parents
    rw [hk, Nat.succ_eq_add_one, parentsFrom_succ htop]
    exact List.mem_cons_self

namespace Memory

/-- Every directory stands in one that is there. -/
def Closed (m : Memory) : Prop := ∀ d, m.isDir d = true → m.isDir (parent d) = true

theorem isDir_empty (m : Memory) : m.isDir "" = true := isDir_iff.2 (.inl rfl)

/-- A memory that gains a path and the directories above it. -/
theorem Closed.grow {m n : Memory} {path : String} (h : m.Closed)
    (hback : ∀ x, n.isDir x = true → x = path ∨ x ∈ parents path ∨ m.isDir x = true)
    (hnew : ∀ x, x ∈ parents path ∨ m.isDir x = true → n.isDir x = true) : n.Closed := by
  intro d hd
  have habove : parent d = "" ∨ parent d ∈ parents path ∨ m.isDir (parent d) = true := by
    rcases hback d hd with rfl | hmem | hold
    · exact (parent_mem_parents d).imp_right .inl
    · exact (parent_mem_parentsFrom (.inl (Nat.le_of_eq String.length_toList)) hmem).imp_right .inl
    · exact .inr (.inr (h d hold))
  rcases habove with htop | habove
  · rw [htop]
    exact isDir_empty n
  · exact hnew _ habove

theorem Closed.makeDir {m : Memory} (h : m.Closed) (path : String) : (m.makeDir path).Closed :=
  h.grow (fun _ => isDir_makeDir.1) fun _ hx => isDir_makeDir.2 (.inr hx)

theorem Closed.write {m : Memory} (h : m.Closed) (path content : String) : (m.write path content).Closed :=
  h.grow (fun _ hx => .inr (isDir_write.1 hx)) fun _ hx => isDir_write.2 hx

theorem closed_ofFiles (files : List (String × String)) : (ofFiles files).Closed := by
  have hadd : ∀ (rest : List (String × String)) (m : Memory), m.Closed →
      (rest.foldl (fun m file => m.addParents file.1) m).Closed := by
    intro rest
    induction rest with
    | nil => exact fun _ h => h
    | cons file rest ih =>
      intro m h
      exact ih _ (h.grow (fun _ hx => .inr (isDir_addParents.1 hx)) fun _ => isDir_addParents.2)
  refine hadd files { files } fun d hd => ?_
  have htop : d = "" := by simpa using isDir_iff.1 hd
  rw [htop]
  exact isDir_empty _

end Memory

end Store

end Scaffold
