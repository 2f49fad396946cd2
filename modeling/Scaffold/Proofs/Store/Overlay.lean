import Scaffold.Proofs.Effect
import Scaffold.Proofs.Store.Path
import Scaffold.Proofs.Store.Tree
import Scaffold.Proofs.Text.Utf8
import Scaffold.Store.Project

/-! A rehearsal beside the real thing: what it keeps in memory lies over its disk as the changes lie on the
other disk. -/

namespace Scaffold.Store

namespace Disk

variable {d : Disk} {l m : Location} {e : Entry}

theorem Tree.look?_set_here (hs : (d.set l e).Tree) (hu : ".." ∉ l) (hl : l ≠ []) :
    (d.set l e).look? l = some e := by
  rw [hs.look?_eq hu, set_here hl]

theorem Tree.look?_set_elsewhere (hd : d.Tree) (hs : (d.set l e).Tree) (hu : ".." ∉ m) (h : m ≠ l) :
    (d.set l e).look? m = d.look? m := by
  rw [hs.look?_eq hu, hd.look?_eq hu, set_elsewhere h]

end Disk

namespace Project

open Scaffold.Text

variable {p : Project} {path content : String}

theorem makeDir_of_rehearsal (h : p.rehearsal = true) :
    makeDir path p = (.ok (), { p with pendingDirs := addDir path p.pendingDirs }) := by
  unfold makeDir
  rw [Effect.bind_apply, Effect.get_apply]
  dsimp only
  rw [if_pos h, Effect.set_apply]

theorem makeDirs_apply (names : List String) (fault : String → DiskFault → Failure) :
    makeDirs path names fault p = match p.disk.makeDirs names with
      | (.ok _, disk) => (.ok (), { p with disk })
      | (.error f, disk) => (.error (fault path f), { p with disk }) := by
  unfold makeDirs
  rw [Effect.bind_apply, Effect.get_apply]
  dsimp only
  rcases p.disk.makeDirs names with ⟨_ | _, disk⟩ <;> rfl

theorem makeDir_of_real (h : p.rehearsal = false) :
    makeDir path p = makeDirs path (p.names path) .makeDir p := by
  unfold makeDir
  rw [Effect.bind_apply, Effect.get_apply]
  dsimp only
  rw [if_neg (by rw [h]; decide)]

/-- The project after its manifest has taken note of a file. -/
def noted (p : Project) (path content : String) : Project :=
  { p with manifest := Entries.put path (Digest.sha256 content) p.manifest }

theorem write_of_rehearsal (h : p.rehearsal = true) :
    write path content p = (.ok (), { p.noted path content with
      pendingFiles := Entries.put path content p.pendingFiles }) := by
  unfold write
  rw [Effect.bind_apply, Effect.modify_apply]
  dsimp only
  rw [Effect.bind_apply, Effect.get_apply]
  dsimp only
  rw [if_pos h]
  rfl

theorem write_of_real (h : p.rehearsal = false) :
    write path content p = match makeDirs path (p.names path).dropLast .write (p.noted path content) with
      | (.error f, q) => (.error f, q)
      | (.ok _, q) => match q.disk.write (p.names path) (Utf8.encode content) with
        | .ok disk => (.ok (), { q with disk })
        | .error f => (.error (.write path f), q) := by
  unfold write
  rw [Effect.bind_apply, Effect.modify_apply]
  dsimp only
  rw [Effect.bind_apply, Effect.get_apply]
  dsimp only
  rw [if_neg (by rw [h]; decide)]
  unfold writeBytes
  rw [Effect.bind_apply, Effect.get_apply]
  change (makeDirs path (p.names path).dropLast .write >>= _) (p.noted path content) = _
  rw [Effect.bind_apply]
  rcases makeDirs path (p.names path).dropLast .write (p.noted path content) with ⟨_ | _, q⟩
  · rfl
  · dsimp only
    rw [Effect.bind_apply, Effect.get_apply]
    dsimp only
    change (match q.disk.write (p.names path) (Utf8.encode content) with
      | .ok disk => setDisk disk
      | .error f => throw (Failure.write path f)) q = _
    rcases q.disk.write (p.names path) (Utf8.encode content) with f | disk <;> rfl

theorem isDir_addDir (p : Project) (made path : String) :
    isDir { p with pendingDirs := addDir made p.pendingDirs } path = (path == made || p.isDir path) := by
  unfold isDir addDir
  dsimp only
  by_cases hmade : p.pendingDirs.contains made = true
  · rw [if_pos hmade]
    by_cases he : path = made
    · rw [he, hmade, beq_self_eq_true]
      rfl
    · rw [beq_eq_false_iff_ne.2 he, Bool.false_or]
  · rw [if_neg hmade]
    simp only [List.contains_append, List.contains_cons, List.contains_nil, Bool.or_false]
    rw [Bool.or_comm (p.pendingDirs.contains path), Bool.or_assoc]
    rfl

theorem isDir_of_no_dirs (h : p.pendingDirs = []) (path : String) :
    p.isDir path = p.disk.isDir (p.names path) := by
  unfold isDir
  rw [h]
  rfl

/-- A project and its rehearsal. On paths of names alone they show the same directories, and a pending file
stands where the project has it on its disk. -/
structure Rehearses (real dry : Project) : Prop where
  in_earnest : real.rehearsal = false
  no_files : real.pendingFiles = []
  no_dirs : real.pendingDirs = []
  rehearsal : dry.rehearsal = true
  root : dry.root = real.root
  upward : ".." ∉ real.root
  tree : real.disk.Tree
  manifest : dry.manifest = real.manifest
  dirs : ∀ path, Normal path → real.isDir path = dry.isDir path
  files : ∀ path, Normal path → real.disk.bytes? (real.names path) =
    ((dry.pendingFiles.lookup path).map Utf8.encode).or (dry.disk.bytes? (dry.names path))

namespace Rehearses

variable {real dry : Project} {directory name : String}

/-- What both read at a path, when what is pending there has no carriage returns. -/
theorem read (h : Rehearses real dry) (hp : Normal path)
    (hlf : ∀ text, dry.pendingFiles.lookup path = some text → '\r' ∉ text.toList) :
    dry.read path = real.read path := by
  unfold Project.read
  rw [h.no_files, h.files path hp, List.lookup_nil, Option.none_or]
  rcases hf : dry.pendingFiles.lookup path with _ | text
  · rfl
  · rw [Option.map_some, Option.some_or, Option.some_or, Option.map_some,
      Text.Utf8.readText_encode_of_lf (hlf text hf)]

theorem not_upward (h : Rehearses real dry) (hp : Normal path) : ".." ∉ real.names path := by
  unfold names
  rw [hp.below_eq, List.mem_append, not_or]
  exact ⟨h.upward, hp.upward⟩

theorem isDir_iff (h : Rehearses real dry) (hp : Normal path) :
    real.isDir path = true ↔ real.disk.entry? (real.names path) = some .directory := by
  rw [← h.tree.isDir_iff (h.not_upward hp), isDir_of_no_dirs h.no_dirs]

theorem names_inj {other : String} (hp : Normal path) (ho : Normal other)
    (he : real.names path = real.names other) : path = other := by
  unfold names at he
  rw [hp.below_eq, ho.below_eq, List.append_cancel_left_eq] at he
  exact hp.inj ho he

theorem names_join (hd : Normal directory) (hn : IsName name) (p : Project) :
    p.names (join directory name) = p.names directory ++ [name] := by
  unfold names
  rw [(hd.join hn).below_eq, hd.below_eq, hd.parts_join hn, List.append_assoc]

theorem isDir_parent (h : Rehearses real dry) (hp : Normal path) (hd : dry.isDir path = true) :
    dry.isDir (parent path) = true := by
  rw [← h.dirs _ hp.parent, h.isDir_iff hp.parent]
  rw [← h.dirs _ hp, h.isDir_iff hp] at hd
  unfold names at hd ⊢
  rw [hp.below_eq] at hd
  rw [hp.parent.below_eq, hp.parts_parent]
  rcases List.eq_nil_or_concat (parts path) with hnil | ⟨init, last, hparts⟩
  · rw [hnil] at hd ⊢
    exact hd
  · rw [hparts, List.concat_eq_append] at hd ⊢
    rw [← List.append_assoc] at hd
    rw [List.dropLast_concat]
    exact h.tree _ last (by rw [hd]; rfl)

section Below

variable (h : Rehearses real dry) (hd : Normal directory) (hdir : real.isDir directory = true)
  (hn : IsName name) (hfree : real.isDir (join directory name) = false) (entry : Entry)

include h hd hdir hn hfree

theorem tree_set : (real.disk.set (real.names (join directory name)) entry).Tree := by
  have hjoin := names_join hd hn real
  have hno : ¬ real.isDir (join directory name) = true := by rw [hfree]; decide
  rw [h.isDir_iff (hd.join hn), hjoin] at hno
  rw [hjoin]
  exact h.tree.set ((h.isDir_iff hd).1 hdir) hno

theorem look?_set (hp : Normal path) :
    (real.disk.set (real.names (join directory name)) entry).look? (real.names path) =
      if path = join directory name then some entry else real.disk.look? (real.names path) := by
  have htree := h.tree_set hd hdir hn hfree entry
  by_cases he : path = join directory name
  · rw [if_pos he, he]
    refine htree.look?_set_here (h.not_upward (hd.join hn)) ?_
    rw [names_join hd hn]
    simp
  · rw [if_neg he]
    exact h.tree.look?_set_elsewhere htree (h.not_upward hp)
      fun hsame => he (names_inj hp (hd.join hn) hsame)

theorem isDir_set (hp : Normal path) :
    (real.disk.set (real.names (join directory name)) entry).isDir (real.names path) =
      if path = join directory name then entry == .directory else real.disk.isDir (real.names path) := by
  unfold Disk.isDir
  rw [h.look?_set hd hdir hn hfree entry hp]
  by_cases he : path = join directory name
  · rw [if_pos he, if_pos he]
    rfl
  · rw [if_neg he, if_neg he]

theorem bytes?_set (hp : Normal path) :
    (real.disk.set (real.names (join directory name)) entry).bytes? (real.names path) =
      if path = join directory name then (match entry with | .file bytes => some bytes | _ => none)
      else real.disk.bytes? (real.names path) := by
  unfold Disk.bytes?
  rw [h.look?_set hd hdir hn hfree entry hp]
  by_cases he : path = join directory name
  · rw [if_pos he, if_pos he]
    cases entry <;> rfl
  · rw [if_neg he, if_neg he]

end Below

theorem makeDir_real (h : Rehearses real dry) (hd : Normal directory)
    (hdir : real.isDir directory = true) (hn : IsName name)
    (hfree : real.isDir (join directory name) = false) :
    (∃ f, (makeDir (join directory name) real).1 = .error f) ∨
      real.disk.entry? (real.names (join directory name)) = none ∧
        makeDir (join directory name) real = (.ok (), { real with
          disk := real.disk.set (real.names (join directory name)) .directory }) := by
  have hjoin := names_join hd hn real
  have hu := h.not_upward (hd.join hn)
  have hno : ¬ real.isDir (join directory name) = true := by rw [hfree]; decide
  rw [h.isDir_iff (hd.join hn)] at hno
  rw [makeDir_of_real h.in_earnest, makeDirs_apply]
  rw [hjoin] at hu hno ⊢
  rw [h.tree.makeDirs_below hu ((h.isDir_iff hd).1 hdir)]
  by_cases hnone : real.disk.entry? (real.names directory ++ [name]) = none
  · rw [if_pos hnone]
    exact .inr ⟨hnone, rfl⟩
  · rw [if_neg hnone, if_neg hno]
    exact .inl ⟨_, rfl⟩

/-- Making a directory, unless it fails, is rehearsed by making it. -/
theorem makeDir (h : Rehearses real dry) (hd : Normal directory)
    (hdir : real.isDir directory = true) (hn : IsName name)
    (hfree : real.isDir (join directory name) = false) :
    (∃ f, (Project.makeDir (join directory name) real).1 = .error f) ∨
      ∃ after, Project.makeDir (join directory name) real = (.ok (), after) ∧
        Rehearses after { dry with pendingDirs := addDir (join directory name) dry.pendingDirs } := by
  rcases h.makeDir_real hd hdir hn hfree with hfail | ⟨hnone, hmake⟩
  · exact .inl hfail
  refine .inr ⟨_, hmake, h.in_earnest, h.no_files, h.no_dirs, h.rehearsal, h.root, h.upward,
    h.tree_set hd hdir hn hfree _, h.manifest, fun path hp => ?_, fun path hp => ?_⟩
  · rw [isDir_addDir, ← h.dirs path hp, isDir_of_no_dirs h.no_dirs]
    refine ((isDir_of_no_dirs (by exact h.no_dirs) path).trans
      (h.isDir_set hd hdir hn hfree .directory hp)).trans ?_
    by_cases he : path = join directory name
    · rw [if_pos he, beq_iff_eq.2 he]
      rfl
    · rw [if_neg he, beq_eq_false_iff_ne.2 he, Bool.false_or]
  · refine ((h.bytes?_set hd hdir hn hfree .directory hp).trans ?_).trans (h.files path hp)
    by_cases he : path = join directory name
    · rw [if_pos he, he]
      unfold Disk.bytes?
      rw [h.tree.look?_eq (h.not_upward (hd.join hn)), hnone]
    · rw [if_neg he]

theorem write_real (h : Rehearses real dry) (hd : Normal directory)
    (hdir : real.isDir directory = true) (hn : IsName name) (content : String) :
    (∃ f, (write (join directory name) content real).1 = .error f) ∨
      real.isDir (join directory name) = false ∧
        write (join directory name) content real = (.ok (), { real.noted (join directory name) content with
          disk := real.disk.set (real.names (join directory name)) (.file (Utf8.encode content)) }) := by
  have hjoin := names_join hd hn real
  have hu := h.not_upward (hd.join hn)
  have hentry := (h.isDir_iff hd).1 hdir
  have hiff := h.isDir_iff (hd.join hn)
  have hmake : real.disk.makeDirs (real.names directory) = (.ok (), real.disk) :=
    h.tree.makeDirs_of_isDir (h.not_upward hd) hentry
  rw [write_of_real h.in_earnest, makeDirs_apply]
  rw [hjoin] at hu hiff ⊢
  rw [List.dropLast_concat, show (real.noted _ _).disk.makeDirs _ = _ from hmake]
  dsimp only
  rw [h.tree.write_below hu hentry]
  by_cases hdirectory : real.disk.entry? (real.names directory ++ [name]) = some .directory
  · rw [if_pos hdirectory]
    exact .inl ⟨_, rfl⟩
  · rw [if_neg hdirectory]
    exact .inr ⟨Bool.eq_false_iff.2 (mt hiff.1 hdirectory), rfl⟩

/-- Writing a file, unless it fails, is rehearsed by keeping its content. -/
theorem write (h : Rehearses real dry) (hd : Normal directory)
    (hdir : real.isDir directory = true) (hn : IsName name) (content : String) :
    (∃ f, (Project.write (join directory name) content real).1 = .error f) ∨
      ∃ after, Project.write (join directory name) content real = (.ok (), after) ∧
        Rehearses after { dry.noted (join directory name) content with
          pendingFiles := Entries.put (join directory name) content dry.pendingFiles } := by
  rcases h.write_real hd hdir hn content with hfail | ⟨hfree, hwrite⟩
  · exact .inl hfail
  refine .inr ⟨_, hwrite, h.in_earnest, h.no_files, h.no_dirs, h.rehearsal, h.root, h.upward,
    h.tree_set hd hdir hn hfree _, ?_, fun path hp => ?_, fun path hp => ?_⟩
  · change Entries.put _ _ dry.manifest = Entries.put _ _ real.manifest
    rw [h.manifest]
  · -- Directories: the written path is one in neither store.
    refine Eq.trans ?_ (h.dirs path hp)
    rw [isDir_of_no_dirs h.no_dirs]
    refine ((isDir_of_no_dirs (by exact h.no_dirs) path).trans
      (h.isDir_set hd hdir hn hfree _ hp)).trans ?_
    by_cases he : path = join directory name
    · rw [if_pos he, he, ← isDir_of_no_dirs h.no_dirs, hfree]
      rfl
    · rw [if_neg he]
  · -- Files: the written path reads as the pending text, every other path as before.
    refine (h.bytes?_set hd hdir hn hfree _ hp).trans ?_
    dsimp only
    by_cases he : path = join directory name
    · rw [if_pos he, he, Entries.lookup_put_self]
      rfl
    · rw [if_neg he, Entries.lookup_put_ne he]
      exact h.files path hp

end Rehearses

end Project

end Scaffold.Store
