import Scaffold.Proofs.Store.Above
import Scaffold.Proofs.Store.Recorded

/-! The directories of a memory while files and directories are asked for. The way up from a path comes to an end if
no slash stands in front of it. Then every request ends, whether it is refused or not, each file and each directory
stands in a directory that is known, and what is known stays known. -/

namespace Scaffold.Store

open Scaffold.Text

variable {path directory name content reason : String} {dirs known : List String} {files : List (String × String)}
  {m n o : Memory} {r : Refusals} {x : Except Failure Unit} {q : Request} {answer : Except Failure Reply}

section Climb

/-- The directories above a path become known, from the nearest one on. Nothing says that there is a last one. -/
inductive Climb : String → List String → List String → Prop where
  | top {path : String} {dirs : List String} (h : parent path = "") : Climb path dirs dirs
  | up {path : String} {dirs known : List String} (h : parent path ≠ "")
      (rest : Climb (parent path) (addDir (parent path) dirs) known) : Climb path dirs known

theorem relative_parent (h : startsWith path "/" = false) : startsWith (parent path) "/" = false ∧
    (parent path = "" ∨ (parent path).length < path.length) := by
  by_cases hslash : '/' ∈ path.toList
  · obtain ⟨before, name, hpath, -, hparent⟩ := exists_above h hslash
    have hbefore : (parent path).toList <+: before := by
      rw [hparent]
      exact List.rdropWhile_prefix _ _
    have hprefix : (parent path).toList <+: path.toList := by
      rw [hpath]
      exact hbefore.trans (List.prefix_append _ _)
    have hlength := hbefore.length_le
    constructor
    · rw [← Bool.not_eq_true, startsWith_slash] at h ⊢
      exact fun hstart => h <| head?_of_prefix hprefix hstart
    · right
      rw [← String.length_toList, ← String.length_toList, hpath, List.length_append, List.length_cons]
      omega
  · rw [parent_of_not_mem hslash]
    exact ⟨rfl, .inl rfl⟩

theorem absolute_parent (h : startsWith path "/" = true) : startsWith (parent path) "/" = true := by
  rw [startsWith_slash] at h ⊢
  obtain ⟨before, name, hpath, hname⟩ := exists_last_name (List.mem_of_head? h)
  have hfront : (parent path).toList ≠ [] ∧ (parent path).toList <+: path.toList := by
    cases hb : before.all (· == '/') with
    | true =>
      rw [toList_parent_of_slashes hpath hname hb, hpath]
      exact ⟨by simp, name, by simp⟩
    | false =>
      rw [toList_parent hpath hname hb, hpath]
      refine ⟨fun hnil => ?_, (List.rdropWhile_prefix _ _).trans (List.prefix_append _ _)⟩
      rw [List.all_eq_true.2 (List.rdropWhile_eq_nil_iff.1 hnil)] at hb
      exact nomatch hb
  obtain ⟨hne, rest, hrest⟩ := hfront
  rwa [← hrest, List.head?_append_of_ne_nil _ hne] at h

theorem parentsFrom_of_top (h : parent path = "") (i : Nat) : parentsFrom i path = [] := by
  cases i with
  | zero => rfl
  | succ i => rw [parentsFrom, h]; rfl

/-- On a relative path the steps that are left over make no difference. -/
theorem parentsFrom_of_le {i j : Nat} (h : startsWith path "/" = false) (hi : path.length ≤ i)
    (hj : path.length ≤ j) : parentsFrom i path = parentsFrom j path := by
  induction i generalizing j path with
  | zero =>
    have hempty : path = "" := String.length_eq_zero_iff.1 (Nat.le_zero.1 hi)
    have htop : parent path = "" := by rw [hempty]; rfl
    rw [parentsFrom_of_top htop, parentsFrom_of_top htop]
  | succ i ih =>
    by_cases htop : parent path = ""
    · rw [parentsFrom_of_top htop, parentsFrom_of_top htop]
    · obtain ⟨hrelative, hshort⟩ := relative_parent h
      have hlt := hshort.resolve_left htop
      obtain ⟨j, rfl⟩ : ∃ k, j = k + 1 := Nat.exists_eq_add_one.2 (by omega)
      rw [parentsFrom_succ htop, parentsFrom_succ htop, ih (j := j) hrelative (by omega) (by omega)]

theorem parents_of_top (h : parent path = "") : parents path = [] := parentsFrom_of_top h path.length

theorem parents_up (h : startsWith path "/" = false) (hup : parent path ≠ "") :
    parents path = parent path :: parents (parent path) := by
  obtain ⟨hrelative, hshort⟩ := relative_parent h
  have hlt := hshort.resolve_left hup
  obtain ⟨k, hk⟩ : ∃ k, path.length = k + 1 := Nat.exists_eq_add_one.2 (by omega)
  unfold parents
  rw [hk, parentsFrom_succ hup, parentsFrom_of_le hrelative (by omega) (Nat.le_refl _)]

theorem relative_of_climb (h : Climb path dirs known) : startsWith path "/" = false := by
  induction h with
  | top htop =>
    refine Bool.eq_false_iff.2 fun habsolute => ?_
    have hslash := absolute_parent habsolute
    rw [htop] at hslash
    exact absurd hslash (by decide)
  | up _ _ ih =>
    refine Bool.eq_false_iff.2 fun habsolute => ?_
    rw [absolute_parent habsolute] at ih
    exact nomatch ih

/-- The way up ends exactly for relative paths, and then all directories above are known. -/
theorem climb_iff : Climb path dirs known ↔
    startsWith path "/" = false ∧ known = (parents path).foldl (fun ds d => addDir d ds) dirs := by
  constructor
  · intro h
    refine ⟨relative_of_climb h, ?_⟩
    induction h with
    | top htop => rw [parents_of_top htop]; rfl
    | up hup hrest ih =>
      rw [parents_up (relative_of_climb (.up hup hrest)) hup]
      exact ih
  · rintro ⟨h, rfl⟩
    -- The directory above is shorter.
    induction hlength : path.length using Nat.strong_induction_on generalizing path dirs with
    | _ length ih =>
      by_cases htop : parent path = ""
      · rw [parents_of_top htop]
        exact .top htop
      · obtain ⟨hrelative, hshort⟩ := relative_parent h
        rw [parents_up h htop]
        exact .up htop (ih _ (hlength ▸ hshort.resolve_left htop) hrelative rfl)

/-- Files become known one after the other, each with the directories above it. -/
inductive Opens : List (String × String) → List String → List String → Prop where
  | done {dirs : List String} : Opens [] dirs dirs
  | file {path content : String} {files : List (String × String)} {dirs above known : List String}
      (first : Climb path dirs above) (rest : Opens files above known) : Opens ((path, content) :: files) dirs known

theorem opens_iff {m : Memory} : Opens files m.dirs known ↔ (∀ file ∈ files, startsWith file.1 "/" = false) ∧
    known = (files.foldl (fun m (path, _) => m.addParents path) m).dirs := by
  induction files generalizing m with
  | nil =>
    constructor
    · rintro ⟨⟩
      exact ⟨by simp, rfl⟩
    · rintro ⟨-, rfl⟩
      exact .done
  | cons file files ih =>
    obtain ⟨path, content⟩ := file
    rw [List.forall_mem_cons]
    constructor
    · rintro (_ | ⟨first, rest⟩)
      obtain ⟨hrelative, rfl⟩ := climb_iff.1 first
      obtain ⟨hfiles, hknown⟩ := (ih (m := m.addParents path)).1 rest
      exact ⟨⟨hrelative, hfiles⟩, hknown⟩
    · rintro ⟨⟨hrelative, hfiles⟩, hknown⟩
      exact .file (climb_iff.2 ⟨hrelative, rfl⟩) ((ih (m := m.addParents path)).2 ⟨hfiles, hknown⟩)

end Climb

section Requests

/-- What comes of making sure that a directory is known. -/
inductive Prepares (r : Refusals) (path : String) (m : Memory) : Except Failure Unit → Memory → Prop where
  | there (h : m.isDir path = true) : Prepares r path m (.ok ()) m
  | refused {reason : String} (h : m.isDir path = false) (hr : r.makeDir path = some reason) :
      Prepares r path m (.error (.refused reason)) m
  | made {known : List String} (h : m.isDir path = false) (hr : r.makeDir path = none)
      (climb : Climb path (addDir path m.dirs) known) : Prepares r path m (.ok ()) { m with dirs := known }

/-- What comes of writing a file. -/
inductive Writes (r : Refusals) (path content : String) (m : Memory) : Except Failure Unit → Memory → Prop where
  | refused {reason : String} (hr : r.write path = some reason) :
      Writes r path content m (.error (.refused reason)) m
  | written {known : List String} (hr : r.write path = none) (climb : Climb path m.dirs known) :
      Writes r path content m (.ok ()) ⟨Entries.put path content m.files, known⟩

/-- What comes of a request, told by its steps. -/
inductive Ends (r : Refusals) (m : Memory) : Request → Except Failure Reply → Memory → Prop where
  | subdir {directory name : String} {x : Except Failure Unit} {n : Memory} (h : Prepares r (join directory name) m x n) :
      Ends r m (.subdir directory name) (x.map fun _ => .directory (join directory name)) n
  | kept {directory name content held : String} (h : m.read (join directory name) = some held) :
      Ends r m (.file directory name content) (.ok (.placed ⟨join directory name, held, false⟩)) m
  | homeless {directory name content : String} {f : Failure} {n : Memory} (h : m.read (join directory name) = none)
      (hd : Prepares r directory m (.error f) n) : Ends r m (.file directory name content) (.error f) n
  | placed {directory name content : String} {x : Except Failure Unit} {n o : Memory}
      (h : m.read (join directory name) = none) (hd : Prepares r directory m (.ok ()) n)
      (hw : Writes r (join directory name) (normalize content) n x o) :
      Ends r m (.file directory name content)
        (x.map fun _ => .placed ⟨join directory name, normalize content, true⟩) o

theorem prepare_known (h : m.isDir path = true) : (Memory.store.refusing r).prepare path m = (.ok (), m) := by
  rw [prepare_apply]
  exact if_pos (.inr h)

theorem prepare_unknown (h : m.isDir path = false) :
    (Memory.store.refusing r).prepare path m = (Memory.store.refusing r).makeDir path m := by
  rw [prepare_apply]
  refine if_neg fun hthere => ?_
  have hdir : m.isDir path = true := hthere.elim (fun hpath => hpath ▸ Memory.isDir_empty m) id
  rw [h] at hdir
  exact nomatch hdir

theorem makeDir_refused (h : r.makeDir path = some reason) :
    (Memory.store.refusing r).makeDir path m = (.error (.refused reason), m) := by
  unfold refusing
  dsimp only
  rw [h]
  rfl

theorem makeDir_allowed (h : r.makeDir path = none) :
    (Memory.store.refusing r).makeDir path m = (.ok (), m.makeDir path) := by
  unfold refusing
  dsimp only
  rw [h]
  rfl

theorem write_refused (h : r.write path = some reason) :
    (Memory.store.refusing r).write path content m = (.error (.refused reason), m) := by
  unfold refusing
  dsimp only
  rw [h]
  rfl

theorem write_allowed (h : r.write path = none) :
    (Memory.store.refusing r).write path content m = (.ok (), m.write path content) := by
  unfold refusing
  dsimp only
  rw [h]
  rfl

theorem prepares_iff (hp : startsWith path "/" = false) :
    Prepares r path m x n ↔ (Memory.store.refusing r).prepare path m = (x, n) := by
  constructor
  · rintro (h | ⟨h, hr⟩ | ⟨h, hr, climb⟩)
    · exact prepare_known h
    · rw [prepare_unknown h, makeDir_refused hr]
    · rw [prepare_unknown h, makeDir_allowed hr, (climb_iff.1 climb).2]
      rfl
  · -- Conversely by what the request meets: a directory, a refusal, or a free place.
    intro heq
    cases h : m.isDir path with
    | true =>
      rw [prepare_known h] at heq
      cases heq
      exact .there h
    | false =>
      rw [prepare_unknown h] at heq
      cases hr : r.makeDir path with
      | some reason =>
        rw [makeDir_refused hr] at heq
        cases heq
        exact .refused h hr
      | none =>
        rw [makeDir_allowed hr] at heq
        cases heq
        exact .made h hr (climb_iff.2 ⟨hp, rfl⟩)

theorem writes_iff (hp : startsWith path "/" = false) :
    Writes r path content m x n ↔ (Memory.store.refusing r).write path content m = (x, n) := by
  constructor
  · rintro (hr | ⟨hr, climb⟩)
    · exact write_refused hr
    · rw [write_allowed hr, (climb_iff.1 climb).2]
      rfl
  · intro heq
    cases hr : r.write path with
    | some reason =>
      rw [write_refused hr] at heq
      cases heq
      exact .refused hr
    | none =>
      rw [write_allowed hr] at heq
      cases heq
      exact .written hr (climb_iff.2 ⟨hp, rfl⟩)

namespace Request

def performOn {σ : Type} (s : Store σ) : Request → Effect σ Reply
  | file directory name content => return .placed (← s.createFile directory name content)
  | subdir directory name => return .directory (← s.subdir directory name)

/-- The path that is asked for. -/
def target : Request → String
  | file directory name _ => join directory name
  | subdir directory name => join directory name

theorem performOn_subdir (h : (Memory.store.refusing r).prepare (join directory name) m = (x, n)) :
    (subdir directory name).performOn (Memory.store.refusing r) m =
      (x.map fun _ => .directory (join directory name), n) := by
  rw [performOn, Effect.bind_apply, subdir_apply]
  cases hdir : m.isDir (join directory name) with
  | true =>
    have hthere : (Memory.store.refusing r).isDir m (join directory name) = true := hdir
    rw [prepare_known hdir] at h
    cases h
    rw [if_pos hthere]
    rfl
  | false =>
    have hmissing : ¬ (Memory.store.refusing r).isDir m (join directory name) = true := Bool.eq_false_iff.1 hdir
    rw [prepare_unknown hdir] at h
    rw [if_neg hmissing, h]
    cases x <;> rfl

theorem performOn_kept {held : String} (h : m.read (join directory name) = some held) :
    (file directory name content).performOn (Memory.store.refusing r) m =
      (.ok (.placed ⟨join directory name, held, false⟩), m) := by
  rw [performOn, Effect.bind_apply, createFile_of_read h]
  rfl

theorem performOn_homeless {f : Failure} (h : m.read (join directory name) = none)
    (hd : (Memory.store.refusing r).prepare directory m = (.error f, n)) :
    (file directory name content).performOn (Memory.store.refusing r) m = (.error f, n) := by
  rw [performOn, Effect.bind_apply, createFile_of_absent h, hd]

theorem performOn_placed (h : m.read (join directory name) = none)
    (hd : (Memory.store.refusing r).prepare directory m = (.ok (), n))
    (hw : (Memory.store.refusing r).write (join directory name) (normalize content) n = (x, o)) :
    (file directory name content).performOn (Memory.store.refusing r) m =
      (x.map fun _ => .placed ⟨join directory name, normalize content, true⟩, o) := by
  rw [performOn, Effect.bind_apply, createFile_of_absent h, hd]
  dsimp only
  rw [hw]
  cases x <;> rfl

end Request

theorem relative_of_join (h : startsWith (join directory name) "/" = false) : startsWith directory "/" = false := by
  refine Bool.eq_false_iff.2 fun hd => Bool.eq_false_iff.1 h ?_
  rw [startsWith_iff] at hd ⊢
  unfold join
  split
  · next hname =>
    rcases Bool.or_eq_true_iff.1 hname with hempty | hname
    · rw [String.isEmpty_iff.1 hempty] at hd
      exact absurd hd (by decide)
    · exact startsWith_iff.1 hname
  · split
    · rw [String.toList_append]
      exact hd.trans (List.prefix_append _ _)
    · rw [String.toList_append, String.toList_append, List.append_assoc]
      exact hd.trans (List.prefix_append _ _)

/-- A request for a relative path comes to one end, whatever is refused to it. -/
theorem ends_iff (hq : startsWith q.target "/" = false) :
    Ends r m q answer n ↔ q.performOn (Memory.store.refusing r) m = (answer, n) := by
  constructor
  · rintro (h | h | ⟨h, hd⟩ | ⟨h, hd, hw⟩)
    · rw [Request.performOn_subdir ((prepares_iff hq).1 h)]
    · exact Request.performOn_kept h
    · exact Request.performOn_homeless h ((prepares_iff (relative_of_join hq)).1 hd)
    · exact Request.performOn_placed h ((prepares_iff (relative_of_join hq)).1 hd) ((writes_iff hq).1 hw)
  · -- Back from the function: each place where it can stop is one of the steps of the relation.
    intro heq
    cases q with
    | subdir directory name =>
      rcases hprepared : (Memory.store.refusing r).prepare (join directory name) m with ⟨x, k⟩
      rw [Request.performOn_subdir hprepared] at heq
      cases heq
      exact .subdir ((prepares_iff hq).2 hprepared)
    | file directory name content =>
      cases hread : m.read (join directory name) with
      | some held =>
        rw [Request.performOn_kept hread] at heq
        cases heq
        exact .kept hread
      | none =>
        rcases hprepared : (Memory.store.refusing r).prepare directory m with ⟨f | _, k⟩
        · rw [Request.performOn_homeless hread hprepared] at heq
          cases heq
          exact .homeless hread ((prepares_iff (relative_of_join hq)).2 hprepared)
        · rcases hwritten : (Memory.store.refusing r).write (join directory name) (normalize content) k with ⟨x, l⟩
          rw [Request.performOn_placed hread hprepared hwritten] at heq
          cases heq
          exact .placed hread ((prepares_iff (relative_of_join hq)).2 hprepared) ((writes_iff hq).2 hwritten)

end Requests

namespace Memory

/-- Each file and each directory stands at the top or in a directory that is known. -/
structure Supported (m : Memory) : Prop where
  files : ∀ path ∈ m.files.map Prod.fst, parent path = "" ∨ parent path ∈ m.dirs
  dirs : ∀ d ∈ m.dirs, parent d = "" ∨ parent d ∈ m.dirs

theorem supported_iff : m.Supported ↔ (∀ path ∈ m.files.map Prod.fst, m.isDir (parent path) = true) ∧ m.Closed := by
  constructor
  · intro h
    refine ⟨fun path hpath => isDir_iff.2 (h.files path hpath), fun d hd => ?_⟩
    rcases isDir_iff.1 hd with rfl | hmem
    · exact isDir_empty m
    · exact isDir_iff.2 (h.dirs d hmem)
  · rintro ⟨hfiles, hclosed⟩
    have hdirs : ∀ d ∈ m.dirs, m.isDir (parent d) = true := fun d hd => hclosed d (isDir_iff.2 (.inr hd))
    exact ⟨fun path hpath => isDir_iff.1 (hfiles path hpath), fun d hd => isDir_iff.1 (hdirs d hd)⟩

/-- What a request does to a memory, at the most. -/
structure Grows (m n : Memory) : Prop where
  supported : m.Supported → n.Supported
  known : ∀ d, m.isDir d = true → n.isDir d = true

theorem Grows.refl (m : Memory) : m.Grows m := ⟨id, fun _ => id⟩

theorem Grows.trans (h : m.Grows n) (h' : n.Grows o) : m.Grows o :=
  ⟨fun hm => h'.supported (h.supported hm), fun d hd => h'.known d (h.known d hd)⟩

theorem grows_makeDir (m : Memory) (path : String) : m.Grows (m.makeDir path) := by
  have hknown : ∀ d, m.isDir d = true → (m.makeDir path).isDir d = true :=
    fun _ hd => isDir_makeDir.2 (.inr (.inr hd))
  refine ⟨fun h => ?_, hknown⟩
  obtain ⟨hfiles, hclosed⟩ := supported_iff.1 h
  exact supported_iff.2 ⟨fun file hfile => hknown _ (hfiles file hfile), hclosed.makeDir path⟩

theorem grows_write (m : Memory) (path content : String) : m.Grows (m.write path content) := by
  have hknown : ∀ d, m.isDir d = true → (m.write path content).isDir d = true := fun _ hd => isDir_write.2 (.inr hd)
  refine ⟨fun h => ?_, hknown⟩
  obtain ⟨hfiles, hclosed⟩ := supported_iff.1 h
  refine supported_iff.2 ⟨fun file hfile => ?_, hclosed.write path content⟩
  rcases Entries.mem_keys_put.1 hfile with rfl | hold
  · rcases parent_mem_parents file with htop | hmem
    · rw [htop]
      exact isDir_empty _
    · exact isDir_write.2 (.inl hmem)
  · exact hknown _ (hfiles file hold)

theorem ofFiles_files (files : List (String × String)) : (ofFiles files).files = files := by
  have hadd : ∀ (rest : List (String × String)) (m : Memory),
      (rest.foldl (fun m file => m.addParents file.1) m).files = m.files := by
    intro rest
    induction rest with
    | nil => exact fun _ => rfl
    | cons file rest ih => exact fun m => ih (m.addParents file.1)
  exact hadd files { files }

theorem isDir_ofFiles {d : String} : (ofFiles files).isDir d = true ↔ d = "" ∨ ∃ file ∈ files, d ∈ parents file.1 := by
  have hadd : ∀ (rest : List (String × String)) (m : Memory),
      (rest.foldl (fun m file => m.addParents file.1) m).isDir d = true ↔
        m.isDir d = true ∨ ∃ file ∈ rest, d ∈ parents file.1 := by
    intro rest
    induction rest with
    | nil => simp
    | cons file rest ih =>
      intro m
      rw [List.foldl_cons, ih, isDir_addParents, List.exists_mem_cons_iff, or_comm (a := d ∈ parents file.1), or_assoc]
  refine (hadd files { files }).trans ?_
  rw [isDir_iff]
  simp

theorem supported_ofFiles (files : List (String × String)) : (ofFiles files).Supported := by
  refine supported_iff.2 ⟨fun path hpath => ?_, closed_ofFiles files⟩
  rw [ofFiles_files] at hpath
  obtain ⟨file, hfile, rfl⟩ := List.mem_map.1 hpath
  exact isDir_ofFiles.2 ((parent_mem_parents file.1).imp_right fun hmem => ⟨file, hfile, hmem⟩)

theorem makeDir_grows (r : Refusals) (path : String) : Effect.Keeps Grows ((store.refusing r).makeDir path) := by
  intro m
  cases hr : r.makeDir path with
  | some reason =>
    rw [makeDir_refused hr]
    exact .refl m
  | none =>
    rw [makeDir_allowed hr]
    exact grows_makeDir m path

theorem write_grows (r : Refusals) (path content : String) :
    Effect.Keeps Grows ((store.refusing r).write path content) := by
  intro m
  cases hr : r.write path with
  | some reason =>
    rw [write_refused hr]
    exact .refl m
  | none =>
    rw [write_allowed hr]
    exact grows_write m path content

theorem prepare_grows (r : Refusals) (path : String) : Effect.Keeps Grows ((store.refusing r).prepare path) := by
  intro m
  cases hdir : m.isDir path with
  | true =>
    rw [prepare_known hdir]
    exact .refl m
  | false =>
    rw [prepare_unknown hdir]
    exact makeDir_grows r path m

theorem performOn_grows (r : Refusals) (q : Request) : Effect.Keeps Grows (q.performOn (store.refusing r)) := by
  cases q with
  | file directory name content =>
    have hfile := createFile_keeps Grows.refl Grows.trans (makeDir_grows r) (write_grows r) directory name content
    exact hfile.bind Grows.trans fun _ m => .refl m
  | subdir directory name =>
    intro m
    have hgrows := prepare_grows r (join directory name) m
    rcases hprepared : (store.refusing r).prepare (join directory name) m with ⟨x, n⟩
    rw [hprepared] at hgrows
    rw [Request.performOn_subdir hprepared]
    exact hgrows

end Memory

/-- A request to a memory, and what is refused to it. -/
structure Attempt where
  request : Request
  refusals : Refusals := {}

namespace Attempt

def perform (a : Attempt) : Effect Memory Reply := a.request.performOn (Memory.store.refusing a.refusals)

/-- The memory after attempts, the failed ones included. -/
def performAll (attempts : List Attempt) (m : Memory) : Memory := attempts.foldl (fun m a => (a.perform m).2) m

theorem performAll_grows (attempts : List Attempt) (m : Memory) : m.Grows (performAll attempts m) := by
  induction attempts generalizing m with
  | nil => exact .refl m
  | cons a rest ih =>
    have hstep : m.Grows (a.perform m).2 := Memory.performOn_grows a.refusals a.request m
    exact hstep.trans (ih (a.perform m).2)

/-- A directory that is asked for is known afterwards, or nothing has changed. -/
theorem subdir_answer {a : Attempt} (ha : a.request = .subdir directory name) (m : Memory) :
    ((a.perform m).1 = .ok (.directory (join directory name)) ∧ (a.perform m).2.isDir (join directory name) = true) ∨
      ∃ reason, m.isDir (join directory name) = false ∧ a.refusals.makeDir (join directory name) = some reason ∧
        a.perform m = (.error (.refused reason), m) := by
  unfold perform
  rw [ha]
  cases hdir : m.isDir (join directory name) with
  | true =>
    rw [Request.performOn_subdir (prepare_known hdir)]
    exact .inl ⟨rfl, hdir⟩
  | false =>
    cases hr : a.refusals.makeDir (join directory name) with
    | some reason =>
      rw [Request.performOn_subdir ((prepare_unknown hdir).trans (makeDir_refused hr))]
      exact .inr ⟨reason, rfl, rfl, rfl⟩
    | none =>
      rw [Request.performOn_subdir ((prepare_unknown hdir).trans (makeDir_allowed hr))]
      exact .inl ⟨rfl, Memory.isDir_makeDir.2 (.inl rfl)⟩

/-- In a memory that was made from files, and asked for files and directories at relative paths, every request ends in
one way, all that there is stands in known directories, and what is known stays known. A directory that was given
is one from then on and is found under each of its names. -/
theorem directories_closed_under_parents (files : List (String × String)) {front back : List Attempt} {a : Attempt}
    (h : ∀ b ∈ front ++ a :: back, startsWith b.request.target "/" = false) :
    let m := performAll front (Memory.ofFiles files)
    let n := performAll back (a.perform m).2
    (∀ known, Opens files [] known ↔
        (∀ file ∈ files, startsWith file.1 "/" = false) ∧ known = (Memory.ofFiles files).dirs) ∧
      (∀ answer o, Ends a.refusals m a.request answer o ↔ a.perform m = (answer, o)) ∧
      m.Supported ∧ n.Supported ∧ (∀ d, m.isDir d = true → n.isDir d = true) ∧
      ∀ directory name, a.request = .subdir directory name →
        ((a.perform m).1 = .ok (.directory (join directory name)) ∧ n.isDir (join directory name) = true ∧
            ∀ above last, join above last = join directory name →
              Memory.store.findSubdir? n above last = some (join directory name)) ∨
          ∃ reason, m.isDir (join directory name) = false ∧ a.refusals.makeDir (join directory name) = some reason ∧
            a.perform m = (.error (.refused reason), m) := by
  intro m n
  have hfront := performAll_grows front (Memory.ofFiles files)
  have hstep : m.Grows (a.perform m).2 := Memory.performOn_grows a.refusals a.request m
  have hback := performAll_grows back (a.perform m).2
  have hm : m.Supported := hfront.supported (Memory.supported_ofFiles files)
  have hn : m.Grows n := hstep.trans hback
  refine ⟨fun known => opens_iff (m := { files }), fun answer o => ends_iff (h a (by simp)), hm, hn.supported hm,
    hn.known, fun directory name ha => ?_⟩
  rcases subdir_answer ha m with ⟨hanswer, hdir⟩ | hrefused
  · have hkept : n.isDir (join directory name) = true := hback.known _ hdir
    refine .inl ⟨hanswer, hkept, fun above last hjoin => ?_⟩
    unfold findSubdir?
    rw [hjoin]
    exact if_pos hkept
  · exact .inr hrefused

section Sample

/-- The file is refused when its directory has been made. -/
def refusedFile : Attempt := ⟨.file "a/b" "C.java" "", { write := fun _ => some "disk full" }⟩

def askedDirectory : Attempt := ⟨.subdir "src" "y", {}⟩

def refusedDirectory : Attempt := ⟨.subdir "q" "z", { makeDir := fun _ => some "read-only" }⟩

theorem directories_closed_under_parents_sample :
    (∀ b ∈ [refusedFile] ++ askedDirectory :: [refusedDirectory], startsWith b.request.target "/" = false) ∧
      let m := performAll [refusedFile] (Memory.ofFiles [("src/x/A.java", "class A { }")])
      let n := performAll [refusedDirectory] (askedDirectory.perform m).2
      n.Supported ∧ n.dirs = ["src/x", "src", "a/b", "a", "src/y"] ∧
        Memory.store.findSubdir? n "src" "y" = some "src/y" := by
  have hrelative : ∀ b ∈ [refusedFile] ++ askedDirectory :: [refusedDirectory],
      startsWith b.request.target "/" = false := by
    decide
  obtain ⟨-, -, -, hsupported, -, hgiven⟩ :=
    directories_closed_under_parents [("src/x/A.java", "class A { }")] hrelative
  refine ⟨hrelative, hsupported, by decide +kernel, ?_⟩
  rcases hgiven "src" "y" rfl with ⟨-, -, hfound⟩ | ⟨reason, -, hreason, -⟩
  · exact hfound "src" "y" rfl
  · exact nomatch hreason

end Sample

end Attempt

end Scaffold.Store
