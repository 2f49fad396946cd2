import Scaffold.Proofs.Artifact.Characters
import Scaffold.Proofs.Run.Journal
import Scaffold.Proofs.Store.Overlay

/-! Rehearsals: a run on a project that only keeps in memory what it would write ends like the run in
earnest, as long as the disk goes along with that one. -/

namespace Scaffold

namespace Run

open Store (Project Disk Location Manifest Normal IsName)

/-- A directory that is there, by a path of names alone without carriage returns. -/
structure Grounded (p : Project) (path : String) : Prop where
  normal : Normal path
  no_return : '\r' ∉ path.toList
  isDir : p.isDir path = true

theorem directoryNames_facts : ∀ name ∈ directoryNames,
    name ≠ "" ∧ name ≠ "." ∧ name ≠ ".." ∧ '/' ∉ name.toList ∧ '\r' ∉ name.toList := by
  decide +kernel

theorem isName_directory {name : String} (h : name ∈ directoryNames) : IsName name := by
  obtain ⟨hempty, hdot, hdots, hslash, -⟩ := directoryNames_facts name h
  exact ⟨hempty, hdot, hdots, hslash⟩

namespace Grounded

variable {p q : Project} {path name : String}

theorem grow (h : Grounded p path) (hq : ∀ other, p.isDir other = true → q.isDir other = true) :
    Grounded q path := ⟨h.normal, h.no_return, hq path h.isDir⟩

theorem join (h : Grounded p path) (hn : name ∈ directoryNames)
    (hd : p.isDir (Store.join path name) = true) : Grounded p (Store.join path name) := by
  obtain ⟨-, -, -, -, hreturn⟩ := directoryNames_facts name hn
  refine ⟨h.normal.join (isName_directory hn), fun hmem => ?_, hd⟩
  rcases Store.mem_of_mem_join hmem with hmem | hmem | hmem
  · exact h.no_return hmem
  · exact absurd hmem (by decide)
  · exact hreturn hmem

theorem parent {real : Project} (h : Grounded p path) (hr : Project.Rehearses real p) :
    Grounded p (Store.parent path) :=
  ⟨h.normal.parent, fun hmem => h.no_return (Store.mem_of_mem_parent hmem),
    hr.isDir_parent h.normal h.isDir⟩

end Grounded

/-- Whatever is pending was written for an artifact of the run. -/
def Accounted (e : Entity) (ps : List Product) (dry : Project) : Prop :=
  ∀ path text, dry.pendingFiles.lookup path = some text → ∃ a ∈ ps, ∃ directory, Normal directory ∧
    ∃ stem ∈ a.kind.stems e.baseName, path = Store.join directory (stem ++ a.kind.extension) ∧
      (a.kind.shared = true → '\r' ∉ text.toList)

/-- A project and its rehearsal in the middle of a run. -/
structure Rehearsed (l : Layout) (e : Entity) (d : Disk) (real : Project) (ps : List Product)
    (dry : Project) : Prop where
  rehearses : Project.Rehearses real dry
  disk : dry.disk = d
  roots : ∀ path ∈ [l.javaRoot, l.resourcesRoot, l.projectRoot], Grounded dry path
  accounted : Accounted e ps dry

variable {l : Layout} {e : Entity} {d : Disk} {real dry : Project} {ps : List Product}

theorem Accounted.append (h : Accounted e ps dry) (qs : List Product) : Accounted e (ps ++ qs) dry := by
  intro path text hpath
  obtain ⟨a, ha, hrest⟩ := h path text hpath
  exact ⟨a, List.mem_append_left qs ha, hrest⟩

/-- What is pending where an artifact is to go is a shared type, which has no carriage returns. -/
theorem Accounted.no_return (h : Accounted e ps dry) (he : '/' ∉ e.name.toList) {t : Template}
    {directory text : String} (hd : Normal directory) (ht : Artifact.Belongs l e t directory)
    (hr : ∀ a ∈ ps, a.kind.rank < t.kind.rank)
    (hp : dry.pendingFiles.lookup (Store.join directory t.fileName) = some text) : '\r' ∉ text.toList := by
  have hbase : '/' ∉ e.baseName.toList := fun hmem => he (Name.mem_of_mem_base hmem)
  obtain ⟨other, hother, hfile, -⟩ := ht.file
  obtain ⟨a, ha, directory', hd', stem, hstem, hpath, htext⟩ := h _ text hp
  have hname := ArtifactKind.isName_file hother hbase
  rw [hfile] at hpath
  have hparts := congrArg Store.parts hpath
  rw [hd.parts_join hname, hd'.parts_join (ArtifactKind.isName_file hstem hbase)] at hparts
  have hsame := List.singleton_inj.1 (List.append_inj_right' hparts rfl)
  exact htext (ArtifactKind.shared_of_file_eq hstem hother (hr a ha) hsame.symm)

theorem Accounted.write (h : Accounted e ps dry) {t : Template} {directory : String}
    (hd : Normal directory) (hreturn : '\r' ∉ directory.toList) (ht : Artifact.Belongs l e t directory)
    {after : Project}
    (hafter : after.pendingFiles =
      Entries.put (Store.join directory t.fileName) (Store.normalize t.content) dry.pendingFiles)
    {a : Product} (ha : a.kind = t.kind) : Accounted e (ps ++ [a]) after := by
  intro path text hpath
  rw [hafter] at hpath
  by_cases he : path = Store.join directory t.fileName
  · obtain ⟨stem, hstem, hfile, -⟩ := ht.file
    rw [he, Entries.lookup_put_self] at hpath
    cases hpath
    refine ⟨a, by simp, directory, hd, stem, by rw [ha]; exact hstem, by rw [he, hfile, ha], ?_⟩
    intro hshared
    rw [ha] at hshared
    exact Artifact.return_not_mem_normalize
      (Artifact.return_not_mem_shared (ht.text hshared) (Layout.return_not_mem_packageOf hreturn))
  · rw [Entries.lookup_put_ne he] at hpath
    exact h.append [a] path text hpath

/-- No request of a journal has failed. -/
def quiet {σ : Type} (events : List (Event σ)) : Bool := events.all (·.failure.isNone)

theorem quiet_append {σ : Type} (events : List (Event σ)) (ev : Event σ) :
    quiet (events ++ [ev]) = (quiet events && ev.failure.isNone) := by
  unfold quiet
  rw [List.all_append, List.all_cons, List.all_nil, Bool.and_true]

/-- The verdict is that the stores agree until a request fails. -/
def rehearsalComparison (l : Layout) (e : Entity) (d : Disk) :
    Comparison (Journaled Project) Project where
  holds a ps b := Rehearsed l e d a.store ps b
  known := Grounded
  verdict a := if quiet a.events then .agree else .void

/-- The store of a project in earnest, with a journal. -/
def journaledProject : Store (Session (Journaled Project)) := journaling (inSession Project.store)

theorem rehearsal_settled {a b : Journaled Project} {ev : Event Project}
    (h : b.events = a.events ++ [ev]) : (rehearsalComparison l e d).Settled a b := by
  unfold Comparison.Settled rehearsalComparison
  dsimp only
  rw [h, quiet_append]
  cases quiet a.events with
  | true => exact .inl rfl
  | false => exact .inr rfl

theorem rehearsal_void {a : Journaled Project} {events : List (Event Project)} {ev : Event Project}
    {f : Failure} (h : a.events = events ++ [ev]) (hf : ev.failure = some f) :
    (rehearsalComparison l e d).verdict a = .void := by
  unfold rehearsalComparison
  dsimp only
  rw [h, quiet_append, hf]
  simp

theorem rehearsal_agree {a : Journaled Project} {events : List (Event Project)} {ev : Event Project}
    (h : a.events = events ++ [ev]) (hq : (if quiet events then Verdict.agree else .void) =
      (Verdict.agree : Verdict Project)) (hf : ev.failure = none) :
    (rehearsalComparison l e d).verdict a = .agree := by
  unfold rehearsalComparison
  dsimp only
  rw [h, quiet_append, hf]
  simpa using hq

theorem rehearse_makeDir {s : Session (Journaled Project)} {b : Project} {directory name : String}
    (hv : (rehearsalComparison l e d).verdict s.store = .agree)
    (hh : Rehearsed l e d s.store.store s.context.products b) (hk : Grounded b directory)
    (hn : name ∈ directoryNames)
    (hfree : journaledProject.isDir s (Store.join directory name) = false) :
    (rehearsalComparison l e d).Outcome (journaledProject.makeDir (Store.join directory name) s)
      ((inSession Project.store).makeDir (Store.join directory name) (s.on b))
      fun c => (rehearsalComparison l e d).Grows b c ∧
        Rehearsed l e d (journaledProject.makeDir (Store.join directory name) s).2.store.store
          s.context.products c ∧
        ∀ u, (journaledProject.makeDir (Store.join directory name) s).1 = .ok u →
          Grounded c (Store.join directory name) := by
  have hdir : s.store.store.isDir directory = true := (hh.rehearses.dirs _ hk.normal).trans hk.isDir
  unfold journaledProject
  rw [Journaled.makeDir_apply]
  -- Once a request fails, nothing is said of the rehearsal any more.
  rcases hh.rehearses.makeDir hk.normal hdir (isName_directory hn) hfree with ⟨f, hf⟩ | ⟨after, hmake, hrel⟩
  · refine .of_void (rehearsal_void (f := f) rfl ?_)
    change failureOf (Project.makeDir (Store.join directory name) s.store.store).1 = some f
    rw [hf]
    rfl
  · have hgrow : ∀ other, b.isDir other = true → Project.isDir
        { b with pendingDirs := Store.addDir (Store.join directory name) b.pendingDirs } other = true := by
      intro other hother
      rw [Project.isDir_addDir, hother, Bool.or_true]
    have hmade : Project.isDir { b with pendingDirs := Store.addDir (Store.join directory name) b.pendingDirs }
        (Store.join directory name) = true := by
      rw [Project.isDir_addDir, beq_self_eq_true, Bool.true_or]
    have hreal : (inSession Project.store).makeDir (Store.join directory name) s.plain = _ :=
      onStore_of_eq hmake
    have hdry : (inSession Project.store).makeDir (Store.join directory name) (s.on b) = _ :=
      onStore_of_eq (Project.makeDir_of_rehearsal hh.rehearses.rehearsal)
    rw [hreal, hdry]
    refine .of_agree ⟨_, rfl, fun x hx => hx.grow hgrow, ⟨hrel, hh.disk, fun path hp => ?_, hh.accounted⟩,
      fun _ _ => (hk.grow hgrow).join hn hmade⟩ (rehearsal_agree rfl hv rfl)
    exact (hh.roots path hp).grow hgrow

theorem rehearse_write {s : Session (Journaled Project)} {b : Project} {directory : String} {t : Template}
    (hv : (rehearsalComparison l e d).verdict s.store = .agree) (he : '/' ∉ e.name.toList)
    (hh : Rehearsed l e d s.store.store s.context.products b) (hk : Grounded b directory)
    (ht : Artifact.Belongs l e t directory) :
    (rehearsalComparison l e d).Outcome
      (journaledProject.write (Store.join directory t.fileName) (Store.normalize t.content) s)
      ((inSession Project.store).write (Store.join directory t.fileName) (Store.normalize t.content) (s.on b))
      fun c => (rehearsalComparison l e d).Grows b c ∧
        (journaledProject.write (Store.join directory t.fileName) (Store.normalize t.content) s).1 = .ok () ∧
        ∀ a : Product, a.kind = t.kind → Rehearsed l e d
          (journaledProject.write (Store.join directory t.fileName) (Store.normalize t.content) s).2.store.store
          (s.context.products ++ [a]) c := by
  have hdir : s.store.store.isDir directory = true := (hh.rehearses.dirs _ hk.normal).trans hk.isDir
  have hname : IsName t.fileName := by
    obtain ⟨stem, hstem, hfile, -⟩ := ht.file
    rw [hfile]
    exact ArtifactKind.isName_file hstem fun hmem => he (Name.mem_of_mem_base hmem)
  let path := Store.join directory t.fileName
  let content := Store.normalize t.content
  -- In the journal the write stands with whatever came of it, and only a failure matters to the verdict.
  have hjournal : journaledProject.write path content s =
      (((inSession Project.store).write path content s.plain).1,
        ((inSession Project.store).write path content s.plain).2.journal (s.store.events ++
          [⟨.write path content, s.plain,
            failureOf ((inSession Project.store).write path content s.plain).1⟩])) := rfl
  rw [show journaledProject.write (Store.join directory t.fileName) (Store.normalize t.content) s = _
    from hjournal]
  rcases hh.rehearses.write hk.normal hdir hname content with ⟨f, hf⟩ | ⟨after, hwrite, hrel⟩
  · refine .of_void (rehearsal_void (f := f) rfl ?_)
    change failureOf (Project.write path content s.store.store).1 = some f
    rw [show (Project.write path content s.store.store).1 = _ from hf]
    rfl
  · have hreal : (inSession Project.store).write path content s.plain = _ := onStore_of_eq hwrite
    have hdry : (inSession Project.store).write path content (s.on b) = _ :=
      onStore_of_eq (Project.write_of_rehearsal hh.rehearses.rehearsal)
    rw [hreal, show (inSession Project.store).write _ _ (s.on b) = _ from hdry]
    refine .of_agree ⟨_, rfl, fun x hx => hx.grow fun _ h => h, rfl,
      fun a ha => ⟨hrel, hh.disk, fun x hx => ?_, ?_⟩⟩ (rehearsal_agree rfl hv rfl)
    · exact (hh.roots x hx).grow fun _ h => h
    · exact hh.accounted.write hk.normal hk.no_return ht rfl ha

theorem rehearsal_not_part (a : Journaled Project) (f : Failure) (t : Session Project) :
    (rehearsalComparison l e d).verdict a ≠ .part f t := by
  unfold rehearsalComparison
  dsimp only
  split <;> exact nofun

theorem rehearse_createFile {s : Session (Journaled Project)} {b : Project} {directory : String}
    {t : Template} (he : '/' ∉ e.name.toList)
    (hv : (rehearsalComparison l e d).verdict s.store = .agree)
    (hh : Rehearsed l e d s.store.store s.context.products b) (hk : Grounded b directory)
    (ht : Artifact.Belongs l e t directory)
    (hr : ∀ a ∈ s.context.products, a.kind.rank < t.kind.rank) :
    (rehearsalComparison l e d).Outcome (journaledProject.createFile directory t.fileName t.content s)
      ((inSession Project.store).createFile directory t.fileName t.content (s.on b))
      fun c => (rehearsalComparison l e d).Grows b c ∧
        Rehearsed l e d (journaledProject.createFile directory t.fileName t.content s).2.store.store
          (s.context.products ++ gained t (journaledProject.createFile directory t.fileName t.content s).1) c := by
  have hname : IsName t.fileName := by
    obtain ⟨stem, hstem, hfile, -⟩ := ht.file
    rw [hfile]
    exact ArtifactKind.isName_file hstem fun hmem => he (Name.mem_of_mem_base hmem)
  have hsame : (inSession Project.store).read (s.on b) (Store.join directory t.fileName) =
      journaledProject.read s (Store.join directory t.fileName) :=
    hh.rehearses.read (hk.normal.join hname) fun _ => hh.accounted.no_return he hk.normal ht hr
  have hdry : (inSession Project.store).isDir (s.on b) directory = true := hk.isDir
  have hreal : journaledProject.isDir s directory = true :=
    (hh.rehearses.dirs directory hk.normal).trans hk.isDir
  rcases hread : journaledProject.read s (Store.join directory t.fileName) with _ | held
  · rw [Store.createFile_of_absent hread, Store.createFile_of_absent (hsame.trans hread),
      Store.prepare_apply, if_pos (.inr hreal), Store.prepare_apply, if_pos (.inr hdry)]
    dsimp only
    have hwrite := rehearse_write hv he hh hk ht
    rcases hx : journaledProject.write (Store.join directory t.fileName) (Store.normalize t.content) s
      with ⟨x, u⟩
    rw [hx] at hwrite
    refine hwrite.andThen (by rcases x with f | _ <;> rfl) (fun f u' hy => by rw [hy])
      fun _ c hy ⟨hg, hok, hrest⟩ => ?_
    dsimp only at hok
    subst hok
    rw [hy]
    exact ⟨c, rfl, hg, hrest _ rfl⟩
  · rw [Store.createFile_of_read hread, Store.createFile_of_read (hsame.trans hread)]
    exact .of_agree ⟨b, rfl, .refl b, hh.rehearses, hh.disk, hh.roots, hh.accounted.append _⟩ hv

/-- A run in earnest beside its rehearsal, as long as nothing fails. -/
def rehearsalSimulation (l : Layout) (he : '/' ∉ e.name.toList) (d : Disk) :
    Simulation l e journaledProject (inSession Project.store) where
  toComparison := rehearsalComparison l e d
  roots h := ⟨h.roots _ (by simp), h.roots _ (by simp), h.roots _ (by simp)⟩
  above := by
    intro a ps b directory u hh hk hu
    unfold Layout.parent? at hu
    split at hu
    · exact nomatch hu
    · cases hu
      exact hk.parent hh.rehearses
  isDir := by
    intro s b directory name hh hk hn
    exact (hh.rehearses.dirs _ (hk.normal.join (isName_directory hn))).symm
  found := by
    intro s b directory name hh hk hn hd
    exact hk.join hn ((hh.rehearses.dirs _ (hk.normal.join (isName_directory hn))).symm.trans hd)
  steady := steady_journaling (steady_inSession Project.store)
  makeDir_settled _ _ := rehearsal_settled rfl
  write_settled _ _ _ := rehearsal_settled rfl
  makeDir_parts _ _ f t _ := rehearsal_not_part _ f t
  makeDir hv hh hk hn hfree := rehearse_makeDir hv hh hk hn hfree
  createFile hv hh hk ht hr := rehearse_createFile he hv hh hk ht hr

/-- The failures that the store meets in a run. -/
def Planner.failures {σ : Type} (p : Planner σ) (e : Entity) (directory : String) (s : Session σ) :
    List Failure :=
  ((p.on (journaling p.store)).run e directory (s.journal [])).2.store.events.filterMap (·.failure)

theorem quiet_of_failures {σ : Type} {events : List (Event σ)} (h : events.filterMap (·.failure) = []) :
    quiet events = true := by
  unfold quiet
  rw [List.all_eq_true]
  intro ev hev
  rw [Option.isNone_iff_eq_none]
  exact List.filterMap_eq_nil_iff.1 h ev hev

theorem rehearses_start {root : Location} (m : Manifest) (hd : d.Tree) (hroot : ".." ∉ root) :
    Project.Rehearses { disk := d, root, manifest := m }
      { disk := d, root, manifest := m, rehearsal := true } where
  in_earnest := rfl
  no_files := rfl
  no_dirs := rfl
  rehearsal := rfl
  root := rfl
  upward := hroot
  tree := hd
  manifest := rfl
  dirs _ _ := rfl
  files _ _ := rfl

/-- A project on a disk, with the classes of the sample entity in their places. -/
def sampleDisk : Disk where
  entries := (["m", "repository", "service", "service/dto", "service/mapper", "service/query", "dao",
      "controller"].map fun path => ("r" :: Store.parts path, .directory)) ++
    (sampleMemory.files.map fun file => ("r" :: Store.parts file.1, .file [])) ++ [(["r"], .directory)]

theorem sampleDisk_grounded : ∀ path ∈ ["m", "", "", ""],
    Grounded { disk := sampleDisk, root := ["r"] } path := by
  have hfacts : ∀ path ∈ ["m", "", "", ""], (".." ∉ Store.parts path ∧
      Store.pathOf (Store.parts path) = path) ∧ '\r' ∉ path.toList ∧
      Project.isDir { disk := sampleDisk, root := ["r"] } path = true := by
    decide +kernel
  intro path hp
  obtain ⟨⟨hupward, heq⟩, hreturn, hdir⟩ := hfacts path hp
  exact ⟨⟨hupward, heq⟩, hreturn, hdir⟩

theorem sampleDisk_quiet :
    ((Planner.mk {} {} (inSession Project.store)).failures sampleEntity "m"
      ((Session.mk () {} [] default false 0).on { disk := sampleDisk, root := ["r"] })).isEmpty = true := by
  decide +kernel

end Run

end Scaffold
