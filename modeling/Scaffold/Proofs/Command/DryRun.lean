import Scaffold.Command.Perform
import Scaffold.Proofs.Run.Anatomy
import Scaffold.Proofs.Store.Overlay

/-! What a dry run of a command does to the disk: nothing, but for the settings file that a project without one
gets from every generation. -/

namespace Scaffold

open Scaffold.Store (Disk Location Project)

namespace Run

/-- A project keeps its disk as long as it is rehearsed. -/
def KeepsDisk (s t : Session Project) : Prop :=
  s.store.rehearsal = true → t.store.rehearsal = true ∧ t.store.disk = s.store.disk

theorem KeepsDisk.trans {s t u : Session Project} (h : KeepsDisk s t) (k : KeepsDisk t u) : KeepsDisk s u := by
  intro hs
  obtain ⟨ht, hdisk⟩ := h hs
  obtain ⟨hu, hlast⟩ := k ht
  exact ⟨hu, hlast.trans hdisk⟩

theorem KeepsDisk.of_store {s t : Session Project} (h : t.store = s.store) : KeepsDisk s t := by
  intro hs
  rw [h]
  exact ⟨hs, rfl⟩

theorem KeepsDisk.released {α : Type} {s : Session Project} {x : Except Failure α × Session Project}
    (h : KeepsDisk s x.2) : KeepsDisk s (Planner.released x).2 := h

theorem keepsDisk_makeDir (path : String) :
    Effect.Keeps KeepsDisk ((inSession Project.store).makeDir path) := by
  intro s hs
  have hmake : (inSession Project.store).makeDir path s = _ := onStore_of_eq (Project.makeDir_of_rehearsal hs)
  rw [hmake]
  exact ⟨hs, rfl⟩

theorem keepsDisk_write (path content : String) :
    Effect.Keeps KeepsDisk ((inSession Project.store).write path content) := by
  intro s hs
  have hwrite : (inSession Project.store).write path content s = _ :=
    onStore_of_eq (Project.write_of_rehearsal hs)
  rw [hwrite]
  exact ⟨hs, rfl⟩

/-- A run that is only rehearsed leaves the disk alone, however it ends. -/
theorem keepsDisk_run {p : Planner Project} (hp : p.store = inSession Project.store) (e : Entity)
    (directory : String) : Effect.Keeps KeepsDisk (p.run e directory) := by
  intro s
  cases hs : s.busy with
  | true =>
    rw [p.run_of_busy e directory hs]
    exact .of_store rfl
  | false =>
    cases he : e.isEntity with
    | false =>
      rw [p.run_of_skipped directory hs he]
      exact .of_store rfl
    | true =>
      have hstages : Effect.Keeps KeepsDisk (p.performAll (stages p.settings)) :=
        (Made.performAll p (ascending_stages p.settings)).keeps (fun h k => h.trans k)
          (fun h => .of_store h.store) (fun _ _ => .of_store rfl) (fun _ _ _ _ _ => .of_store rfl)
          (fun _ _ => .of_store rfl) (fun path => by rw [hp]; exact keepsDisk_makeDir path)
          fun path content => by rw [hp]; exact keepsDisk_write path content
      have hstart : KeepsDisk s (p.started e directory s) := .of_store rfl
      rw [p.run_of_entity directory hs he]
      exact .released (hstart.trans (hstages (p.started e directory s)))

end Run

namespace Command

variable {α β : Type}

theorem bind_apply (m : Work α) (f : α → Work β) (d : Desk) :
    (m >>= f) d = match m d with
      | (.ok a, e) => f a e
      | (.error x, e) => (.error x, e) := by
  change (StateT.bind m (ExceptT.bindCont f)) d = _
  unfold StateT.bind
  rcases m d with ⟨_ | a, e⟩ <;> rfl

/-- Two desks that differ at most in what is shown and logged. -/
structure Same (d e : Desk) : Prop where
  disk : e.disk = d.disk
  here : e.here = d.here
  home : e.home = d.home

theorem Same.refl (d : Desk) : Same d d := ⟨rfl, rfl, rfl⟩

theorem Same.trans {d e f : Desk} (h : Same d e) (k : Same e f) : Same d f :=
  ⟨k.disk.trans h.disk, k.here.trans h.here, k.home.trans h.home⟩

/-- Behind work that leaves the disk alone: what holds of all desks with this disk holds in the end, if what comes
next sees to it. -/
theorem ends_bind {R : Desk → Prop} {m : Work α} {f : α → Work β} {d : Desk} (hm : Same d (m d).2)
    (hfail : ∀ e, Same d e → R e) (hf : ∀ a e, m d = (.ok a, e) → Same d e → R (f a e).2) :
    R ((m >>= f) d).2 := by
  rw [bind_apply]
  rcases hx : m d with ⟨x | a, e⟩ <;> rw [hx] at hm
  · exact hfail e hm
  · exact hf a e hx hm

theorem same_bind {m : Work α} {f : α → Work β} {d : Desk} (hm : Same d (m d).2)
    (hf : ∀ a e, m d = (.ok a, e) → Same d e → Same e (f a e).2) : Same d ((m >>= f) d).2 :=
  ends_bind hm (fun _ h => h) fun a e hx he => he.trans (hf a e hx he)

theorem same_display (s : Shown) (d : Desk) : Same d (display s d).2 := ⟨rfl, rfl, rfl⟩

theorem same_tell (text : String) (d : Desk) : Same d (tell text d).2 := ⟨rfl, rfl, rfl⟩

theorem same_tellAll (texts : List String) (d : Desk) : Same d (tellAll texts d).2 := by
  induction texts generalizing d with
  | nil => exact .refl d
  | cons text rest ih => exact same_bind (same_tell text d) fun _ e _ _ => ih e

theorem same_logAll (ls : List LogLine) (d : Desk) : Same d (logAll ls d).2 := ⟨rfl, rfl, rfl⟩

theorem same_stop (code : Nat) (text : String) (d : Desk) : Same d (stop (α := α) code text d).2 := ⟨rfl, rfl, rfl⟩

/-- The project that a command is about. -/
def Desk.project (d : Desk) (word : Option String) : Location :=
  match word.bind Text.nonempty? with
  | some word => d.location word
  | none => d.here

theorem projectRoot_apply (word : Option String) (d : Desk) :
    projectRoot word d =
      if d.disk.isDir (d.project word) then (.ok (d.project word), d)
      else stop 2 ("[ERROR] Folder not found: " ++ Store.absolute (d.project word)) d := by
  have hroot : projectRoot word d = (get >>= fun e : Desk =>
      if (!e.disk.isDir (d.project word)) = true then
        stop 2 ("[ERROR] Folder not found: " ++ Store.absolute (d.project word)) >>= fun _ : Unit =>
          pure (d.project word)
      else pure (d.project word) : Work Location) d := by
    unfold projectRoot Desk.project locate
    cases word.bind Text.nonempty? with
    | some word => simp only [bind_apply]; rfl
    | none => simp only [bind_apply]; rfl
  rw [hroot, bind_apply]
  change (if (!d.disk.isDir (d.project word)) = true then _ else _ : Work Location) d = _
  cases d.disk.isDir (d.project word) with
  | true => rfl
  | false =>
    change (stop 2 _ >>= fun _ => _ : Work Location) d = _
    rw [bind_apply]
    rfl

theorem same_fileNamed (word : String) (d : Desk) : Same d (fileNamed word d).2 := by
  unfold fileNamed
  refine same_bind (.refl d) fun l e _ _ => same_bind (.refl e) fun f _ _ _ => ?_
  cases f.disk.bytes? l with
  | some bytes => exact .refl _
  | none => exact same_stop _ _ _

theorem same_sourceRoot (root : Location) (names : List String) (consequence : String) (d : Desk) :
    Same d (sourceRoot root names consequence d).2 := by
  unfold sourceRoot
  refine same_bind (.refl d) fun e _ _ _ => ?_
  cases findRoot? e.disk root names with
  | some l => exact .refl _
  | none => exact same_bind (same_logAll _ _) fun _ _ _ _ => .refl _

theorem same_scanProject (root : Location) (d : Desk) : Same d (scanProject root d).2 := by
  unfold scanProject
  refine same_bind (.refl d) fun e _ _ _ => same_bind (same_logAll _ _) fun _ _ _ _ => ?_
  cases (Symbols.scan {} e.disk root).stopped with
  | some f => exact .refl _
  | none => exact .refl _

theorem same_refuse (message : Option String) (f : Java.SourceFault) (d : Desk) :
    Same d (refuse (α := α) message f d).2 := by
  unfold refuse
  cases message with
  | some text => exact same_stop _ _ _
  | none => exact .refl _

theorem same_setDisk {disk : Disk} {d : Desk} (h : disk = d.disk) : Same d (setDisk disk d).2 := ⟨h, rfl, rfl⟩

theorem same_finish (p : Plan) (r : Run.Result) {project : Project} (h : project.rehearsal = true) {d : Desk}
    (hd : project.disk = d.disk) : Same d (p.finish r project d).2 := by
  have hsave : project.save = (project, []) := by
    unfold Project.save
    rw [if_pos h]
  have hrest (e : Desk) (he : Same d e) : Same e ((do
      setDisk project.disk
      logAll []
      tell (p.verdict r).2
      return (p.verdict r).1 : Work Nat) e).2 :=
    same_bind (same_setDisk (hd.trans he.disk.symm)) fun _ f _ _ => same_bind (same_logAll [] f) fun _ g _ _ =>
      same_bind (same_tell _ g) fun _ _ _ _ => .refl _
  unfold Plan.finish
  rw [hsave]
  dsimp only
  by_cases hr : (!r.products.isEmpty) = true
  · rw [if_pos hr]
    exact same_bind (same_display _ d) fun _ e _ he => hrest e he
  · rw [if_neg hr]
    exact hrest d (.refl d)

theorem same_carryOut {p : Plan} (h : p.dryRun = true) (d : Desk) : Same d (p.carryOut d).2 := by
  unfold Plan.carryOut
  refine same_bind (same_tellAll _ d) fun _ e _ _ => same_bind (.refl e) fun f g hget _ => ?_
  cases hget
  rcases hload : Project.load e.disk p.root p.dryRun with ⟨project, log⟩
  have hproject : project.rehearsal = true ∧ project.disk = e.disk := by
    cases hload
    exact ⟨h, rfl⟩
  dsimp only
  refine same_bind (same_logAll log e) fun _ f _ hf => ?_
  have hrun := Run.keepsDisk_run (p := p.planner) rfl p.entity p.directory
    { store := project, symbols := p.symbols } hproject.1
  rcases hx : p.planner.run p.entity p.directory { store := project, symbols := p.symbols } with ⟨result, session⟩
  rw [hx] at hrun
  have hdisk : session.store.disk = f.disk := (hrun.2.trans hproject.2).trans hf.disk.symm
  rw [ExceptT.run, hx]
  dsimp only
  refine same_bind (same_setDisk hdisk) fun _ g _ hg => same_bind (same_logAll _ g) fun _ u _ hu => ?_
  cases result with
  | ok r => exact same_finish p r hrun.1 ((hdisk.trans hg.disk.symm).trans hu.disk.symm)
  | error f =>
    cases f with
    | unread f => exact .refl u
    | _ => exact same_stop _ _ _

theorem same_annotate (file : String) (d : Desk) : Same d (annotate file true d).2 := by
  unfold annotate
  refine same_bind (same_fileNamed file d) fun (l, bytes) e _ _ => ?_
  dsimp only
  rcases Annotate.annotate (Text.Utf8.readText bytes) with f | o
  · cases f <;> exact same_refuse _ _ _
  · dsimp only
    by_cases ho : o.changed = true
    · rw [if_pos ho]
      exact same_bind (same_tell _ e) fun _ f _ _ => same_bind (same_tellAll _ f) fun _ _ _ _ => .refl _
    · rw [if_neg ho]
      exact same_bind (same_tell _ _) fun _ _ _ _ => .refl _

/-- What a disk becomes when a project without a settings file gets one: one entry more, where there was none. -/
def SettingsAdded (root : Location) (d e : Disk) : Prop :=
  ∃ l, d.walk [] (root ++ [Settings.fileName]) = .ok l ∧ d.entry? l = none ∧
    e = d.set l (.file (Text.Utf8.encode Settings.defaultText))

/-- A desk on which at most the settings file of a project is new. -/
def Settled (root : Location) (d e : Desk) : Prop := e.disk = d.disk ∨ SettingsAdded root d.disk e.disk

theorem Same.settled {root : Location} {d e f : Desk} (h : Same d e) (k : Settled root e f) : Settled root d f := by
  unfold Settled at k ⊢
  rw [h.disk] at k
  exact k

theorem Settled.same {root : Location} {d e f : Desk} (h : Settled root d e) (k : Same e f) : Settled root d f := by
  unfold Settled
  rw [k.disk]
  exact h

theorem settled_bind {root : Location} {m : Work α} {f : α → Work β} {d e : Desk} (hm : Settled root d (m e).2)
    (hf : ∀ a u, Same u (f a u).2) : Settled root d ((m >>= f) e).2 := by
  rw [bind_apply]
  rcases hx : m e with ⟨x | a, u⟩ <;> rw [hx] at hm
  · exact hm
  · exact hm.same (hf a u)

theorem write_of_look?_none {d e : Disk} {names : List String} {bytes : List UInt8} (hlook : d.look? names = none)
    (h : d.write names bytes = .ok e) :
    ∃ l, d.walk [] names = .ok l ∧ d.entry? l = none ∧ e = d.set l (.file bytes) := by
  unfold Disk.look? at hlook
  unfold Disk.write at h
  rcases hwalk : d.walk [] names with c | l <;> rw [hwalk] at hlook h
  · exact nomatch h
  · dsimp only at hlook h
    rw [hlook] at h
    cases h
    exact ⟨l, rfl, hlook, rfl⟩

theorem settled_writeDefaults {root : Location} {d : Desk} (h : d.disk.look? (root ++ [Settings.fileName]) = none) :
    Settled root d (writeDefaults (root ++ [Settings.fileName]) d).2 := by
  have hget : (get : Work Desk) d = (.ok d, d) := rfl
  unfold writeDefaults
  rw [bind_apply, hget]
  dsimp only
  cases hwrite : d.disk.write (root ++ [Settings.fileName]) (Text.Utf8.encode Settings.defaultText) with
  | ok disk => exact .inr (write_of_look?_none h hwrite)
  | error f => exact .inl rfl

theorem settled_loadSettings (root : Location) (d : Desk) : Settled root d (loadSettings root d).2 := by
  have hget : (get : Work Desk) d = (.ok d, d) := rfl
  unfold loadSettings
  rw [bind_apply, hget]
  dsimp only
  rcases hlook : d.disk.look? (root ++ [Settings.fileName]) with _ | _ | bytes
  · dsimp only
    refine settled_bind (settled_writeDefaults hlook) fun made e => ?_
    cases made with
    | true => exact ⟨rfl, rfl, rfl⟩
    | false => exact .refl e
  · exact .inl rfl
  · exact .inl rfl

theorem settled_generate (file : String) (word : Option String) (d : Desk) :
    Settled (d.project word) d (generate file word true d).2 := by
  have hsame {e : Desk} (h : Same d e) : Settled (d.project word) d e := .inl h.disk
  unfold generate
  rw [bind_apply, projectRoot_apply]
  by_cases hdir : d.disk.isDir (d.project word) = true
  · rw [if_pos hdir]
    dsimp only
    refine ends_bind (same_fileNamed file d) (fun _ => hsame) fun (l, bytes) e _ he => ?_
    dsimp only
    cases Store.relative? (d.project word) l.dropLast with
    | none => exact hsame (he.trans (same_stop _ _ e))
    | some names =>
      refine ends_bind (same_sourceRoot _ _ _ e) (fun _ hf => hsame (he.trans hf)) fun javaRoot f _ hf => ?_
      refine ends_bind (same_sourceRoot _ _ _ f) (fun _ hg => hsame ((he.trans hf).trans hg)) fun resources g _ hg => ?_
      refine ends_bind (same_scanProject _ g) (fun _ hu => hsame (((he.trans hf).trans hg).trans hu))
        fun symbols u _ hu => ?_
      have hbefore : Same d u := ((he.trans hf).trans hg).trans hu
      -- Up to here nothing has touched the disk. The settings may be written, and behind them all is dry again.
      refine settled_bind (hbefore.settled (settled_loadSettings (d.project word) u)) fun settings v => ?_
      cases Source.entity (Text.Utf8.readText bytes) symbols.find? with
      | error f => exact same_refuse _ _ v
      | ok entity => exact same_carryOut rfl v
  · rw [if_neg hdir]
    exact hsame (same_stop _ _ d)

def Request.dryRun : Request → Bool
  | .generate _ _ dryRun => dryRun
  | .annotate _ dryRun => dryRun
  | .initSettings _ => false

/-- A command line that asks for a dry run leaves every file and every directory as it was, however the command
ends, with one exception: a generation in a project that has no settings file yet gives it one. -/
theorem dry_run_adds_settings_only {words : List String} {request : Request} (d : Desk)
    (hwords : Request.of words = .ok request) (hdry : request.dryRun = true) :
    (run words d).2.disk = d.disk ∨ ∃ file word, request = .generate file word true ∧
      SettingsAdded (d.project word) d.disk (run words d).2.disk := by
  have hrun : (run words d).2 = (perform request d).2 := by
    unfold run
    rw [hwords]
    dsimp only
    rw [ExceptT.run]
    rcases perform request d with ⟨x | code, e⟩
    · rfl
    · rfl
  rw [hrun]
  cases request with
  | generate file word dryRun =>
    cases hdry
    exact (settled_generate file word d).imp_right fun h => ⟨file, word, rfl, h⟩
  | annotate file dryRun =>
    cases hdry
    rw [show perform (.annotate file true) = annotate file true from rfl]
    exact .inl (same_annotate file d).disk
  | initSettings word => exact nomatch hdry

/-- A desk with a class that is no entity, in a project without a settings file. -/
def plainDesk : Desk where
  disk := ⟨[(["w"], .directory), (["w", "A.java"], .file (Text.Utf8.encode "class A \x7b\x7d"))]⟩
  here := ["w"]

theorem dry_run_adds_settings_only_plain :
    Request.of ["annotate", "A.java", "--dry-run"] = .ok (.annotate "A.java" true) ∧
      (run ["annotate", "A.java", "--dry-run"] plainDesk).2.disk = plainDesk.disk := by
  have hwords : Request.of ["annotate", "A.java", "--dry-run"] = .ok (.annotate "A.java" true) := by
    decide +kernel
  refine ⟨hwords, ?_⟩
  rcases dry_run_adds_settings_only plainDesk hwords rfl with hsame | ⟨file, word, hrequest, -⟩
  · exact hsame
  · exact nomatch hrequest

/-- A dry run of a generation that writes a file. -/
theorem dry_run_writes_settings :
    Request.of ["generate", "A.java", "--dry-run"] = .ok (.generate "A.java" none true) ∧
      plainDesk.disk.holds ["w", Settings.fileName] = false ∧
      (run ["generate", "A.java", "--dry-run"] plainDesk).2.disk.holds ["w", Settings.fileName] = true := by
  decide +kernel

end Command

end Scaffold
