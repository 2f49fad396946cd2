import Scaffold.Proofs.Run.Regime
import Scaffold.Proofs.Store.Above

/-! Directories that cannot be made do not end a run. In a memory that refuses to make directories, by
whatever rule, every artifact goes into a directory that is there: the one that was meant, or the one above
it. -/

namespace Scaffold

namespace Run

open Store (Memory)

variable {σ : Type}

/-- The directories that a session shows, and those for which the ones above had to do, as the log says. -/
def ground (view : σ → Memory) (S : Store σ) (s : Session σ) : Terrain where
  there d := (view s.store).isDir d = true
  refused parent name := ∃ u f, (S.makeDir (Store.join parent name) u).1 = .error f ∧
    Planner.fallback parent name f ∈ s.log

section Yielding

variable {view : σ → Memory} {S : Store σ}

theorem ground_extends {s t : Session σ}
    (hdirs : ∀ d, (view s.store).isDir d = true → (view t.store).isDir d = true) (hlog : s.log ⊆ t.log) :
    (ground view S s).Extends (ground view S t) :=
  ⟨hdirs _, fun ⟨u, f, herr, hmem⟩ => ⟨u, f, herr, hlog hmem⟩⟩

/-- A session in whose memory the roots are there, each directory in another one. -/
structure Rooted (view : σ → Memory) (l : Layout) (s : Session σ) : Prop where
  closed : (view s.store).Closed
  javaRoot : (view s.store).isDir l.javaRoot = true
  resourcesRoot : (view s.store).isDir l.resourcesRoot = true
  projectRoot : (view s.store).isDir l.projectRoot = true

/-- Nothing is lost where no directory goes and the log only grows. -/
theorem Rooted.move {l : Layout} {s t : Session σ} (h : Rooted view l s) {m : Memory} (hview : view t.store = m)
    (hclosed : m.Closed) (hdirs : ∀ d, (view s.store).isDir d = true → m.isDir d = true) (hlog : s.log ⊆ t.log) :
    Rooted view l t ∧ (ground view S s).Extends (ground view S t) := by
  subst hview
  exact ⟨⟨hclosed, hdirs _ h.javaRoot, hdirs _ h.resourcesRoot, hdirs _ h.projectRoot⟩,
    ground_extends hdirs hlog⟩

/-- A directory is made, or the one above has to do and the log says so. -/
theorem Rooted.subdir (hS : S.Shows view) {l : Layout} (settings : Settings) {s : Session σ} {parent : String}
    (h : Rooted view l s) (hp : (view s.store).isDir parent = true) (name : String) :
    let p : Planner σ := ⟨l, settings, inSession S⟩
    Rooted view l (p.subdir parent name s).2 ∧
      (ground view S s).Extends (ground view S (p.subdir parent name s).2) ∧
      ∃ d, (p.subdir parent name s).1 = .ok d ∧
        (ground view S (p.subdir parent name s).2).Below parent name d := by
  intro p
  cases hdir : p.store.isDir s (Store.join parent name) with
  | true =>
    rw [p.subdir_of_isDir hdir]
    have hthere : (view s.store).isDir (Store.join parent name) = true := (hS.isDir _ _).symm.trans hdir
    exact ⟨h, .refl _, _, rfl, hthere, .inl rfl⟩
  | false =>
    rw [p.subdir_of_missing hdir]
    have hmake : p.store.makeDir (Store.join parent name) s =
        ((S.makeDir (Store.join parent name) s.store).1,
          { s with store := (S.makeDir (Store.join parent name) s.store).2 }) := onStore_apply _ _
    rw [hmake]
    -- The store goes along or refuses; then the directory above takes the place, and a line of the log bears witness.
    rcases hS.makeDir (Store.join parent name) s.store with ⟨hok, hview⟩ | ⟨f, hf, herr, hview⟩
    · rw [hok]
      obtain ⟨hrooted, hmore⟩ := h.move (t := { s with store := (S.makeDir (Store.join parent name) s.store).2 })
        hview (h.closed.makeDir _) (fun _ hd => Memory.isDir_makeDir.2 (.inr (.inr hd))) (List.Subset.refl _)
      refine ⟨hrooted, hmore, _, rfl, ?_, .inl rfl⟩
      change (view (S.makeDir _ _).2).isDir _ = true
      rw [hview]
      exact Memory.isDir_makeDir.2 (.inl rfl)
    · rw [herr]
      dsimp only
      rw [if_pos hf]
      obtain ⟨hrooted, hmore⟩ := h.move
        (t := { s with
          store := (S.makeDir (Store.join parent name) s.store).2
          log := s.log ++ [Planner.fallback parent name f] })
        hview h.closed (fun _ hd => hd) (List.subset_append_left _ _)
      refine ⟨hrooted, hmore, parent, rfl, hmore.there hp, .inr ⟨rfl, s.store, f, herr, ?_⟩⟩
      exact List.mem_append_right _ (List.mem_singleton_self _)

/-- A file goes into a directory that is there, so none has to be made for it. -/
theorem Rooted.createFile (hS : S.Shows view) (hwrite : ∀ path content s, (S.write path content s).1 = .ok ())
    {l : Layout} {s : Session σ} {directory : String} (h : Rooted view l s)
    (hd : (view s.store).isDir directory = true) (name content : String) :
    Rooted view l ((inSession S).createFile directory name content s).2 ∧
      (ground view S s).Extends (ground view S ((inSession S).createFile directory name content s).2) ∧
      ∃ placed, ((inSession S).createFile directory name content s).1 = .ok placed := by
  rcases hread : (inSession S).read s (Store.join directory name) with _ | held
  · have hprepare : (inSession S).prepare directory s = (.ok (), s) := by
      rw [Store.prepare_apply]
      exact if_pos (.inr ((hS.isDir _ _).trans hd))
    have hwritten : (inSession S).write (Store.join directory name) (Store.normalize content) s =
        (.ok (), { s with store := (S.write (Store.join directory name) (Store.normalize content) s.store).2 }) := by
      refine (onStore_apply _ _).trans ?_
      rw [hwrite]
    rw [Store.createFile_of_absent hread, hprepare]
    dsimp only
    rw [hwritten]
    rcases hS.write (Store.join directory name) (Store.normalize content) s.store with
      ⟨-, hview⟩ | ⟨f, -, herr, -⟩
    · obtain ⟨hrooted, hmore⟩ := h.move
        (t := { s with store := (S.write (Store.join directory name) (Store.normalize content) s.store).2 })
        hview (h.closed.write _ _) (fun _ hd => Memory.isDir_write.2 (.inr hd)) (List.Subset.refl _)
      exact ⟨hrooted, hmore, _, rfl⟩
    · rw [hwrite] at herr
      exact nomatch herr
  · rw [Store.createFile_of_read hread]
    exact ⟨h, .refl _, _, rfl⟩

/-- What a memory keeps up that makes directories or not, as it pleases, and writes all files. -/
def yieldingRegime (hS : S.Shows view) (hwrite : ∀ path content s, (S.write path content s).1 = .ok ())
    (l : Layout) (settings : Settings) : Regime (Planner.mk l settings (inSession S)) where
  holds := Rooted view l
  terrain := ground view S
  fails f := f.origin ≠ .store
  own h := h
  steady := steady_inSession S
  roots h := ⟨h.javaRoot, h.resourcesRoot, h.projectRoot⟩
  above {s d u} h hd hu := by
    unfold Layout.parent? at hu
    split at hu
    · exact nomatch hu
    · cases hu
      exact h.closed d hd
  found {s d} _ hd := (hS.isDir s.store d).symm.trans hd
  aside {s t} hs hl h := h.move (by rw [hs]) h.closed (fun _ hd => hd) hl.subset
  subdir {s parent} name h hp := by
    obtain ⟨hrooted, hmore, d, hd, hbelow⟩ := h.subdir hS settings hp name
    refine ⟨hrooted, hmore, ?_⟩
    rw [hd]
    exact hbelow
  createFile {s directory} name content h hd := by
    obtain ⟨hrooted, hmore, placed, hplaced⟩ := h.createFile hS hwrite hd name content
    refine ⟨hrooted, hmore, fun f hf => ?_⟩
    rw [hplaced] at hf
    exact nomatch hf

end Yielding

/-- Sources beside each other, and the directory of the sample entity. -/
def sampleFlat : Memory :=
  .ofFiles (["m/A", "BaseRepository", "ARepository", "ADTO", "EntityMapper", "AMapper", "AQuery", "ADao",
    "AService", "AController"].map fun name => (name ++ ".java", ""))

/-- Not one directory can be made. -/
def withoutDirectories : Store.Refusals where
  makeDir _ := some "read-only"

/-- All artifacts go to the top. -/
theorem sample_falls_back :
    ((memoryPlanner {} {} withoutDirectories).run sampleEntity "m" { store := sampleFlat }).2.context.products.map
      (fun a => (a.path, !Text.endsWith a.path ".java" || Source.decided a.content)) =
      (["BaseRepository.java", "ARepository.java", "ADTO.java", "EntityMapper.java", "AMapper.java", "AQuery.java",
        "ADao.java", "ADao.xml", "AService.java", "AController.java"].map fun path => (path, true)) := by
  decide +kernel

end Run

end Scaffold
