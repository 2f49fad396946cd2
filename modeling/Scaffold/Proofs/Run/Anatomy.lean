import Scaffold.Proofs.Run.Traversal

/-! What the stages of a run are made of: requests to the store, classes that enter the table, handles and artifacts
that the context takes in, and work that touches none of these. What all pieces keep, a run keeps. -/

namespace Scaffold

namespace Effect

variable {σ α β : Type}

/-- Work that goes on in one way with a value and in another way with a failure. -/
def branch (m : Effect σ α) (f : α → Effect σ β) (h : Failure → Effect σ β) : Effect σ β := fun s =>
  match m s with
  | (.ok a, t) => f a t
  | (.error e, t) => h e t

theorem bind_eq_branch (m : Effect σ α) (f : α → Effect σ β) : m >>= f = branch m f throw := by
  funext s
  rw [bind_apply]
  rfl

theorem tryCatch_eq_branch (m : Effect σ α) (h : Failure → Effect σ α) : tryCatch m h = branch m pure h := by
  funext s
  rw [tryCatch_apply]
  rfl

theorem Keeps.branch {R : σ → σ → Prop} {m : Effect σ α} {f : α → Effect σ β} {h : Failure → Effect σ β}
    (htrans : ∀ {s t u}, R s t → R t u → R s u) (hm : Keeps R m) (hf : ∀ a, Keeps R (f a))
    (hh : ∀ e, Keeps R (h e)) : Keeps R (branch m f h) := by
  intro s
  have hs := hm s
  unfold Effect.branch
  rcases hx : m s with ⟨e | a, t⟩ <;> rw [hx] at hs
  · exact htrans hs (hh e t)
  · exact htrans hs (hf a t)

end Effect

namespace Run

variable {σ α β : Type}

/-- Two sessions that differ at most in the log, in the directories and in the paths of the context. -/
structure Beside (s t : Session σ) : Prop where
  store : t.store = s.store
  symbols : t.symbols = s.symbols
  entity : t.context.entity = s.context.entity
  handles : t.context.handles = s.context.handles
  products : t.context.products = s.context.products
  busy : t.busy = s.busy
  turnedAway : t.turnedAway = s.turnedAway

theorem Beside.refl (s : Session σ) : Beside s s := ⟨rfl, rfl, rfl, rfl, rfl, rfl, rfl⟩

def keepHandle (kind : ArtifactKind) (h : Handle) (s : Session σ) : Session σ :=
  { s with context := { s.context with handles := Entries.put kind h s.context.handles } }

def keepProduct (a : Product) (s : Session σ) : Session σ :=
  { s with context := { s.context with products := s.context.products ++ [a] } }

/-- Steps of a run that keep handles of the kinds from one rank up to another. -/
inductive Made (p : Planner σ) (lo hi : Nat) : ∀ {α : Type}, Step σ α → Prop
  | aside {α : Type} {m : Step σ α} (h : Effect.Keeps Beside m) : Made p lo hi m
  | enter (symbols : Symbols) : Made p lo hi (Planner.enterSymbols symbols)
  | handle {kind : ArtifactKind} (h : Handle) (hlo : lo ≤ kind.rank) (hhi : kind.rank < hi) :
      Made p lo hi (setHandle kind h)
  | product (a : Product) :
      Made p lo hi (setContext fun c => { c with products := c.products ++ [a] })
  | makeDir (path : String) : Made p lo hi (p.store.makeDir path)
  | write (path content : String) : Made p lo hi (p.store.write path content)
  | branch {α β : Type} {m : Step σ α} {f : α → Step σ β} {h : Failure → Step σ β} (hm : Made p lo hi m)
      (hf : ∀ a, Made p lo hi (f a)) (hh : ∀ e, Made p lo hi (h e)) : Made p lo hi (Effect.branch m f h)

namespace Made

variable {p : Planner σ} {lo hi : Nat} {m : Step σ α}

theorem mono (h : Made p lo hi m) {lo' hi' : Nat} (hlo : lo' ≤ lo) (hhi : hi ≤ hi') : Made p lo' hi' m := by
  induction h with
  | aside h => exact .aside h
  | enter symbols => exact .enter symbols
  | handle h hl hh => exact .handle h (Nat.le_trans hlo hl) (Nat.lt_of_lt_of_le hh hhi)
  | product a => exact .product a
  | makeDir path => exact .makeDir path
  | write path content => exact .write path content
  | branch _ _ _ ihm ihf ihh => exact .branch ihm ihf ihh

/-- What every piece keeps is kept by the whole. -/
theorem keeps (h : Made p lo hi m) {R : Session σ → Session σ → Prop}
    (htrans : ∀ {s t u}, R s t → R t u → R s u) (haside : ∀ {s t}, Beside s t → R s t)
    (henter : ∀ s symbols, R s { s with symbols })
    (hhandle : ∀ s kind x, lo ≤ kind.rank → kind.rank < hi → R s (keepHandle kind x s))
    (hproduct : ∀ s a, R s (keepProduct a s)) (hmake : ∀ path, Effect.Keeps R (p.store.makeDir path))
    (hwrite : ∀ path content, Effect.Keeps R (p.store.write path content)) : Effect.Keeps R m := by
  induction h with
  | aside h => exact fun s => haside (h s)
  | enter symbols => exact fun s => henter s symbols
  | handle x hlo hhi => exact fun s => hhandle s _ x hlo hhi
  | product a => exact fun s => hproduct s a
  | makeDir path => exact hmake path
  | write path content => exact hwrite path content
  | branch _ _ _ ihm ihf ihh => exact .branch htrans ihm ihf ihh

theorem pure (a : α) : Made p lo hi (pure a) := .aside fun s => .refl s

theorem throw (f : Failure) : Made p lo hi (throw f : Step σ α) := .aside fun s => .refl s

theorem get : Made p lo hi (get : Step σ (Session σ)) := .aside fun s => .refl s

theorem bind {f : α → Step σ β} (hm : Made p lo hi m) (hf : ∀ a, Made p lo hi (f a)) :
    Made p lo hi (m >>= f) := by
  rw [Effect.bind_eq_branch]
  exact .branch hm hf .throw

theorem tryCatch {h : Failure → Step σ α} (hm : Made p lo hi m) (hh : ∀ e, Made p lo hi (h e)) :
    Made p lo hi (tryCatch m h) := by
  rw [Effect.tryCatch_eq_branch]
  exact .branch hm .pure hh

theorem ite {b : Prop} [Decidable b] {n : Step σ α} (hm : Made p lo hi m) (hn : Made p lo hi n) :
    Made p lo hi (if b then m else n) := by
  by_cases h : b
  · rwa [if_pos h]
  · rwa [if_neg h]

theorem say (level : Level) (text : String) : Made p lo hi (say level text) :=
  .aside fun _ => ⟨rfl, rfl, rfl, rfl, rfl, rfl, rfl⟩

theorem context : Made p lo hi (context (σ := σ)) := .aside fun s => .refl s

theorem setDirs (change : Directories → Directories) : Made p lo hi (setDirs change) :=
  .aside fun _ => ⟨rfl, rfl, rfl, rfl, rfl, rfl, rfl⟩

theorem classWhere? (fits : Handle → Bool) (name : String) : Made p lo hi (classWhere? fits name) :=
  .aside fun s => .refl s

theorem require (kind : ArtifactKind) : Made p lo hi (require kind) := by
  refine .aside fun s => ?_
  rw [require_apply]
  rcases s.context.handle? kind with _ | h <;> exact .refl s

section Store

theorem storeSubdir (parent name : String) : Made p lo hi (p.store.subdir parent name) := by
  unfold Store.subdir
  refine bind get fun s => ?_
  dsimp only
  exact ite (bind (makeDir _) fun _ => pure _) (pure _)

theorem prepare (directory : String) : Made p lo hi (p.store.prepare directory) := by
  unfold Store.prepare
  refine bind get fun s => ite (makeDir directory) (pure ())

theorem createFile (directory name content : String) :
    Made p lo hi (p.store.createFile directory name content) := by
  unfold Store.createFile
  refine bind get fun s => ?_
  cases p.store.read s (Store.join directory name) with
  | some held => exact pure _
  | none => exact bind (prepare directory) fun _ => bind (write _ _) fun _ => pure _

end Store

section Directories

theorem subdir (parent name : String) : Made p lo hi (p.subdir parent name) := by
  unfold Planner.subdir
  refine tryCatch (storeSubdir parent name) fun f => ?_
  exact ite (bind (throw f) fun _ => bind (say _ _) fun _ => pure parent) (bind (say _ _) fun _ => pure parent)

theorem serviceDir : Made p lo hi p.serviceDir := by
  unfold Planner.serviceDir
  refine bind context fun c => ite (pure _) ?_
  refine bind context fun c => bind (subdir _ _) fun d => ?_
  exact bind (setDirs _) fun _ => pure d

theorem belowService (name : String) : Made p lo hi (p.belowService name) :=
  bind serviceDir fun _ => subdir _ name

theorem besideContainer (name : String) : Made p lo hi (p.besideContainer name) := by
  unfold Planner.besideContainer
  refine bind context fun c => ?_
  dsimp only
  cases p.layout.parent? c.dirs.container with
  | none => exact pure _
  | some parent => exact subdir parent name

theorem controllerDir : Made p lo hi p.controllerDir := by
  unfold Planner.controllerDir
  refine bind serviceDir fun service => bind get fun s => ?_
  cases p.controllerDir? s ((p.layout.parent? service).getD p.layout.javaRoot) with
  | some d => exact pure d
  | none => exact subdir _ _

end Directories

section Placement

theorem registerName (h : Handle) : Made p lo hi (Planner.registerName h) :=
  bind get fun _ => bind (enter _) fun _ => pure h

theorem registerSource? (content path : String) : Made p lo hi (Planner.registerSource? content path) := by
  unfold Planner.registerSource?
  refine bind get fun s => ?_
  rcases s.symbols.registerSource content (some path) with f | ⟨hs, symbols⟩
  · dsimp only
    rcases (Source.ReadFault.unreadable f).message? with _ | reason
    · exact throw _
    · exact bind (say _ _) fun _ => pure none
  · exact bind (enter symbols) fun _ => pure _

theorem register (t : Template) (content path directory : String) :
    Made p lo hi (p.register t content path directory) := by
  unfold Planner.register
  refine bind (registerSource? content path) fun found => ?_
  cases found with
  | none => exact registerName _
  | some hs =>
    dsimp only
    cases hs.find? fun x => x.name == t.name with
    | some h => exact pure h
    | none => exact bind (say _ _) fun _ => registerName _

variable {t : Template} {directory : String} (hlo : lo ≤ t.kind.rank) (hhi : t.kind.rank < hi)

include hlo hhi

theorem place : Made p lo hi (p.place t directory) := by
  unfold Planner.place
  refine bind (createFile _ _ _) fun placed => bind (say _ _) fun _ => bind (product _) fun _ => ite ?_ (pure none)
  exact bind (register t _ _ _) fun h => bind (handle h hlo hhi) fun _ => pure _

theorem placeClass : Made p lo hi (p.placeClass t directory) := by
  unfold Planner.placeClass
  refine bind (place hlo hhi) fun found => ?_
  cases found with
  | some h => exact pure h
  | none => exact throw _

theorem placeFile : Made p lo hi (p.placeFile t directory) :=
  bind (place hlo hhi) fun _ => bind context fun _ => pure _

end Placement

theorem findOrPlace {fits : Handle → Bool} {kind : ArtifactKind} {name directory : String}
    {template : String → Template} (ht : (template (p.layout.packageOf directory)).kind = kind)
    (hlo : lo ≤ kind.rank) (hhi : kind.rank < hi) :
    Made p lo hi (p.findOrPlace fits kind name directory template) := by
  subst ht
  unfold Planner.findOrPlace
  refine bind (classWhere? fits name) fun known => ?_
  cases known with
  | some h => exact bind (pure h) fun h => bind (handle h hlo hhi) fun _ => pure h
  | none => exact bind (placeClass hlo hhi) fun h => bind (handle h hlo hhi) fun _ => pure h

theorem placeAll {directory : String} {ts : List Template}
    (h : ∀ t ∈ ts, lo ≤ t.kind.rank ∧ t.kind.rank < hi) : Made p lo hi (p.placeAll directory ts) := by
  induction ts with
  | nil => exact pure ()
  | cons t ts ih =>
    obtain ⟨hlo, hhi⟩ := h t List.mem_cons_self
    exact bind (place hlo hhi) fun _ => ih fun u hu => h u (List.mem_cons_of_mem t hu)

section Stages

theorem repositoryStage : Made p 0 2 p.repositoryStage := by
  unfold Planner.repositoryStage
  refine bind (besideContainer _) fun directory => bind (setDirs _) fun _ => ?_
  refine bind (findOrPlace rfl (by decide) (by decide)) fun base => bind context fun c => ?_
  exact bind (place (by decide : 0 ≤ 1) (by decide : 1 < 2)) fun _ => pure ()

theorem dtoStage : Made p 2 5 p.dtoStage := by
  unfold Planner.dtoStage
  refine bind (belowService _) fun directory => bind (setDirs _) fun _ => ?_
  refine bind (classWhere? _ _) fun base => bind context fun c => placeAll ?_
  exact (Simulation.dtoTemplates_ranks c.entity c.settings (p.layout.packageOf directory) base).2

theorem mapperStage : Made p 5 7 p.mapperStage := by
  unfold Planner.mapperStage
  refine bind (belowService _) fun directory => bind (setDirs _) fun _ => ?_
  refine bind (findOrPlace rfl (by decide) (by decide)) fun entityMapper => ?_
  refine bind (require .dto) fun dto => bind context fun c => ?_
  exact bind (place (by decide : 5 ≤ 6) (by decide : 6 < 7)) fun _ => pure ()

theorem baseQuery? (directory : String) : Made p 7 8 (p.baseQuery? directory) := by
  unfold Planner.baseQuery?
  refine bind (classWhere? _ _) fun known => ?_
  cases known with
  | some h => exact bind (handle h (by decide) (by decide)) fun _ => pure (some h)
  | none =>
    refine bind context fun c => ite ?_ (pure none)
    exact bind (findOrPlace rfl (by decide) (by decide)) fun h => pure (some h)

theorem queryStage : Made p 7 9 p.queryStage := by
  unfold Planner.queryStage
  refine bind (belowService _) fun directory => bind (setDirs _) fun _ => ?_
  refine bind ((baseQuery? directory).mono (Nat.le_refl 7) (by decide)) fun base => bind context fun c => ?_
  exact bind (place (by decide : 7 ≤ 8) (by decide : 8 < 9)) fun _ => pure ()

theorem daoStage : Made p 9 11 p.daoStage := by
  unfold Planner.daoStage
  refine bind (besideContainer _) fun directory => bind (setDirs _) fun _ => ?_
  refine bind (require .query) fun query => bind context fun c => ?_
  refine bind (place (by decide : 9 ≤ 9) (by decide : 9 < 11)) fun _ => bind (require .dao) fun dao => ?_
  refine bind (subdir _ _) fun mappers => bind (setDirs _) fun _ => bind context fun c => ?_
  refine bind (placeFile (by decide : 9 ≤ 10) (by decide : 10 < 11)) fun path => ?_
  exact aside fun _ => ⟨rfl, rfl, rfl, rfl, rfl, rfl, rfl⟩

theorem serviceDeps : Made p lo hi (Planner.serviceDeps (σ := σ)) :=
  bind (require .dto) fun _ => bind (require .query) fun _ => bind (require .mapper) fun _ =>
    bind (require .repository) fun _ => bind (require .dao) fun _ => pure _

theorem serviceStage : Made p 11 13 p.serviceStage := by
  unfold Planner.serviceStage
  refine bind serviceDir fun directory => bind serviceDeps fun deps => bind context fun c => ?_
  refine ite ?_ ?_
  · refine bind (placeClass (by decide : 11 ≤ 11) (by decide : 11 < 13)) fun interface => ?_
    refine bind (subdir _ _) fun below => bind (setDirs _) fun _ => ?_
    exact bind (place (by decide : 11 ≤ 12) (by decide : 12 < 13)) fun _ => pure ()
  · exact bind (place (by decide : 11 ≤ 11) (by decide : 11 < 13)) fun _ => pure ()

theorem controllerDeps : Made p lo hi (Planner.controllerDeps (σ := σ)) :=
  bind (require .service) fun _ => bind (require .dto) fun _ => bind (require .query) fun _ =>
    bind context fun _ => pure _

theorem controllerStage : Made p 13 14 p.controllerStage := by
  unfold Planner.controllerStage
  refine bind controllerDir fun directory => bind (setDirs _) fun _ => bind get fun s => ?_
  refine bind controllerDeps fun deps => bind context fun c => ?_
  exact bind (place (by decide : 13 ≤ 13) (by decide : 13 < 14)) fun _ => pure ()

theorem pageStage : Made p 14 15 p.pageStage := by
  unfold Planner.pageStage
  refine bind (subdir _ _) fun ui => bind (subdir ui _) fun views => bind (setDirs _) fun _ => ?_
  refine bind context fun c => bind (placeFile (by decide : 14 ≤ 14) (by decide : 14 < 15)) fun path => ?_
  exact aside fun _ => ⟨rfl, rfl, rfl, rfl, rfl, rfl, rfl⟩

theorem perform (p : Planner σ) (stage : Stage) : Made p stage.rank stage.bound (p.perform stage) := by
  cases stage with
  | validateEntity => exact pure ()
  | repository => exact repositoryStage
  | dto => exact dtoStage
  | mapper => exact mapperStage
  | query => exact queryStage
  | dao => exact daoStage
  | service => exact serviceStage
  | controller => exact controllerStage
  | page => exact pageStage

end Stages

theorem through (p : Planner σ) {stages : List Stage} {r : Nat} (h : Ascending r stages) :
    Made p r (lastBound r stages) (p.through stages) := by
  induction stages generalizing r with
  | nil => exact pure ()
  | cons stage rest ih =>
    refine bind ((perform p stage).mono h.1 h.2.le_lastBound) fun _ => ?_
    exact (ih h.2).mono (Nat.le_trans h.1 stage.rank_le_bound) (Nat.le_refl _)

theorem completed : Made p lo hi (Planner.completed (σ := σ)) :=
  bind context fun _ => bind (say _ _) fun _ => pure _

theorem aborted (stage : Stage) (f : Failure) : Made p lo hi (Planner.aborted (σ := σ) stage f) :=
  bind context fun _ => bind (say _ _) fun _ => pure _

theorem performAll (p : Planner σ) {stages : List Stage} {r : Nat} (h : Ascending r stages) :
    Made p r (lastBound r stages) (p.performAll stages) := by
  induction stages generalizing r with
  | nil => exact completed
  | cons stage rest ih =>
    have hbranch : p.performAll (stage :: rest) = Effect.branch (p.perform stage) (fun _ => p.performAll rest)
        fun f => if f.abortsRun = true then Planner.aborted stage f else MonadExcept.throw f := by
      funext s
      rw [Planner.performAll_cons]
      unfold Effect.branch
      rcases p.perform stage s with ⟨f | _, t⟩
      · dsimp only
        split <;> rfl
      · rfl
    rw [hbranch]
    refine .branch ((perform p stage).mono h.1 h.2.le_lastBound) (fun _ => ?_) fun f => ?_
    · exact (ih h.2).mono (Nat.le_trans h.1 stage.rank_le_bound) (Nat.le_refl _)
    · exact ite (aborted stage f) (throw f)

end Made

end Run

end Scaffold
