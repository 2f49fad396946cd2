import Scaffold.Proofs.Run.Placement

/-! The stages on two stores that a simulation compares, and whole runs. Every stage places kinds of its
own ranks. -/

namespace Scaffold.Run

variable {σ τ α : Type}

/-- The rank of the first kind that a stage places. -/
def Stage.rank : Stage → Nat
  | .validateEntity | .repository => 0
  | .dto => 2
  | .mapper => 5
  | .query => 7
  | .dao => 9
  | .service => 11
  | .controller => 13
  | .page => 14

/-- The rank behind the last kind that a stage places. -/
def Stage.bound : Stage → Nat
  | .validateEntity => 0
  | .repository => 2
  | .dto => 5
  | .mapper => 7
  | .query => 9
  | .dao => 11
  | .service => 13
  | .controller => 14
  | .page => 15

/-- Stages in the order of a run, from a rank on. -/
def Ascending : Nat → List Stage → Prop
  | _, [] => True
  | r, stage :: rest => r ≤ stage.rank ∧ Ascending stage.bound rest

theorem ascending_stages (settings : Settings) : Ascending 0 (stages settings) := by
  unfold stages
  cases settings.withPage <;> simp [Ascending, Stage.rank, Stage.bound]

theorem Stage.bound_le (stage : Stage) : stage.bound ≤ 15 := by
  cases stage <;> decide

theorem Stage.rank_le_bound (stage : Stage) : stage.rank ≤ stage.bound := by
  cases stage <;> decide

/-- The rank behind stages that start at a rank. -/
def lastBound : Nat → List Stage → Nat
  | r, [] => r
  | _, stage :: rest => lastBound stage.bound rest

theorem Ascending.le_lastBound {stages : List Stage} {r : Nat} (h : Ascending r stages) :
    r ≤ lastBound r stages := by
  induction stages generalizing r with
  | nil => exact Nat.le_refl r
  | cons stage rest ih => exact Nat.le_trans h.1 (Nat.le_trans stage.rank_le_bound (ih h.2))

theorem ascending_append {done later : List Stage} {r : Nat} :
    Ascending r (done ++ later) ↔ Ascending r done ∧ Ascending (lastBound r done) later := by
  induction done generalizing r with
  | nil => exact ⟨fun h => ⟨trivial, h⟩, fun h => h.2⟩
  | cons stage rest ih =>
    change r ≤ stage.rank ∧ Ascending stage.bound (rest ++ later) ↔ _
    rw [ih]
    exact and_assoc.symm

namespace Planner

variable (p : Planner σ)

/-- Stages one after the other, up to the first that fails. -/
def through : List Stage → Step σ Unit
  | [] => pure ()
  | stage :: rest => p.perform stage >>= fun _ => through rest

theorem through_cons (stage : Stage) (rest : List Stage) (s : Session σ) :
    p.through (stage :: rest) s = match p.perform stage s with
      | (.ok _, t) => p.through rest t
      | (.error f, t) => (.error f, t) := by
  change (p.perform stage >>= fun _ => p.through rest) s = _
  rw [Effect.bind_apply]
  rcases p.perform stage s with ⟨_ | _, t⟩ <;> rfl

theorem performAll_cons (stage : Stage) (rest : List Stage) (s : Session σ) :
    p.performAll (stage :: rest) s = match p.perform stage s with
      | (.ok _, t) => p.performAll rest t
      | (.error f, t) => if f.abortsRun then aborted stage f t else (.error f, t) := by
  rw [performAll]
  dsimp only
  rcases p.perform stage s with ⟨_ | _, t⟩ <;> rfl

theorem through_append (done later : List Stage) (s : Session σ) :
    p.through (done ++ later) s = match p.through done s with
      | (.ok _, t) => p.through later t
      | (.error f, t) => (.error f, t) := by
  induction done generalizing s with
  | nil => rfl
  | cons stage rest ih =>
    rw [List.cons_append, through_cons, through_cons]
    rcases p.perform stage s with ⟨f | _, t⟩
    · rfl
    · exact ih t

theorem performAll_through (rest : List Stage) (s : Session σ) :
    (p.performAll rest s).2.store = (p.through rest s).2.store ∧
      (p.performAll rest s).2.symbols = (p.through rest s).2.symbols ∧
      (p.performAll rest s).2.context = (p.through rest s).2.context := by
  induction rest generalizing s with
  | nil => exact ⟨rfl, rfl, rfl⟩
  | cons stage rest ih =>
    rw [through_cons, performAll_cons]
    rcases p.perform stage s with ⟨f | _, t⟩
    · dsimp only
      by_cases hf : f.abortsRun = true
      · rw [if_pos hf]
        exact ⟨rfl, rfl, rfl⟩
      · rw [if_neg hf]
        exact ⟨rfl, rfl, rfl⟩
    · exact ih t

theorem performAll_ok {rest : List Stage} {s : Session σ} {x : Result}
    (h : (p.performAll rest s).1 = .ok x) :
    x.products = (p.performAll rest s).2.context.products ∧ x.status ≠ .skipped := by
  induction rest generalizing s with
  | nil =>
    cases h
    exact ⟨rfl, nofun⟩
  | cons stage rest ih =>
    rw [performAll_cons] at h ⊢
    rcases hx : p.perform stage s with ⟨f | _, t⟩
    · rw [hx] at h
      dsimp only at h ⊢
      by_cases hf : f.abortsRun = true
      · rw [if_pos hf] at h ⊢
        cases h
        exact ⟨rfl, nofun⟩
      · rw [if_neg hf] at h
        exact nomatch h
    · rw [hx] at h
      exact ih h

/-- The end of a run, after which the next one may start. -/
def released (x : Except Failure α × Session σ) : Except Failure α × Session σ :=
  (x.1, { x.2 with busy := false })

theorem released_result (x : Except Failure α × Session σ) : (released x).1 = x.1 := rfl

theorem released_context (x : Except Failure α × Session σ) :
    (released x).2.context = x.2.context := rfl

theorem released_store (x : Except Failure α × Session σ) : (released x).2.store = x.2.store := rfl

/-- The session in which the stages of a run start. -/
def started (e : Entity) (directory : String) (s : Session σ) : Session σ :=
  { s with busy := true, context := p.firstContext e (Store.stripSlashes directory) }

theorem run_of_busy (e : Entity) (directory : String) {s : Session σ} (h : s.busy = true) :
    p.run e directory s = (.error .inProgress, { s with turnedAway := s.turnedAway + 1 }) := by
  unfold run exclusively
  rw [if_pos h]

theorem generate_of_entity {e : Entity} (directory : String) (s : Session σ) (he : e.isEntity = true) :
    p.generate e directory s = p.performAll (stages p.settings)
      { s with context := p.firstContext e (Store.stripSlashes directory) } := by
  unfold generate
  rw [if_pos he, Effect.bind_apply, setContext_apply]

theorem run_of_entity {e : Entity} (directory : String) {s : Session σ} (hs : s.busy = false)
    (he : e.isEntity = true) :
    p.run e directory s = released (p.performAll (stages p.settings) (p.started e directory s)) := by
  unfold run exclusively
  rw [if_neg (by rw [hs]; decide), p.generate_of_entity directory _ he]
  unfold started
  rcases p.performAll (stages p.settings) _ with ⟨x, t⟩
  rfl

theorem run_ok {e : Entity} {directory : String} {s t : Session σ} {x : Result} (hs : s.busy = false)
    (he : e.isEntity = true) (h : p.run e directory s = (.ok x, t)) :
    x.products = t.context.products ∧ x.status ≠ .skipped := by
  rw [p.run_of_entity directory hs he] at h
  have hx : (p.performAll (stages p.settings) (p.started e directory s)).1 = .ok x := by
    rw [← released_result, h]
  have ht : (p.performAll (stages p.settings) (p.started e directory s)).2.context = t.context := by
    rw [← released_context, h]
  rw [← ht]
  exact p.performAll_ok hx

theorem run_products {e : Entity} (directory : String) {s : Session σ} (hs : s.busy = false)
    (he : e.isEntity = true) : (p.run e directory s).2.context.products =
      (p.through (stages p.settings) (p.started e directory s)).2.context.products := by
  rw [p.run_of_entity directory hs he, released_context, (p.performAll_through _ _).2.2]

theorem run_of_skipped {e : Entity} (directory : String) {s : Session σ} (hs : s.busy = false)
    (he : e.isEntity = false) :
    p.run e directory s = (.ok { status := .skipped, failedStage := some .validateEntity },
      { s with
        log := s.log ++ [⟨.info, e.name ++ " is not annotated with @Entity; nothing to generate"⟩]
        busy := false }) := by
  unfold run exclusively
  rw [if_neg (by rw [hs]; decide)]
  unfold generate
  rw [if_neg (by rw [he]; decide)]
  rfl

end Planner

namespace Simulation

open Comparison

variable {p : Planner σ} {T : Store (Session τ)} {e : Entity} {r : Nat} {F : Facts}
variable (S : Simulation p.layout e p.store T)

theorem follows_setDirs {change : Directories → Directories}
    (hc : ∀ d, (change d).container = d.container) (hs : ∀ d, (change d).service = d.service) :
    S.Follows e r r F (setDirs change) (setDirs change) fun _ => {} := by
  refine S.follows_setContext (fun _ => rfl) fun c b h _ => ⟨h.entity, ?_, ?_, h.dao⟩
  · rw [hc]
    exact h.container
  · rw [hs]
    exact h.service

theorem follows_repositoryStage :
    S.Follows e 0 2 F p.repositoryStage (p.on T).repositoryStage fun _ => {} := by
  refine .bind (S.follows_besideContainer (by decide)) (fun d => ?_) (Nat.zero_le 2)
  refine .bind (S.follows_setDirs (fun _ => rfl) fun _ => rfl) (fun _ => ?_) (Nat.zero_le 2)
  refine .bind (S.follows_findOrPlace (by simp) nofun .baseRepository (Nat.le_refl 0)) (fun base => ?_)
    (by decide : 1 ≤ 2)
  refine .bind S.follows_context (fun c => ?_) (by decide : 1 ≤ 2)
  refine .bind (S.follows_place (by simp) ?_ (Nat.le_refl 1)) (fun _ => S.follows_return _) (Nat.le_refl 2)
  rintro ⟨-, hc⟩
  rw [hc]
  exact .repository _ base

/-- Templates whose ranks rise, one behind the other in a directory. -/
theorem follows_placeAll {directory : String} {hi : Nat} : ∀ (ts : List Template) {r : Nat},
    directory ∈ F.dirs → (F.holds → ∀ t ∈ ts, Artifact.Belongs p.layout e t directory) →
    (ts.map (·.kind.rank)).Pairwise (· < ·) → (∀ t ∈ ts, r ≤ t.kind.rank ∧ t.kind.rank < hi) → r ≤ hi →
    S.Follows e r hi F (p.placeAll directory ts) ((p.on T).placeAll directory ts) fun _ => {}
  | [], r, _, _, _, _, hr => (S.follows_return ()).mono (Nat.le_refl r) hr fun _ h => h
  | t :: ts, r, hd, ht, hpair, hbounds, hr => by
    rw [List.map_cons, List.pairwise_cons] at hpair
    have hfirst := hbounds t List.mem_cons_self
    refine .bind (S.follows_place hd (fun h => ht h t List.mem_cons_self) hfirst.1) (fun _ => ?_) hfirst.2
    refine (follows_placeAll ts hd (fun h u hu => ht h u (List.mem_cons_of_mem t hu)) hpair.2
      (fun u hu => ⟨?_, (hbounds u (List.mem_cons_of_mem t hu)).2⟩) hfirst.2).mono (Nat.le_refl _)
      (Nat.le_refl hi) fun b hb => ⟨hb.1.1, fun d hd => hb.2 d (Facts.mem_and.2 (.inl hd))⟩
    exact hpair.1 _ (List.mem_map_of_mem hu)

theorem dtoTemplates_ranks (e : Entity) (s : Settings) (package : String) (base : Option Handle) :
    ((Artifact.dtoTemplates e s package base).map (·.kind.rank)).Pairwise (· < ·) ∧
      ∀ t ∈ Artifact.dtoTemplates e s package base, 2 ≤ t.kind.rank ∧ t.kind.rank < 5 := by
  have hkinds := Artifact.dtoTemplates_kinds e s package base
  have hranks : (Artifact.dtoTemplates e s package base).map (·.kind.rank) =
      (Artifact.dtoKinds s).map (·.rank) := by
    rw [← hkinds, List.map_map]
    rfl
  have hall : ∀ k ∈ Artifact.dtoKinds s, 2 ≤ k.rank ∧ k.rank < 5 := by
    unfold Artifact.dtoKinds
    cases s.withSuper <;> decide
  refine ⟨?_, fun t ht => hall t.kind ?_⟩
  · rw [hranks]
    unfold Artifact.dtoKinds
    cases s.withSuper <;> decide
  · rw [← hkinds]
    exact List.mem_map_of_mem ht

theorem follows_dtoStage :
    S.Follows e 2 5 F p.dtoStage (p.on T).dtoStage fun _ => {} := by
  refine .bind (S.follows_belowService (by decide)) (fun d => ?_) (by decide : 2 ≤ 5)
  refine .bind (S.follows_setDirs (fun _ => rfl) fun _ => rfl) (fun _ => ?_) (by decide : 2 ≤ 5)
  refine .bind (S.follows_classWhere? _ _) (fun base => ?_) (by decide : 2 ≤ 5)
  refine .bind S.follows_context (fun c => ?_) (by decide : 2 ≤ 5)
  obtain ⟨hpair, hbounds⟩ := dtoTemplates_ranks c.entity c.settings (p.layout.packageOf d) base
  refine S.follows_placeAll _ (by simp) ?_ hpair hbounds (by decide)
  rintro ⟨-, hc⟩ t ht
  rw [hc] at ht
  exact Artifact.belongs_dto p.layout ht

theorem follows_mapperStage :
    S.Follows e 5 7 F p.mapperStage (p.on T).mapperStage fun _ => {} := by
  refine .bind (S.follows_belowService (by decide)) (fun d => ?_) (by decide : 5 ≤ 7)
  refine .bind (S.follows_setDirs (fun _ => rfl) fun _ => rfl) (fun _ => ?_) (by decide : 5 ≤ 7)
  refine .bind (S.follows_findOrPlace (by simp) nofun .entityMapper (Nat.le_refl 5))
    (fun entityMapper => ?_) (by decide : 6 ≤ 7)
  refine .bind (S.follows_require .dto) (fun dto => ?_) (by decide : 6 ≤ 7)
  refine .bind S.follows_context (fun c => ?_) (by decide : 6 ≤ 7)
  refine .bind (S.follows_place (by simp) ?_ (Nat.le_refl 6)) (fun _ => S.follows_return _) (Nat.le_refl 7)
  rintro ⟨-, hc⟩
  rw [hc]
  exact .mapper _ dto entityMapper

theorem follows_baseQuery? {directory : String} (hd : directory ∈ F.dirs) :
    S.Follows e 7 8 F (p.baseQuery? directory) ((p.on T).baseQuery? directory) fun _ => {} := by
  refine .bind (S.follows_classWhere? _ _) (fun known => ?_) (by decide : 7 ≤ 8)
  cases known with
  | some h =>
    refine .bind (S.follows_setHandle fun _ => nofun) (fun _ => ?_) (by decide : 7 ≤ 8)
    exact (S.follows_return _).mono (Nat.le_refl 7) (by decide) fun _ h => h
  | none =>
    refine .bind S.follows_context (fun c => ?_) (by decide : 7 ≤ 8)
    by_cases hs : c.settings.withSuper = true
    · rw [if_pos hs, if_pos hs]
      exact .bind (S.follows_findOrPlace (by simp [hd]) nofun .baseQuery (Nat.le_refl 7))
        (fun _ => S.follows_return _) (Nat.le_refl 8)
    · rw [if_neg hs, if_neg hs]
      exact (S.follows_return _).mono (Nat.le_refl 7) (by decide) fun _ h => h

theorem follows_queryStage :
    S.Follows e 7 9 F p.queryStage (p.on T).queryStage fun _ => {} := by
  refine .bind (S.follows_belowService (by decide)) (fun d => ?_) (by decide : 7 ≤ 9)
  refine .bind (S.follows_setDirs (fun _ => rfl) fun _ => rfl) (fun _ => ?_) (by decide : 7 ≤ 9)
  refine .bind (S.follows_baseQuery? (by simp)) (fun base => ?_) (by decide : 8 ≤ 9)
  refine .bind S.follows_context (fun c => ?_) (by decide : 8 ≤ 9)
  refine .bind (S.follows_place (by simp) ?_ (Nat.le_refl 8)) (fun _ => S.follows_return _) (Nat.le_refl 9)
  rintro ⟨-, hc⟩
  rw [hc]
  exact .query _ base

theorem follows_daoStage :
    S.Follows e 9 11 F p.daoStage (p.on T).daoStage fun _ => {} := by
  refine .bind (S.follows_besideContainer (by decide)) (fun d => ?_) (by decide : 9 ≤ 11)
  refine .bind (S.follows_setDirs (fun _ => rfl) fun _ => rfl) (fun _ => ?_) (by decide : 9 ≤ 11)
  refine .bind (S.follows_require .query) (fun query => ?_) (by decide : 9 ≤ 11)
  refine .bind S.follows_context (fun c => ?_) (by decide : 9 ≤ 11)
  refine .bind (S.follows_place (by simp) ?_ (Nat.le_refl 9)) (fun _ => ?_) (by decide : 10 ≤ 11)
  · rintro ⟨-, hc⟩
    rw [hc]
    exact .dao _ _ query
  refine .bind (S.follows_require .dao) (fun dao => ?_) (by decide : 10 ≤ 11)
  refine .learn (.dir p.layout.resourcesRoot) (fun s b hs _ => knows_dir (S.roots hs.holds).2.1) ?_
  refine .bind (S.follows_subdir (by simp) (by decide)) (fun mappers => ?_) (by decide : 10 ≤ 11)
  refine .bind (S.follows_setDirs (fun _ => rfl) fun _ => rfl) (fun _ => ?_) (by decide : 10 ≤ 11)
  refine .bind S.follows_context (fun c => ?_) (by decide : 10 ≤ 11)
  refine .bind (S.follows_placeFile (by simp) ?_ (Nat.le_refl 10)) (fun path => ?_) (Nat.le_refl 11)
  · rintro ⟨⟨⟨⟨⟨-, hdao⟩, -⟩, -⟩, -⟩, hc⟩
    exact .mapping (by rw [hc]; exact hdao rfl)
  · exact S.follows_setContext (fun _ => rfl) fun c b h _ => ⟨h.entity, h.container, h.service, h.dao⟩

theorem follows_serviceDeps :
    S.Follows e r r F Planner.serviceDeps Planner.serviceDeps fun _ => {} := by
  refine .bind (S.follows_require _) (fun _ => ?_) (Nat.le_refl r)
  refine .bind (S.follows_require _) (fun _ => ?_) (Nat.le_refl r)
  refine .bind (S.follows_require _) (fun _ => ?_) (Nat.le_refl r)
  refine .bind (S.follows_require _) (fun _ => ?_) (Nat.le_refl r)
  exact .bind (S.follows_require _) (fun _ => S.follows_return _) (Nat.le_refl r)

theorem follows_serviceStage :
    S.Follows e 11 13 F p.serviceStage (p.on T).serviceStage fun _ => {} := by
  refine .bind S.follows_serviceDir (fun d => ?_) (by decide : 11 ≤ 13)
  refine .bind S.follows_serviceDeps (fun deps => ?_) (by decide : 11 ≤ 13)
  refine .bind S.follows_context (fun c => ?_) (by decide : 11 ≤ 13)
  dsimp only
  by_cases hi : c.settings.withInterface = true
  · rw [if_pos hi, if_pos hi]
    refine .bind (S.follows_placeClass (by simp) ?_ (Nat.le_refl 11)) (fun interface => ?_)
      (by decide : 12 ≤ 13)
    · rintro ⟨-, hc⟩
      exact .serviceInterface (by exact hc) _
    refine .bind (S.follows_subdir (by simp) (by decide)) (fun below => ?_) (by decide : 12 ≤ 13)
    refine .bind (S.follows_setDirs (fun _ => rfl) fun _ => rfl) (fun _ => ?_) (by decide : 12 ≤ 13)
    refine .bind (S.follows_place (by simp) ?_ (Nat.le_refl 12)) (fun _ => S.follows_return _)
      (Nat.le_refl 13)
    rintro ⟨⟨⟨⟨-, hc⟩, -⟩, -⟩, -⟩
    exact .serviceImpl (by exact hc) _ interface
  · rw [if_neg hi, if_neg hi]
    refine .bind (S.follows_place (by simp) ?_ (Nat.le_refl 11)) (fun _ => ?_) (by decide : 12 ≤ 13)
    · rintro ⟨-, hc⟩
      exact .service (by exact hc) _
    · exact (S.follows_return _).mono (Nat.le_refl 12) (by decide) fun _ h => h

theorem follows_controllerDeps :
    S.Follows e r r F Planner.controllerDeps Planner.controllerDeps fun _ => {} := by
  refine .bind (S.follows_require _) (fun _ => ?_) (Nat.le_refl r)
  refine .bind (S.follows_require _) (fun _ => ?_) (Nat.le_refl r)
  refine .bind (S.follows_require _) (fun _ => ?_) (Nat.le_refl r)
  exact .bind S.follows_context (fun _ => S.follows_return _) (Nat.le_refl r)

theorem controllerOptions_suffix (symbols : Symbols) :
    (Planner.controllerOptions symbols).suffix = "Controller" ∨
      (Planner.controllerOptions symbols).suffix = "Resource" := by
  unfold Planner.controllerOptions
  dsimp only
  split
  · exact .inr rfl
  · exact .inl rfl

theorem follows_controllerStage :
    S.Follows e 13 14 F p.controllerStage (p.on T).controllerStage fun _ => {} := by
  refine .bind S.follows_controllerDir (fun d => ?_) (by decide : 13 ≤ 14)
  refine .bind (S.follows_setDirs (fun _ => rfl) fun _ => rfl) (fun _ => ?_) (by decide : 13 ≤ 14)
  refine .get_bind fun s _ => ?_
  refine .bind S.follows_controllerDeps (fun deps => ?_) (by decide : 13 ≤ 14)
  refine .bind S.follows_context (fun c => ?_) (by decide : 13 ≤ 14)
  refine .bind (S.follows_place (by simp) ?_ (Nat.le_refl 13)) (fun _ => S.follows_return _) (Nat.le_refl 14)
  rintro ⟨-, hc⟩
  exact .controller (by exact hc) (controllerOptions_suffix s.symbols) _

theorem follows_pageStage :
    S.Follows e 14 15 F p.pageStage (p.on T).pageStage fun _ => {} := by
  refine .learn (.dir p.layout.projectRoot) (fun s b hs _ => knows_dir (S.roots hs.holds).2.2) ?_
  refine .bind (S.follows_subdir (by simp) (by decide)) (fun ui => ?_) (by decide : 14 ≤ 15)
  refine .bind (S.follows_subdir (by simp) (by decide)) (fun views => ?_) (by decide : 14 ≤ 15)
  refine .bind (S.follows_setDirs (fun _ => rfl) fun _ => rfl) (fun _ => ?_) (by decide : 14 ≤ 15)
  refine .bind S.follows_context (fun c => ?_) (by decide : 14 ≤ 15)
  refine .bind (S.follows_placeFile (by simp) ?_ (Nat.le_refl 14)) (fun path => ?_) (Nat.le_refl 15)
  · rintro ⟨-, hc⟩
    rw [hc]
    exact .page _ _
  · exact S.follows_setContext (fun _ => rfl) fun c b h _ => ⟨h.entity, h.container, h.service, h.dao⟩

theorem follows_perform (stage : Stage) :
    S.Follows e stage.rank stage.bound F (p.perform stage) ((p.on T).perform stage) fun _ => {} := by
  cases stage with
  | validateEntity => exact S.follows_return ()
  | repository => exact S.follows_repositoryStage
  | dto => exact S.follows_dtoStage
  | mapper => exact S.follows_mapperStage
  | query => exact S.follows_queryStage
  | dao => exact S.follows_daoStage
  | service => exact S.follows_serviceStage
  | controller => exact S.follows_controllerStage
  | page => exact S.follows_pageStage

theorem follows_through (stages : List Stage) {r : Nat} (h : Ascending r stages) :
    S.Follows e r (lastBound r stages) F (p.through stages) ((p.on T).through stages) fun _ => {} := by
  induction stages generalizing r F with
  | nil => exact S.follows_return ()
  | cons stage rest ih =>
    refine .bind ((S.follows_perform stage).mono h.1 (Nat.le_refl _) fun _ h => h) (fun _ => ?_)
      h.2.le_lastBound
    exact ih h.2

/-- What has happened in the first stage is still so behind the others. -/
theorem through_settled (b : τ) {stage : Stage} {rest : List Stage} (h : Ascending stage.bound rest)
    (s : Session σ) :
    S.Settled (p.perform stage s).2.store (p.through (stage :: rest) s).2.store := by
  rw [Planner.through_cons]
  rcases p.perform stage s with ⟨_ | _, t⟩
  · exact .refl _
  · exact (S.follows_through (F := {}) rest h t b).1

/-- As long as the stores agree, runs end alike. -/
theorem performAll_agrees {stages : List Stage} {r : Nat} (h : Ascending r stages) (hr : r ≤ 15)
    {s : Session σ} {b : τ} (hb : S.Related e r s b)
    (hv : S.verdict (p.performAll stages s).2.store = .agree) :
    ∃ c, (p.on T).performAll stages (s.on b) =
        ((p.performAll stages s).1, (p.performAll stages s).2.on c) ∧
      S.Grows b c ∧ S.Related e 15 (p.performAll stages s).2 c := by
  induction stages generalizing r s b with
  | nil => exact ⟨b, rfl, .refl b, hb.agree, hb.holds, hb.fits, (hb.mono hr).ranks⟩
  | cons stage rest ih =>
    obtain ⟨-, hout⟩ := S.follows_perform (F := {}) stage s b
    specialize hout (hb.mono h.1) (knows_empty b)
    rw [Planner.performAll_cons] at hv ⊢
    rw [Planner.performAll_cons]
    rcases hx : p.perform stage s with ⟨f | _, t⟩
    · rw [hx] at hv hout
      dsimp only at hv ⊢
      by_cases hf : f.abortsRun = true
      · rw [if_pos hf] at hv ⊢
        obtain ⟨c, hT, hg, hc, -⟩ := hout.agrees hv
        rw [hT]
        dsimp only
        rw [if_pos hf]
        exact ⟨c, rfl, hg, hc.agree, hc.holds, hc.fits, (hc.mono stage.bound_le).ranks⟩
      · rw [if_neg hf] at hv ⊢
        obtain ⟨c, hT, hg, hc, -⟩ := hout.agrees hv
        rw [hT]
        dsimp only
        rw [if_neg hf]
        exact ⟨c, rfl, hg, hc.mono stage.bound_le⟩
    · rw [hx] at hv hout
      dsimp only at hv ⊢
      -- The stores agree in the end, and so they do behind this stage.
      have hrest := (S.follows_through (F := {}) rest h.2 t b).1
      rw [← (p.performAll_through rest t).1] at hrest
      obtain ⟨c, hT, hg, hc, -⟩ := hout.agrees (hrest.agree hv)
      rw [hT]
      obtain ⟨c', hy, hg', hc'⟩ := ih h.2 stage.bound_le hc hv
      exact ⟨c', hy, hg.trans hg', hc'⟩

/-- Where the right run has ended with a failure it has done so in one stage, up to which the stores have
agreed. -/
theorem performAll_parts {stages : List Stage} {r : Nat} (h : Ascending r stages)
    {s : Session σ} {b : τ} {f : Failure} {t : Session τ} (hb : S.Related e r s b)
    (hv : S.verdict (p.performAll stages s).2.store = .part f t) :
    ∃ done stage later, stages = done ++ stage :: later ∧
      (p.through done s).1 = .ok () ∧ S.verdict (p.through done s).2.store = .agree ∧
      S.verdict (p.through (done ++ [stage]) s).2.store = .part f t ∧
      (p.on T).performAll stages (s.on b) =
        if f.abortsRun then Planner.aborted stage f t else (.error f, t) := by
  rw [(p.performAll_through stages s).1] at hv
  induction stages generalizing r s b with
  | nil => cases hb.agree.symm.trans hv
  | cons stage rest ih =>
    obtain ⟨-, hout⟩ := S.follows_perform (F := {}) stage s b
    specialize hout (hb.mono h.1) (knows_empty b)
    rw [Planner.through_cons] at hv
    rw [Planner.performAll_cons]
    rcases hverdict : S.verdict (p.perform stage s).2.store with _ | ⟨g, u⟩ | _
    · -- The stores still agree behind this stage: it is one of the stages that follow.
      obtain ⟨c, hT, hg, hc, -⟩ := hout.agrees hverdict
      rw [hT]
      rcases hx : p.perform stage s with ⟨g | _, u⟩
      · rw [hx] at hverdict hv
        cases hverdict.symm.trans hv
      · rw [hx] at hc hv
        obtain ⟨done, last, later, rfl, hok, hag, hpart, hrun⟩ := ih h.2 hc hv
        refine ⟨stage :: done, last, later, rfl, ?_, ?_, ?_, hrun⟩
        · rw [Planner.through_cons, hx]
          exact hok
        · rw [Planner.through_cons, hx]
          exact hag
        · rw [List.cons_append, Planner.through_cons, hx]
          exact hpart
    · have hstay := (S.through_settled b h.2 s).stays (by rw [hverdict]; rintro ⟨⟩)
      rw [Planner.through_cons, hv, hverdict] at hstay
      cases hstay
      -- The verdict stays, so it was this stage in which the right run ended.
      rw [hout.parts hverdict]
      refine ⟨[], stage, rest, rfl, rfl, hb.agree, ?_, rfl⟩
      rw [List.nil_append, Planner.through_cons]
      rcases hx : p.perform stage s with ⟨_ | _, u⟩ <;> rw [hx] at hverdict <;> exact hverdict
    · have hstay := (S.through_settled b h.2 s).stays (by rw [hverdict]; rintro ⟨⟩)
      rw [Planner.through_cons, hv, hverdict] at hstay
      cases hstay

theorem related_started {directory : String} {s : Session σ} {b : τ}
    (hv : S.verdict s.store = .agree) (hh : S.holds s.store [] b)
    (hk : S.known b (Store.stripSlashes directory)) : S.Related e 0 (p.started e directory s) b :=
  ⟨hv, hh, ⟨rfl, hk, .inl rfl, nofun⟩, nofun⟩

theorem related_released {x : Except Failure α × Session σ} {b : τ} (h : S.Related e r x.2 b) :
    S.Related e r (Planner.released x).2 b := ⟨h.agree, h.holds, h.fits, h.ranks⟩

theorem run_on_of_entity {directory : String} {s : Session σ} (b : τ) (hs : s.busy = false)
    (he : e.isEntity = true) :
    (p.on T).run e directory (s.on b) =
      Planner.released ((p.on T).performAll (stages p.settings) ((p.started e directory s).on b)) := by
  have hstart : (p.on T).started e directory (s.on b) = (p.started e directory s).on b := rfl
  have hsettings : (p.on T).settings = p.settings := rfl
  rw [(p.on T).run_of_entity directory (show (s.on b).busy = false from hs) he, hstart, hsettings]

theorem run_agrees {directory : String} {s : Session σ} {b : τ} (hs : s.busy = false)
    (he : e.isEntity = true) (hb : S.Related e 0 (p.started e directory s) b)
    (hv : S.verdict (p.run e directory s).2.store = .agree) :
    ∃ c, (p.on T).run e directory (s.on b) =
        ((p.run e directory s).1, (p.run e directory s).2.on c) ∧
      S.Related e 15 (p.run e directory s).2 c := by
  rw [p.run_of_entity directory hs he, Planner.released_store] at hv
  obtain ⟨c, hy, -, hc⟩ := S.performAll_agrees (ascending_stages p.settings) (Nat.zero_le 15) hb hv
  rw [p.run_of_entity directory hs he, run_on_of_entity b hs he, hy]
  exact ⟨c, rfl, S.related_released hc⟩

theorem run_parts {directory : String} {s : Session σ} {b : τ} {f : Failure} {t : Session τ}
    (hs : s.busy = false) (he : e.isEntity = true)
    (hb : S.Related e 0 (p.started e directory s) b) (hf : f.abortsRun = true)
    (hv : S.verdict (p.run e directory s).2.store = .part f t) :
    ∃ done stage later, stages p.settings = done ++ stage :: later ∧
      (p.through done (p.started e directory s)).1 = .ok () ∧
      S.verdict (p.through done (p.started e directory s)).2.store = .agree ∧
      S.verdict (p.through (done ++ [stage]) (p.started e directory s)).2.store = .part f t ∧
      (p.on T).run e directory (s.on b) = Planner.released (Planner.aborted stage f t) := by
  rw [p.run_of_entity directory hs he, Planner.released_store] at hv
  obtain ⟨done, stage, later, hstages, hok, hag, hpart, hrun⟩ :=
    S.performAll_parts (ascending_stages p.settings) hb hv
  refine ⟨done, stage, later, hstages, hok, hag, hpart, ?_⟩
  rw [run_on_of_entity b hs he, hrun, if_pos hf]

end Simulation

theorem through_products {p : Planner σ} (hS : Steady p.store) (e : Entity) (directory : String)
    (s : Session σ) {done later : List Stage} (h : Ascending 0 (done ++ later)) :
    (p.through done (p.started e directory s)).2.context.products <+:
      (p.through (done ++ later) (p.started e directory s)).2.context.products := by
  obtain ⟨hdone, hlater⟩ := ascending_append.1 h
  let A := selfSimulation hS (fun _ _ => True) (fun _ _ h => h) p.layout e (fun _ _ _ _ h => h)
  have hstart : A.Related e 0 (p.started e directory s) s.store :=
    Simulation.related_started (p := p) A rfl ⟨rfl, trivial⟩ trivial
  obtain ⟨-, hout⟩ := Simulation.follows_through (p := p) (F := {}) A done hdone
    (p.started e directory s) s.store
  obtain ⟨c, -, -, hmid, -⟩ := (hout hstart (Comparison.knows_empty _)).agrees rfl
  rw [p.through_append]
  rcases hx : p.through done (p.started e directory s) with ⟨f | _, t⟩
  · exact List.prefix_refl _
  · rw [hx] at hmid
    let B := selfSimulation hS (fun _ ps => t.context.products <+: ps) (fun _ _ h => h) p.layout e
      (fun _ _ _ _ h => h.trans (List.prefix_append _ _))
    have hlast : B.Related e (lastBound 0 done) t t.store :=
      ⟨rfl, ⟨rfl, List.prefix_refl _⟩, ⟨hmid.fits.entity, trivial, .inr trivial, hmid.fits.dao⟩, hmid.ranks⟩
    obtain ⟨-, hout⟩ := Simulation.follows_through (p := p) (F := {}) B later hlater t t.store
    obtain ⟨d, -, -, hend, -⟩ := (hout hlast (Comparison.knows_empty _)).agrees rfl
    exact hend.holds.2

end Scaffold.Run
