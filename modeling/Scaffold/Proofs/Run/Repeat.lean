import Mathlib.Data.List.Forall2
import Scaffold.Proofs.Run.Echo

/-! A second run of an entity: it finds the artifacts of the first one in their places and leaves all files
as they are. -/

namespace Scaffold.Run

open Store (Memory)

/-- The controller stage once its directory is found, on a project with these options. -/
def Planner.finishController {σ : Type} (p : Planner σ) (options : Artifact.ControllerOptions)
    (directory : String) : Step σ Unit := do
  setDirs fun d => { d with controller := directory }
  let deps ← controllerDeps
  let c ← context
  let controller : Artifact.Controller := { entity := c.entity, settings := c.settings, deps, options }
  let _ ← p.place (controller.template (p.layout.packageOf directory)) directory

theorem setDirs_apply {σ : Type} (change : Directories → Directories) (s : Session σ) :
    setDirs change s = (.ok (), { s with context := { s.context with dirs := change s.context.dirs } }) := rfl

theorem controllerDir_apply {σ : Type} (p : Planner σ) (s : Session σ) :
    p.controllerDir s = match p.serviceDir s with
      | (.error f, t) => (.error f, t)
      | (.ok service, t) =>
        match p.controllerDir? t ((p.layout.parent? service).getD p.layout.javaRoot) with
        | some d => (.ok d, t)
        | none => p.subdir ((p.layout.parent? service).getD p.layout.javaRoot) "controller" t := by
  unfold Planner.controllerDir
  rw [Effect.bind_apply]
  rcases p.serviceDir s with ⟨f | service, t⟩
  · rfl
  · dsimp only
    rw [Effect.bind_apply, Effect.get_apply]
    dsimp only
    cases p.controllerDir? t ((p.layout.parent? service).getD p.layout.javaRoot) with
    | none => rfl
    | some d => rfl

theorem controllerStage_apply {σ : Type} (p : Planner σ) (s : Session σ) :
    p.controllerStage s = match p.controllerDir s with
      | (.error f, t) => (.error f, t)
      | (.ok d, t) => p.finishController (Planner.controllerOptions t.symbols) d t := by
  unfold Planner.controllerStage
  rw [Effect.bind_apply]
  rcases p.controllerDir s with ⟨f | d, t⟩
  · rfl
  · dsimp only
    unfold Planner.finishController
    rw [Effect.bind_apply, Effect.bind_apply, setDirs_apply]
    dsimp only
    rw [Effect.bind_apply, Effect.get_apply]

variable {p : Planner Memory} {E : Ending} {P : Prop}

theorem baseQuery?_apply (directory : String) (s : Session Memory) :
    p.baseQuery? directory s =
      match s.symbols.findWhere? (Planner.isOfKind .plain) Artifact.baseQueryName with
      | some h => (.ok (some h), { s with
          context := { s.context with handles := Entries.put .baseQuery h s.context.handles } })
      | none =>
        if s.context.settings.withSuper then
          let x := p.findOrPlace (fun _ => true) .baseQuery Artifact.baseQueryName directory
            Artifact.baseQueryTemplate s
          (x.1.map some, x.2)
        else (.ok none, s) := by
  unfold Planner.baseQuery?
  rw [Effect.bind_apply, classWhere?_apply]
  dsimp only
  rcases s.symbols.findWhere? (Planner.isOfKind .plain) Artifact.baseQueryName with _ | h
  · dsimp only
    rw [Effect.bind_apply, context_apply]
    dsimp only
    by_cases hw : s.context.settings.withSuper = true
    · rw [if_pos hw, if_pos hw, Effect.bind_apply]
      rcases p.findOrPlace _ _ _ _ _ s with ⟨_ | _, t⟩ <;> rfl
    · rw [if_neg hw, if_neg hw]
      rfl
  · rfl

theorem baseQuery?_of_ahead (hp : p.store = inSession Memory.store) (hE : E.Sound) {directory : String}
    {s : Session Memory} (hs : Ahead E (p.baseQuery? directory s).2) :
    Ahead E s ∧ Shares s (p.baseQuery? directory s).2 ∧ (s.context.settings.withSuper = true →
      Known (p.baseQuery? directory s).2.symbols (fun _ => true, Artifact.baseQueryName)) := by
  rw [baseQuery?_apply] at hs ⊢
  rcases hfind : s.symbols.findWhere? (Planner.isOfKind .plain) Artifact.baseQueryName with _ | h
  · rw [hfind] at hs
    dsimp only at hs ⊢
    by_cases hw : s.context.settings.withSuper = true
    · rw [if_pos hw] at hs ⊢
      obtain ⟨hback, hknown, hshares⟩ :=
        findOrPlace_of_ahead hp hE baseQuery_mem_bases isShared_baseQuery hs
      exact ⟨hback, hshares, fun _ => hknown⟩
    · rw [if_neg hw] at hs ⊢
      exact ⟨hs, .refl s, fun h => absurd h hw⟩
  · rw [hfind] at hs
    refine ⟨⟨hs.dirs, hs.products, hs.known⟩, .put s rfl h, fun _ => ?_⟩
    have hsimple := bases_simple _ baseQuery_mem_bases
    obtain ⟨k, hk, -⟩ := (Symbols.findWhere?_isSome hsimple s.symbols).1 (Option.isSome_iff_exists.2 ⟨h, hfind⟩)
    exact (Symbols.findWhere?_isSome hsimple s.symbols).2 ⟨k, hk, rfl⟩

namespace Repeats

theorem repositoryStage (hp : p.store = inSession Memory.store) (hE : E.Sound) :
    Repeats E P p.repositoryStage p.repositoryStage fun _ _ => True := by
  refine .bind (.besideContainer hp "repository") fun d d' => ?_
  refine .bind (.setDirs fun h _ => by rw [h.2]) fun _ _ => ?_
  refine .bind (.findOrPlace hp hE baseRepository_mem_bases isShared_baseRepository d d') fun base base' => ?_
  refine .bind .context fun c c' => ?_
  refine .bind (.place hp hE fun h => ⟨h.1.1.1.2, ?_, rfl⟩) fun _ _ => .pure fun _ => trivial
  rw [h.2.entity]
  exact sameFile_javaTemplate _ _ _ _ _ _ _ _

theorem placeAll (hp : p.store = inSession Memory.store) (hE : E.Sound) {directory other : String}
    {ts us : List Template} (h : List.Forall₂ SameFile ts us) (hk : ∀ t ∈ ts, t.kind.shared = false)
    (hd : P → other = directory) :
    Repeats E P (p.placeAll directory ts) (p.placeAll other us) fun _ _ => True := by
  induction h generalizing P with
  | nil => exact .pure fun _ => trivial
  | cons htu _ ih =>
    refine .bind (.place hp hE fun hP => ⟨hd hP, htu, hk _ List.mem_cons_self⟩) fun _ _ => ?_
    exact ih (fun t ht => hk t (List.mem_cons_of_mem _ ht)) fun h => hd h.1

theorem sameFile_dto (e : Entity) (s : Settings) (package last : String) (base other : Option Handle) :
    List.Forall₂ SameFile (Artifact.dtoTemplates e s package base) (Artifact.dtoTemplates e s last other) := by
  have hdtos : List.Forall₂ (fun d d' : Artifact.Dto => d'.kind = d.kind ∧ d'.name = d.name)
      (Artifact.dtos e s base) (Artifact.dtos e s other) := by
    unfold Artifact.dtos
    cases s.withSuper with
    | false => exact .cons ⟨rfl, rfl⟩ .nil
    | true => exact .cons ⟨rfl, rfl⟩ (.cons ⟨rfl, rfl⟩ (.cons ⟨rfl, rfl⟩ .nil))
  refine List.forall₂_map_left_iff.2 (List.forall₂_map_right_iff.2 (hdtos.imp fun d d' h => ?_))
  exact ⟨h.1, h.2, congrArg (· ++ ".java") h.2⟩

theorem dtoTemplates_own {e : Entity} {s : Settings} {package : String} {base : Option Handle} {t : Template}
    (h : t ∈ Artifact.dtoTemplates e s package base) : t.kind.shared = false := by
  have hmem : t.kind ∈ Artifact.dtoKinds s := by
    rw [← Artifact.dtoTemplates_kinds e s package base]
    exact List.mem_map_of_mem h
  have hall : ∀ k ∈ Artifact.dtoKinds s, k.shared = false := by
    unfold Artifact.dtoKinds
    cases s.withSuper <;> decide
  exact hall _ hmem

theorem dtoStage (hp : p.store = inSession Memory.store) (hE : E.Sound) :
    Repeats E P p.dtoStage p.dtoStage fun _ _ => True := by
  refine .bind (.belowService hp "dto") fun d d' => ?_
  refine .bind (.setDirs fun h _ => by rw [h.2]) fun _ _ => ?_
  refine .bind (V := fun _ _ => True) (.of_state (fun _ => rfl) (fun _ => rfl)
    fun _ _ _ _ _ _ => ⟨_, rfl, trivial⟩) fun base base' => ?_
  refine .bind .context fun c c' => ?_
  refine .congr (.placeAll hp hE (sameFile_dto c.entity c.settings _ (p.layout.packageOf d') base base')
    (fun t ht => dtoTemplates_own ht) fun h => h.1.1.1.2) fun h => ?_
  rw [h.2.entity, h.2.settings]

theorem mapperStage (hp : p.store = inSession Memory.store) (hE : E.Sound) :
    Repeats E P p.mapperStage p.mapperStage fun _ _ => True := by
  refine .bind (.belowService hp "mapper") fun d d' => ?_
  refine .bind (.setDirs fun h _ => by rw [h.2]) fun _ _ => ?_
  refine .bind (.findOrPlace hp hE entityMapper_mem_bases isShared_entityMapper d d') fun _ _ => ?_
  refine .bind (.require rfl) fun dto dto' => ?_
  refine .bind .context fun c c' => ?_
  refine .bind (.place hp hE fun h => ⟨h.1.1.1.1.2, ?_, rfl⟩) fun _ _ => .pure fun _ => trivial
  rw [h.2.entity]
  exact sameFile_javaTemplate _ _ _ _ _ _ _ _

theorem baseQuery? (hp : p.store = inSession Memory.store) (hE : E.Sound) (directory other : String) :
    Repeats E P (p.baseQuery? directory) (p.baseQuery? other) fun _ _ => True := by
  refine ⟨fun s hs => (baseQuery?_of_ahead hp hE hs).1, fun _ s t he a ha hs => ?_⟩
  obtain ⟨-, hshares, hknown⟩ := baseQuery?_of_ahead hp hE hs
  have hend := he.of_shares hshares
  rw [baseQuery?_apply other t]
  rcases t.symbols.findWhere? (Planner.isOfKind .plain) Artifact.baseQueryName with _ | k
  · dsimp only
    by_cases hw : t.context.settings.withSuper = true
    · rw [if_pos hw]
      rw [he.context.settings] at hw
      obtain ⟨k, hfind⟩ := he.find baseQuery_mem_bases hs (hknown hw)
      rw [findOrPlace_of_known hfind]
      exact ⟨some k, _, rfl, hend.put rfl k, trivial⟩
    · rw [if_neg hw]
      exact ⟨none, t, rfl, hend, trivial⟩
  · exact ⟨some k, _, rfl, hend.put rfl k, trivial⟩

theorem queryStage (hp : p.store = inSession Memory.store) (hE : E.Sound) :
    Repeats E P p.queryStage p.queryStage fun _ _ => True := by
  refine .bind (.belowService hp "query") fun d d' => ?_
  refine .bind (.setDirs fun h _ => by rw [h.2]) fun _ _ => ?_
  refine .bind (.baseQuery? hp hE d d') fun base base' => ?_
  refine .bind .context fun c c' => ?_
  refine .bind (.place hp hE fun h => ⟨h.1.1.1.2, ?_, rfl⟩) fun _ _ => .pure fun _ => trivial
  rw [h.2.entity]
  exact sameFile_javaTemplate _ _ _ _ _ _ _ _

theorem sameFile_mapping {m n : Artifact.Mapping} (h : n.dao.name = m.dao.name) :
    SameFile m.template n.template := by
  have hname : n.dao.name ++ ".xml" = m.dao.name ++ ".xml" := congrArg (· ++ ".xml") h
  exact ⟨rfl, hname, hname⟩

theorem daoStage (hp : p.store = inSession Memory.store) (hE : E.Sound) :
    Repeats E P p.daoStage p.daoStage fun _ _ => True := by
  refine .bind (.besideContainer hp "dao") fun d d' => ?_
  refine .bind (.setDirs fun h _ => by rw [h.2]) fun _ _ => ?_
  refine .bind (.require rfl) fun query query' => ?_
  refine .bind .context fun c c' => ?_
  refine .bind (.place hp hE fun h => ⟨h.1.1.1.2, ?_, rfl⟩) fun _ _ => ?_
  · rw [h.2.entity]
    exact sameFile_javaTemplate _ _ _ _ _ _ _ _
  refine .bind (.require rfl) fun dao dao' => ?_
  refine .bind (.subdir hp fun _ => rfl) fun mappers mappers' => ?_
  refine .bind (.setDirs fun h _ => by rw [h.2]) fun _ _ => ?_
  refine .bind .context fun x x' => ?_
  refine .bind (.placeFile hp hE fun h => ⟨h.1.1.2, sameFile_mapping h.1.1.1.2, rfl⟩) fun _ _ => ?_
  exact .setContext (fun _ => rfl) fun _ _ _ h => ⟨h.entity, h.settings, h.dirs, h.products, h.handles⟩

theorem serviceDeps : Repeats E P Planner.serviceDeps Planner.serviceDeps fun _ _ => True := by
  refine .bind (.require rfl) fun _ _ => .bind (.require rfl) fun _ _ => .bind (.require rfl) fun _ _ => ?_
  exact .bind (.require rfl) fun _ _ => .bind (.require rfl) fun _ _ => .pure fun _ => trivial

theorem serviceStage (hp : p.store = inSession Memory.store) (hE : E.Sound) :
    Repeats E P p.serviceStage p.serviceStage fun _ _ => True := by
  refine .bind (.serviceDir hp) fun d d' => ?_
  refine .bind .serviceDeps fun deps deps' => ?_
  refine .bind .context fun c c' => ?_
  refine .ite (fun h => by rw [h.2.settings]) ?_ ?_
  · refine .bind (.placeClass hp hE fun h => ⟨h.1.1.2, ?_, rfl⟩) fun interface interface' => ?_
    · rw [h.2.entity]
      exact sameFile_javaTemplate _ _ _ _ _ _ _ _
    refine .bind (.subdir hp fun h => h.1.1.1.2) fun below below' => ?_
    refine .bind (.setDirs fun h _ => by rw [h.2]) fun _ _ => ?_
    refine .bind (.place hp hE fun h => ⟨h.1.2, ?_, rfl⟩) fun _ _ => .pure fun _ => trivial
    rw [h.1.1.1.2.entity]
    exact sameFile_javaTemplate _ _ _ _ _ _ _ _
  · refine .bind (.place hp hE fun h => ⟨h.1.1.2, ?_, rfl⟩) fun _ _ => .pure fun _ => trivial
    rw [h.2.entity]
    exact sameFile_javaTemplate _ _ _ _ _ _ _ _

theorem sameFile_page (e : Entity) (fields others : List Entity.Field) (url last : String) :
    SameFile (Artifact.pageTemplate e fields url) (Artifact.pageTemplate e others last) := ⟨rfl, rfl, rfl⟩

theorem pageStage (hp : p.store = inSession Memory.store) (hE : E.Sound) :
    Repeats E P p.pageStage p.pageStage fun _ _ => True := by
  refine .bind (.subdir hp fun _ => rfl) fun ui ui' => ?_
  refine .bind (.subdir hp fun h => h.2) fun views views' => ?_
  refine .bind (.setDirs fun h _ => by rw [h.2]) fun _ _ => ?_
  refine .bind .context fun c c' => ?_
  refine .bind (.placeFile hp hE fun h => ⟨h.1.1.2, ?_, rfl⟩) fun _ _ => ?_
  · rw [h.2.entity]
    exact sameFile_page _ _ _ _ _
  · exact .setContext (fun _ => rfl) fun _ _ _ h => ⟨h.entity, h.settings, h.dirs, h.products, h.handles⟩

theorem controllerDeps : Repeats E P Planner.controllerDeps Planner.controllerDeps fun _ _ => True := by
  refine .bind (.require rfl) fun _ _ => .bind (.require rfl) fun _ _ => .bind (.require rfl) fun _ _ => ?_
  exact .bind .context fun _ _ => .pure fun _ => trivial

theorem sameFile_controller {a b : Artifact.Controller} (h : b.name = a.name) (package last : String) :
    SameFile (a.template package) (b.template last) := by
  unfold Artifact.Controller.template
  rw [h]
  exact sameFile_javaTemplate _ _ _ _ _ _ _ _

theorem finishController (hp : p.store = inSession Memory.store) (hE : E.Sound) {d d' : String}
    {o o' : Artifact.ControllerOptions} (h : P → d' = d ∧ o'.suffix = o.suffix) :
    Repeats E P (p.finishController o d) (p.finishController o' d') fun _ _ => True := by
  refine .bind (.setDirs fun hP _ => by rw [(h hP).1]) fun _ _ => .bind .controllerDeps fun deps deps' => ?_
  refine .bind .context fun c c' => ?_
  refine .bind (.place hp hE fun hP => ⟨(h hP.1.1.1).1, ?_, rfl⟩) fun _ _ => .pure fun _ => trivial
  obtain ⟨-, hsuffix⟩ := h hP.1.1.1
  have hname : c'.entity.baseName ++ o'.suffix = c.entity.baseName ++ o.suffix := by
    rw [hP.2.entity, hsuffix]
  apply sameFile_controller
  exact hname

theorem perform (hp : p.store = inSession Memory.store) (hE : E.Sound) {stage : Stage}
    (h : stage ≠ .controller) : Repeats E P (p.perform stage) (p.perform stage) fun _ _ => True := by
  cases stage with
  | validateEntity => exact .pure fun _ => trivial
  | repository => exact .repositoryStage hp hE
  | dto => exact .dtoStage hp hE
  | mapper => exact .mapperStage hp hE
  | query => exact .queryStage hp hE
  | dao => exact .daoStage hp hE
  | service => exact .serviceStage hp hE
  | controller => exact absurd rfl h
  | page => exact .pageStage hp hE

theorem through (hp : p.store = inSession Memory.store) (hE : E.Sound) {stages : List Stage}
    (h : .controller ∉ stages) : Repeats E P (p.through stages) (p.through stages) fun _ _ => True := by
  induction stages generalizing P with
  | nil => exact .pure fun _ => trivial
  | cons stage rest ih =>
    refine .bind (.perform hp hE fun hstage => h (hstage ▸ List.mem_cons_self)) fun _ _ => ?_
    exact ih fun hmem => h (List.mem_cons_of_mem stage hmem)

end Repeats

end Scaffold.Run
