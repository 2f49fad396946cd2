import Scaffold.Proofs.Run.Reuse

/-! The order of the stages: each finds the classes that it needs, because those before it give them. Only the
store ends a run early. -/

namespace Scaffold

namespace Source

/-- Reading a text ends in a tree, or in a fault of its tokens or of its grammar. -/
def decided (text : String) : Bool :=
  match Java.SourceUnit.read text with
  | .ok _ | .error (.lexical _) | .error .grammar => true
  | .error _ => false

theorem Declares.decided {text name : String} {kind : ClassKind} (h : Declares text name kind) :
    decided text = true := by
  obtain ⟨u, d, hu, -⟩ := h
  unfold Source.decided
  rw [hu]

theorem decided_of_fault {text : String} {f : Java.SourceFault} (h : Java.SourceUnit.read text = .error f) :
    decided text = (ReadFault.unreadable f).message?.isSome := by
  unfold decided
  rw [h]
  cases f <;> rfl

end Source

namespace Run

open Scaffold.Store (Memory)

variable {σ α β : Type}

/-- A store in a session that leaves the context alone and has no failures but its own. -/
structure Contained (S : Store (Session σ)) : Prop extends Steady S where
  makeDir_failure : ∀ {path s f t}, S.makeDir path s = (.error f, t) → f.origin = .store
  write_failure : ∀ {path content s f t}, S.write path content s = (.error f, t) → f.origin = .store

theorem contained_shows {view : σ → Memory} {S : Store σ} (hS : S.Shows view) : Contained (inSession S) where
  toSteady := steady_inSession S
  makeDir_failure {path s f t} h := by
    change onStore (S.makeDir path) s = _ at h
    rw [onStore_apply] at h
    rcases hS.makeDir path s.store with ⟨hok, -⟩ | ⟨g, hg, herr, -⟩
    · rw [hok] at h
      exact nomatch h
    · rw [herr] at h
      cases h
      exact hg
  write_failure {path content s f t} h := by
    change onStore (S.write path content) s = _ at h
    rw [onStore_apply] at h
    rcases hS.write path content s.store with ⟨hok, -⟩ | ⟨g, hg, herr, -⟩
    · rw [hok] at h
      exact nomatch h
    · rw [herr] at h
      cases h
      exact hg

theorem contained_memory (r : Store.Refusals) : Contained (inSession (Memory.store.refusing r)) :=
  contained_shows (Memory.shows_refusing r)

theorem Contained.createFile_failure {S : Store (Session σ)} (hS : Contained S) {directory name content : String}
    {s t : Session σ} {f : Failure} (h : S.createFile directory name content s = (.error f, t)) :
    f.origin = .store := by
  rcases hr : S.read s (Store.join directory name) with _ | held
  · rw [Store.createFile_of_absent hr] at h
    rcases hprepare : S.prepare directory s with ⟨g | _, u⟩ <;> rw [hprepare] at h
    · cases h
      rw [Store.prepare_apply] at hprepare
      split at hprepare
      · cases hprepare
      · exact hS.makeDir_failure hprepare
    · dsimp only at h
      rcases hwrite : S.write (Store.join directory name) (Store.normalize content) u with ⟨g | _, v⟩ <;>
        rw [hwrite] at h
      · cases h
        exact hS.write_failure hwrite
      · cases h
  · rw [Store.createFile_of_read hr] at h
    cases h

theorem Contained.createFile_context {S : Store (Session σ)} (hS : Contained S) (directory name content : String)
    (s : Session σ) : (S.createFile directory name content s).2.context = s.context :=
  Store.createFile_keeps (R := fun s t : Session σ => t.context = s.context) (fun _ => rfl)
    (fun h k => k.trans h) hS.makeDir hS.write directory name content s

theorem createFile_path {S : Store (Session σ)} {directory name content : String} {s t : Session σ}
    {placed : Store.Placed} (h : S.createFile directory name content s = (.ok placed, t)) :
    placed.path = Store.join directory name := by
  rcases hr : S.read s (Store.join directory name) with _ | held
  · rw [Store.createFile_of_absent hr] at h
    rcases hprepare : S.prepare directory s with ⟨f | _, u⟩ <;> rw [hprepare] at h
    · cases h
    · dsimp only at h
      rcases hwrite : S.write (Store.join directory name) (Store.normalize content) u with ⟨f | _, v⟩ <;>
        rw [hwrite] at h <;> cases h
      rfl
  · rw [Store.createFile_of_read hr] at h
    cases h
    rfl

theorem registration_failure {p : Planner σ} {t : Template} {content path directory : String} {symbols : Symbols}
    {f : Failure} (h : (p.registration t content path directory symbols).1 = .error f) :
    Source.decided content = false := by
  unfold Planner.registration Symbols.registerSource Source.handles at h
  rcases hread : Java.SourceUnit.read content with g | u <;> rw [hread] at h
  · rw [Source.decided_of_fault hread]
    cases hm : (Source.ReadFault.unreadable g).message? with
    | none => rfl
    | some reason =>
      dsimp only [Except.map] at h
      rw [hm] at h
      cases h
  · dsimp only [Except.map] at h
    split at h <;> cases h

/-- Why a step may fail all the same: the store does, or a class in its place cannot be decided. -/
def Excused (f : Failure) (c : Context) : Prop :=
  f.origin = .store ∨ ∃ a ∈ c.products, Text.endsWith a.path ".java" = true ∧ Source.decided a.content = false

/-- From contexts of `P`, a step leads to one of `Q`, unless its failure is excused. -/
def Leads (P : Context → Prop) (m : Step σ α) (Q : α → Context → Prop) : Prop :=
  ∀ s, P s.context → match m s with
    | (.ok a, t) => Q a t.context
    | (.error f, t) => Excused f t.context

namespace Leads

variable {P P' : Context → Prop} {Q Q' : α → Context → Prop} {m : Step σ α}

theorem ok (h : Leads P m Q) {s t : Session σ} {a : α} (hs : P s.context) (hm : m s = (.ok a, t)) :
    Q a t.context := by
  have hq := h s hs
  rwa [hm] at hq

theorem failed (h : Leads P m Q) {s t : Session σ} {f : Failure} (hs : P s.context) (hm : m s = (.error f, t)) :
    Excused f t.context := by
  have hq := h s hs
  rwa [hm] at hq

theorem pure {a : α} (h : ∀ c, P c → Q a c) : Leads P (pure a : Step σ α) Q := fun s hs => h s.context hs

theorem bind {R : β → Context → Prop} {f : α → Step σ β} (h : Leads P m Q) (hf : ∀ a, Leads (Q a) (f a) R) :
    Leads P (m >>= f) R := by
  intro s hs
  have hm := h s hs
  rw [Effect.bind_apply]
  rcases hx : m s with ⟨_ | a, t⟩ <;> rw [hx] at hm
  · exact hm
  · exact hf a t hm

theorem mono (h : Leads P m Q) (hP : ∀ c, P' c → P c) (hQ : ∀ a c, Q a c → Q' a c) : Leads P' m Q' := by
  intro s hs
  have hm := h s (hP _ hs)
  rcases hx : m s with ⟨_ | a, t⟩ <;> rw [hx] at hm
  · exact hm
  · exact hQ a _ hm

theorem weaken (h : Leads P m Q) (hQ : ∀ a c, Q a c → Q' a c) : Leads P m Q' := h.mono (fun _ h => h) hQ

theorem of_exists {ι : Sort*} {P : ι → Context → Prop} (h : ∀ i, Leads (P i) m Q) :
    Leads (fun c => ∃ i, P i c) m Q := fun s ⟨i, hi⟩ => h i s hi

theorem of_and {p : Prop} (h : p → Leads P m Q) : Leads (fun c => p ∧ P c) m Q := fun s ⟨hp, hs⟩ => h hp s hs

theorem get_bind {R : β → Context → Prop} {f : Session σ → Step σ β} (h : ∀ t, Leads P (f t) R) :
    Leads P (get >>= f) R := fun s hs => h s s hs

theorem keep (h : ∀ s, ∃ a t, m s = (.ok a, t) ∧ t.context = s.context) : Leads P m fun _ => P := by
  intro s hs
  obtain ⟨a, t, hm, ht⟩ := h s
  rw [hm]
  change P t.context
  rwa [ht]

theorem setContext {change : Context → Context} {Q : Context → Prop} (h : ∀ c, P c → Q (change c)) :
    Leads (σ := σ) P (setContext change) fun _ => Q := fun s hs => h s.context hs

theorem classWhere? (fits : Handle → Bool) (name : String) : Leads (σ := σ) P (classWhere? fits name) fun _ => P :=
  keep fun _ => ⟨_, _, rfl, rfl⟩

end Leads

def Stage.needs : Stage → List ArtifactKind
  | .mapper => [.dto]
  | .dao => [.query]
  | .service => [.dto, .query, .mapper, .repository, .dao]
  | .controller => [.service, .dto, .query]
  | .validateEntity | .repository | .dto | .query | .page => []

def Stage.gives : Stage → List ArtifactKind
  | .repository => [.repository]
  | .dto => [.dto]
  | .mapper => [.mapper]
  | .query => [.query]
  | .dao => [.dao]
  | .service => [.service]
  | .controller => [.controller]
  | .validateEntity | .page => []

/-- Stages each of which finds what it needs in what there is and in what the stages before it give. -/
def Supplied : List ArtifactKind → List Stage → Prop
  | _, [] => True
  | held, stage :: rest => stage.needs ⊆ held ∧ Supplied (stage.gives ++ held) rest

theorem supplied_stages (settings : Settings) : Supplied [] (stages settings) := by
  unfold stages
  cases settings.withPage <;> simp [Supplied, Stage.needs, Stage.gives]

def optional (b : Bool) (kind : ArtifactKind) : List ArtifactKind := if b then [kind] else []

/-- The kinds that a stage places. -/
def Stage.Places (q : Settings) : Stage → List ArtifactKind → Prop
  | .validateEntity, kinds => kinds = []
  | .repository, kinds => ∃ new, kinds = optional new .baseRepository ++ [.repository]
  | .dto, kinds => kinds = Artifact.dtoKinds q
  | .mapper, kinds => ∃ new, kinds = optional new .entityMapper ++ [.mapper]
  | .query, kinds => ∃ new, (new = true → q.withSuper = true) ∧ kinds = optional new .baseQuery ++ [.query]
  | .dao, kinds => kinds = [.dao, .daoXml]
  | .service, kinds => kinds = .service :: optional q.withInterface .serviceImpl
  | .controller, kinds => kinds = [.controller]
  | .page, kinds => kinds = [.page]

def AllPlace (q : Settings) : List Stage → List ArtifactKind → Prop
  | [], kinds => kinds = []
  | stage :: rest, kinds => ∃ first later, kinds = first ++ later ∧ stage.Places q first ∧ AllPlace q rest later

/-- A context of a run: its entity, its settings, the kinds of what was placed, and kinds with known classes. -/
structure Reached (e : Entity) (q : Settings) (kinds held : List ArtifactKind) (c : Context) : Prop where
  entity : c.entity = e
  settings : c.settings = q
  kinds : c.products.map (·.kind) = kinds
  held : ∀ k ∈ held, (c.handle? k).isSome = true

namespace Reached

variable {e : Entity} {q : Settings} {kinds held : List ArtifactKind} {c : Context}

theorem mono (h : Reached e q kinds held c) {fewer : List ArtifactKind} (hf : fewer ⊆ held) :
    Reached e q kinds fewer c := ⟨h.entity, h.settings, h.kinds, fun k hk => h.held k (hf hk)⟩

theorem put (h : Reached e q kinds held c) (kind : ArtifactKind) (x : Handle) :
    Reached e q kinds (kind :: held) { c with handles := Entries.put kind x c.handles } := by
  refine ⟨h.entity, h.settings, h.kinds, fun k hk => ?_⟩
  change ((Entries.put kind x c.handles).lookup k).isSome = true
  by_cases hkind : k = kind
  · rw [hkind, Entries.lookup_put_self]
    rfl
  · rw [Entries.lookup_put_ne hkind]
    exact h.held k (List.mem_of_ne_of_mem hkind hk)

theorem add (h : Reached e q kinds held c) (a : Product) :
    Reached e q (kinds ++ [a.kind]) held { c with products := c.products ++ [a] } :=
  ⟨h.entity, h.settings, by rw [List.map_append, h.kinds]; rfl, h.held⟩

end Reached

namespace Leads

variable {e : Entity} {q : Settings} {kinds held : List ArtifactKind}

theorem setDirs (change : Directories → Directories) :
    Leads (σ := σ) (Reached e q kinds held) (setDirs change) fun _ => Reached e q kinds held :=
  setContext fun _ h => ⟨h.entity, h.settings, h.kinds, h.held⟩

theorem setHandle (kind : ArtifactKind) (x : Handle) :
    Leads (σ := σ) (Reached e q kinds held) (setHandle kind x) fun _ => Reached e q kinds (kind :: held) :=
  setContext fun _ h => h.put kind x

theorem require {kind : ArtifactKind} (h : kind ∈ held) :
    Leads (σ := σ) (Reached e q kinds held) (require kind) fun _ => Reached e q kinds held := by
  intro s hs
  obtain ⟨x, hx⟩ := Option.isSome_iff_exists.1 (hs.held kind h)
  rw [require_apply, hx]
  exact hs

theorem context_bind {R : β → Context → Prop} {f : Context → Step σ β}
    (h : ∀ c, Reached e q kinds held c → Leads (Reached e q kinds held) (f c) R) :
    Leads (Reached e q kinds held) (Run.context >>= f) R := fun s hs => h s.context hs s hs

section Places

variable {p : Planner σ} (hS : Contained p.store)

include hS

theorem subdir {P : Context → Prop} (parent name : String) : Leads P (p.subdir parent name) fun _ => P := by
  refine keep fun s => ?_
  cases hdir : p.store.isDir s (Store.join parent name) with
  | true => exact ⟨_, _, p.subdir_of_isDir hdir, rfl⟩
  | false =>
    have hcontext := hS.makeDir (Store.join parent name) s
    rw [p.subdir_of_missing hdir]
    rcases hx : p.store.makeDir (Store.join parent name) s with ⟨f | _, t⟩ <;> rw [hx] at hcontext
    · dsimp only
      rw [if_pos (hS.makeDir_failure hx)]
      exact ⟨_, _, rfl, hcontext⟩
    · exact ⟨_, _, rfl, hcontext⟩

theorem serviceDir : Leads (Reached e q kinds held) p.serviceDir fun _ => Reached e q kinds held := by
  unfold Planner.serviceDir
  refine context_bind fun c _ => ?_
  dsimp only
  split
  · exact pure fun _ h => h
  · refine context_bind fun c _ => (subdir hS _ _).bind fun directory => ?_
    exact (setDirs _).bind fun _ => pure fun _ h => h

theorem belowService (name : String) :
    Leads (Reached e q kinds held) (p.belowService name) fun _ => Reached e q kinds held :=
  (serviceDir hS).bind fun directory => subdir hS directory name

theorem besideContainer (name : String) :
    Leads (Reached e q kinds held) (p.besideContainer name) fun _ => Reached e q kinds held := by
  unfold Planner.besideContainer
  refine context_bind fun c _ => ?_
  dsimp only
  split
  · exact pure fun _ h => h
  · exact subdir hS _ _

theorem controllerDir : Leads (Reached e q kinds held) p.controllerDir fun _ => Reached e q kinds held := by
  unfold Planner.controllerDir
  refine (serviceDir hS).bind fun service => get_bind fun s => ?_
  split
  · exact pure fun _ h => h
  · exact subdir hS _ _

theorem deposit (t : Template) (directory : String) :
    Leads (Reached e q kinds held) (p.deposit t directory) fun placed c =>
      placed.path = Store.join directory t.fileName ∧ productOf t placed ∈ c.products ∧
        Reached e q (kinds ++ [t.kind]) held c := by
  intro s hs
  have hcontext := hS.createFile_context directory t.fileName t.content s
  rw [p.deposit_apply]
  rcases hx : p.store.createFile directory t.fileName t.content s with ⟨f | placed, u⟩ <;> rw [hx] at hcontext
  · exact .inl (hS.createFile_failure hx)
  · rw [← hcontext] at hs
    exact ⟨createFile_path hx, List.mem_append_right _ (List.mem_singleton_self _), hs.add (productOf t placed)⟩

omit hS in
theorem register {t : Template} (hj : Planner.isJava t = true) {directory : String} {placed : Store.Placed}
    (hpath : placed.path = Store.join directory t.fileName) :
    Leads (fun c => productOf t placed ∈ c.products ∧ Reached e q kinds held c)
      (p.register t placed.content placed.path directory) fun _ => Reached e q kinds held := by
  rintro s ⟨hmem, hs⟩
  rw [p.register_apply]
  rcases hx : (p.registration t placed.content placed.path directory s.symbols).1 with f | h
  -- The source that stopped the reading is already among the artifacts, which excuses the step.
  · have hjava : Text.endsWith placed.path ".java" = true := by
      rw [hpath]
      exact Store.endsWith_join hj
    exact .inr ⟨_, hmem, hjava, registration_failure hx⟩
  · exact hs

theorem place {t : Template} (hj : Planner.isJava t = true) (directory : String) :
    Leads (Reached e q kinds held) (p.place t directory) fun h c =>
      h.isSome = true ∧ Reached e q (kinds ++ [t.kind]) (t.kind :: held) c := by
  rw [p.place_eq]
  refine (deposit hS t directory).bind fun placed => of_and fun hpath => ?_
  unfold Planner.adopt
  rw [if_pos hj]
  exact (register hj hpath).bind fun h => (setHandle _ h).bind fun _ => pure fun _ hc => ⟨rfl, hc⟩

theorem place_any (t : Template) (directory : String) :
    Leads (Reached e q kinds held) (p.place t directory) fun _ => Reached e q (kinds ++ [t.kind]) held := by
  cases hj : Planner.isJava t with
  | true => exact (place hS hj directory).weaken fun _ _ h => h.2.mono (List.subset_cons_self _ _)
  | false =>
    rw [p.place_eq]
    refine (deposit hS t directory).bind fun placed => ?_
    unfold Planner.adopt
    rw [if_neg (Bool.eq_false_iff.1 hj)]
    exact pure fun _ h => h.2.2

theorem placeFile (t : Template) (directory : String) :
    Leads (Reached e q kinds held) (p.placeFile t directory) fun _ => Reached e q (kinds ++ [t.kind]) held :=
  (place_any hS t directory).bind fun _ => context_bind fun _ _ => pure fun _ h => h

theorem placeClass {t : Template} (hj : Planner.isJava t = true) (directory : String) :
    Leads (Reached e q kinds held) (p.placeClass t directory) fun _ =>
      Reached e q (kinds ++ [t.kind]) (t.kind :: held) := by
  refine (place hS hj directory).bind fun h => of_and fun hh => ?_
  obtain ⟨x, rfl⟩ := Option.isSome_iff_exists.1 hh
  exact pure fun _ h => h

theorem findOrPlace {kind : ArtifactKind} {name : String} {template : String → Template}
    (hshared : ∀ package, IsShared kind name (template package)) (fits : Handle → Bool) (directory : String) :
    Leads (Reached e q kinds held) (p.findOrPlace fits kind name directory template) fun _ c =>
      ∃ new, Reached e q (kinds ++ optional new kind) held c := by
  unfold Planner.findOrPlace
  refine (classWhere? fits name).bind fun known => ?_
  have hfewer : held ⊆ kind :: held := List.subset_cons_self _ _
  cases known with
  | some h =>
    refine (setHandle kind h).bind fun _ => pure fun c hc => ⟨false, ?_⟩
    rw [show optional false kind = [] from rfl, List.append_nil]
    exact hc.mono hfewer
  | none =>
    refine (placeClass hS (hshared _).isJava directory).bind fun h => (setHandle kind h).bind fun _ => ?_
    refine pure fun c hc => ⟨true, ?_⟩
    rw [(hshared _).kind] at hc
    exact hc.mono fun k hmem => List.mem_cons_of_mem _ (hfewer hmem)

theorem placeAll (directory : String) : ∀ {ts : List Template} {kinds held : List ArtifactKind},
    (∀ t ∈ ts, Planner.isJava t = true) → Leads (Reached e q kinds held) (p.placeAll directory ts) fun _ =>
      Reached e q (kinds ++ ts.map (·.kind)) (ts.map (·.kind) ++ held)
  | [], kinds, held, _ => pure fun c hc => by simpa using hc
  | t :: ts, kinds, held, hj => by
    refine (place hS (hj t List.mem_cons_self) directory).bind fun _ => of_and fun _ => ?_
    refine (placeAll directory fun u hu => hj u (List.mem_cons_of_mem t hu)).weaken fun _ c hc => ?_
    rw [List.append_assoc] at hc
    exact hc.mono (by simp)

end Places

section Stages

variable {p : Planner σ} (hS : Contained p.store)

include hS

theorem repositoryStage : Leads (Reached e q kinds held) p.repositoryStage fun _ c =>
    ∃ new, Reached e q (kinds ++ (optional new .baseRepository ++ [.repository])) (.repository :: held) c := by
  refine (besideContainer hS _).bind fun directory => (setDirs _).bind fun _ => ?_
  refine (findOrPlace hS isShared_baseRepository _ _).bind fun base => ?_
  refine of_exists fun new => context_bind fun c _ => ?_
  refine (place hS (isJava_javaTemplate _ _ _ _ _) _).bind fun _ => pure fun c hc => ⟨new, ?_⟩
  rw [← List.append_assoc]
  exact hc.2

theorem dtoStage : Leads (Reached e q kinds held) p.dtoStage fun _ =>
    Reached e q (kinds ++ Artifact.dtoKinds q) (.dto :: held) := by
  refine (belowService hS _).bind fun directory => (setDirs _).bind fun _ => (classWhere? _ _).bind fun base => ?_
  refine context_bind fun c hc => (placeAll hS _ fun t ht => ?_).weaken fun _ d hd => ?_
  · obtain ⟨x, -, rfl⟩ := List.mem_map.1 ht
    exact isJava_javaTemplate _ _ _ _ _
  · rw [Artifact.dtoTemplates_kinds, hc.settings] at hd
    exact hd.mono (by simp [Artifact.dtoKinds])

theorem mapperStage (hdto : .dto ∈ held) : Leads (Reached e q kinds held) p.mapperStage fun _ c =>
    ∃ new, Reached e q (kinds ++ (optional new .entityMapper ++ [.mapper])) (.mapper :: held) c := by
  refine (belowService hS _).bind fun directory => (setDirs _).bind fun _ => ?_
  refine (findOrPlace hS isShared_entityMapper _ _).bind fun base => ?_
  refine of_exists fun new => (require hdto).bind fun dto => context_bind fun c _ => ?_
  refine (place hS (isJava_javaTemplate _ _ _ _ _) _).bind fun _ => pure fun c hc => ⟨new, ?_⟩
  rw [← List.append_assoc]
  exact hc.2

theorem baseQuery? (directory : String) : Leads (Reached e q kinds held) (p.baseQuery? directory) fun _ c =>
    ∃ new, (new = true → q.withSuper = true) ∧ Reached e q (kinds ++ optional new .baseQuery) held c := by
  refine (classWhere? _ _).bind fun known => ?_
  cases known with
  | some h =>
    refine (setHandle _ _).bind fun _ => pure fun c hc => ⟨false, nofun, ?_⟩
    rw [show optional false .baseQuery = [] from rfl, List.append_nil]
    exact hc.mono (List.subset_cons_self _ _)
  | none =>
    refine context_bind fun c hc => ?_
    split
    next hsuper =>
      refine (findOrPlace hS isShared_baseQuery _ _).bind fun base => ?_
      exact pure fun c ⟨new, hd⟩ => ⟨new, fun _ => hc.settings ▸ hsuper, hd⟩
    next =>
      refine pure fun c hd => ⟨false, nofun, ?_⟩
      rw [show optional false .baseQuery = [] from rfl, List.append_nil]
      exact hd

theorem queryStage : Leads (Reached e q kinds held) p.queryStage fun _ c =>
    ∃ new, (new = true → q.withSuper = true) ∧
      Reached e q (kinds ++ (optional new .baseQuery ++ [.query])) (.query :: held) c := by
  refine (belowService hS _).bind fun directory => (setDirs _).bind fun _ => (baseQuery? hS _).bind fun base => ?_
  refine of_exists fun new => of_and fun hnew => context_bind fun c _ => ?_
  refine (place hS (isJava_javaTemplate _ _ _ _ _) _).bind fun _ => pure fun c hc => ⟨new, hnew, ?_⟩
  rw [← List.append_assoc]
  exact hc.2

theorem daoStage (hquery : .query ∈ held) : Leads (Reached e q kinds held) p.daoStage fun _ =>
    Reached e q (kinds ++ [.dao, .daoXml]) (.dao :: held) := by
  refine (besideContainer hS _).bind fun directory => (setDirs _).bind fun _ => (require hquery).bind fun query => ?_
  refine context_bind fun c _ => (place hS (isJava_javaTemplate _ _ _ _ _) _).bind fun _ => of_and fun _ => ?_
  refine (require List.mem_cons_self).bind fun dao => (subdir hS _ _).bind fun mappers => (setDirs _).bind fun _ => ?_
  refine context_bind fun c _ => (placeFile hS _ _).bind fun path => setContext fun c hc => ?_
  rw [List.append_assoc] at hc
  exact ⟨hc.entity, hc.settings, hc.kinds, hc.held⟩

omit hS in
theorem serviceDeps (hneeds : Stage.service.needs ⊆ held) :
    Leads (σ := σ) (Reached e q kinds held) Planner.serviceDeps fun _ => Reached e q kinds held := by
  have hneed : ∀ k ∈ Stage.service.needs, k ∈ held := fun k hk => hneeds hk
  simp only [Stage.needs, List.forall_mem_cons] at hneed
  obtain ⟨hdto, hquery, hmapper, hrepository, hdao, -⟩ := hneed
  refine (require hdto).bind fun dto => (require hquery).bind fun query => (require hmapper).bind fun mapper => ?_
  exact (require hrepository).bind fun repository => (require hdao).bind fun dao => pure fun _ h => h

theorem serviceStage (hneeds : Stage.service.needs ⊆ held) : Leads (Reached e q kinds held) p.serviceStage fun _ =>
    Reached e q (kinds ++ .service :: optional q.withInterface .serviceImpl) (.service :: held) := by
  refine (serviceDir hS).bind fun directory => (serviceDeps hneeds).bind fun deps => context_bind fun c hc => ?_
  dsimp only
  rw [hc.settings]
  split
  next hinterface =>
    refine (placeClass hS (isJava_javaTemplate _ _ _ _ _) _).bind fun interface => ?_
    refine (subdir hS _ _).bind fun below => (setDirs _).bind fun _ => ?_
    refine (place hS (isJava_javaTemplate _ _ _ _ _) _).bind fun _ => pure fun c hc => ?_
    have hd := hc.2.mono (List.subset_cons_self _ _)
    rw [List.append_assoc] at hd
    rw [hinterface]
    exact hd
  next hclass =>
    refine (place hS (isJava_javaTemplate _ _ _ _ _) _).bind fun _ => pure fun c hc => ?_
    rw [Bool.eq_false_iff.2 hclass]
    exact hc.2

omit hS in
theorem controllerDeps (hneeds : Stage.controller.needs ⊆ held) :
    Leads (σ := σ) (Reached e q kinds held) Planner.controllerDeps fun _ => Reached e q kinds held := by
  have hneed : ∀ k ∈ Stage.controller.needs, k ∈ held := fun k hk => hneeds hk
  simp only [Stage.needs, List.forall_mem_cons] at hneed
  obtain ⟨hservice, hdto, hquery, -⟩ := hneed
  refine (require hservice).bind fun service => (require hdto).bind fun dto => (require hquery).bind fun query => ?_
  exact context_bind fun c _ => pure fun _ h => h

theorem controllerStage (hneeds : Stage.controller.needs ⊆ held) :
    Leads (Reached e q kinds held) p.controllerStage fun _ =>
      Reached e q (kinds ++ [.controller]) (.controller :: held) := by
  refine (controllerDir hS).bind fun directory => (setDirs _).bind fun _ => get_bind fun s => ?_
  refine (controllerDeps hneeds).bind fun deps => context_bind fun c _ => ?_
  exact (place hS (isJava_javaTemplate _ _ _ _ _) _).bind fun _ => pure fun c hc => hc.2

theorem pageStage : Leads (Reached e q kinds held) p.pageStage fun _ => Reached e q (kinds ++ [.page]) held := by
  refine (subdir hS _ _).bind fun ui => (subdir hS _ _).bind fun views => (setDirs _).bind fun _ => ?_
  refine context_bind fun c _ => (placeFile hS _ _).bind fun path => setContext fun c hc => ?_
  exact ⟨hc.entity, hc.settings, hc.kinds, hc.held⟩

/-- A stage that finds what it needs places what it has to, and gives what it promises. -/
theorem perform {stage : Stage} (hneeds : stage.needs ⊆ held) :
    Leads (Reached e q kinds held) (p.perform stage) fun _ c =>
      ∃ new, stage.Places q new ∧ Reached e q (kinds ++ new) (stage.gives ++ held) c := by
  cases stage with
  | validateEntity => exact pure fun c hc => ⟨[], rfl, by rwa [List.append_nil]⟩
  | repository => exact (repositoryStage hS).weaken fun _ c ⟨new, hc⟩ => ⟨_, ⟨new, rfl⟩, hc⟩
  | dto => exact (dtoStage hS).weaken fun _ c hc => ⟨_, rfl, hc⟩
  | mapper => exact (mapperStage hS (hneeds (by decide))).weaken fun _ c ⟨new, hc⟩ => ⟨_, ⟨new, rfl⟩, hc⟩
  | query => exact (queryStage hS).weaken fun _ c ⟨new, hnew, hc⟩ => ⟨_, ⟨new, hnew, rfl⟩, hc⟩
  | dao => exact (daoStage hS (hneeds (by decide))).weaken fun _ c hc => ⟨_, rfl, hc⟩
  | service => exact (serviceStage hS hneeds).weaken fun _ c hc => ⟨_, rfl, hc⟩
  | controller => exact (controllerStage hS hneeds).weaken fun _ c hc => ⟨_, rfl, hc⟩
  | page => exact (pageStage hS).weaken fun _ c hc => ⟨_, rfl, hc⟩

theorem through {stages : List Stage} (h : Supplied held stages) :
    Leads (Reached e q kinds held) (p.through stages) fun _ c =>
      ∃ new, AllPlace q stages new ∧ ∃ more, Reached e q (kinds ++ new) more c := by
  induction stages generalizing kinds held with
  | nil => exact pure fun c hc => ⟨[], rfl, held, by rwa [List.append_nil]⟩
  | cons stage rest ih =>
    -- What this stage gives is added to what the stages behind it may ask for.
    refine (perform hS h.1).bind fun _ => of_exists fun first => of_and fun hfirst => ?_
    refine (ih h.2).weaken fun _ c ⟨later, hlater, more, hc⟩ => ⟨first ++ later, ?_, more, ?_⟩
    · exact ⟨first, later, rfl, hfirst, hlater⟩
    · rwa [List.append_assoc] at hc

end Stages

end Leads

theorem Supplied.before {done later : List Stage} {held : List ArtifactKind} (h : Supplied held (done ++ later)) :
    Supplied held done := by
  induction done generalizing held with
  | nil => trivial
  | cons stage rest ih => exact ⟨h.1, ih h.2⟩

/-- The kinds of a complete run, given which of the shared classes it had to make. -/
def completeKinds (s : Settings) (repository mapper query : Bool) : List ArtifactKind :=
  optional repository .baseRepository ++ [.repository, .dto]
    ++ (if s.withSuper then [.dtoAdd, .dtoUpdate] else [])
    ++ optional mapper .entityMapper ++ [.mapper]
    ++ optional query .baseQuery ++ [.query, .dao, .daoXml, .service]
    ++ optional s.withInterface .serviceImpl ++ [.controller]
    ++ optional s.withPage .page

theorem AllPlace.complete {q : Settings} {kinds : List ArtifactKind} (h : AllPlace q (stages q) kinds) :
    ∃ repository mapper query, (query = true → q.withSuper = true) ∧
      kinds = completeKinds q repository mapper query := by
  obtain ⟨_, _, rfl, ⟨repository, rfl⟩, _, _, rfl, rfl, _, _, rfl, ⟨mapper, rfl⟩, _, _, rfl, ⟨query, hquery, rfl⟩,
    _, _, rfl, rfl, _, _, rfl, rfl, _, _, rfl, rfl, hpage⟩ := h
  refine ⟨repository, mapper, query, hquery, ?_⟩
  cases hp : q.withPage with
  | true =>
    rw [hp] at hpage
    obtain ⟨_, _, rfl, rfl, rfl⟩ := hpage
    simp [completeKinds, Artifact.dtoKinds, hp, optional]
  | false =>
    rw [hp] at hpage
    cases hpage
    simp [completeKinds, Artifact.dtoKinds, hp, optional]

/-- The fields that the settings of a run announce are fields of its entity. -/
structure Context.Backed (c : Context) : Prop where
  deleted : c.settings.withDeleted = (c.entity.findField? "deleted").isSome
  createTime : c.settings.withCreateTime = (c.entity.findField? "createTime").isSome
  userId : c.settings.withUserId = (c.entity.findField? "userId").isSome

theorem Context.backed {c : Context} {s : Settings} (h : c.settings = s.forEntity c.entity) : c.Backed where
  deleted := by rw [h, Entity.findField?_isSome]; rfl
  createTime := by rw [h, Entity.findField?_isSome]; rfl
  userId := by rw [h, Entity.findField?_isSome]; rfl

namespace Planner

variable {p : Planner σ}

/-- Where stages fail, one of them does, and the run ends with its failure. -/
theorem through_failure {stages : List Stage} {s t : Session σ} {f : Failure}
    (h : p.through stages s = (.error f, t)) : ∃ done stage later u, stages = done ++ stage :: later ∧
      p.through done s = (.ok (), u) ∧ p.perform stage u = (.error f, t) ∧
      p.performAll stages s = if f.abortsRun then aborted stage f t else (.error f, t) := by
  induction stages generalizing s with
  | nil => cases h
  | cons stage rest ih =>
    rw [through_cons] at h
    rw [performAll_cons]
    rcases hx : p.perform stage s with ⟨g | _, u⟩ <;> rw [hx] at h
    · cases h
      exact ⟨[], stage, rest, s, rfl, rfl, hx, rfl⟩
    · obtain ⟨done, last, later, v, hrest, hdone, hlast, hall⟩ := ih h
      refine ⟨stage :: done, last, later, v, by rw [hrest]; rfl, ?_, hlast, hall⟩
      rw [through_cons, hx]
      exact hdone

theorem through_of_failure {done later : List Stage} {stage : Stage} {s u t : Session σ} {f : Failure}
    (hdone : p.through done s = (.ok (), u)) (hstage : p.perform stage u = (.error f, t)) :
    p.through (done ++ stage :: later) s = (.error f, t) := by
  rw [through_append, hdone]
  dsimp only
  rw [through_cons, hstage]

theorem run_of_through {e : Entity} {directory : String} {s t : Session σ} (hs : s.busy = false)
    (he : e.isEntity = true) (h : p.through (stages p.settings) (p.started e directory s) = (.ok (), t)) :
    (p.run e directory s).1 = .ok { status := .completed, context := some t.context } := by
  rw [p.run_of_entity directory hs he, released_result, performAll_of_through h]
  rfl

theorem run_of_failure {e : Entity} {directory : String} {s t : Session σ} {f : Failure} (hs : s.busy = false)
    (he : e.isEntity = true) (h : p.through (stages p.settings) (p.started e directory s) = (.error f, t))
    (hf : f.origin = .store) : ∃ done stage later u, stages p.settings = done ++ stage :: later ∧
      p.through done (p.started e directory s) = (.ok (), u) ∧ p.perform stage u = (.error f, t) ∧
      (p.run e directory s).1 = .ok
        { status := .aborted, context := some t.context, failedStage := some stage, error := some f.message } := by
  obtain ⟨done, stage, later, u, hstages, hdone, hstage, hall⟩ := through_failure h
  have haborts : f.abortsRun = true := by simp [Failure.abortsRun, hf]
  refine ⟨done, stage, later, u, hstages, hdone, hstage, ?_⟩
  rw [p.run_of_entity directory hs he, released_result, hall, if_pos haborts]
  rfl

theorem reached_started (e : Entity) (directory : String) (s : Session σ) :
    Reached e (p.settings.forEntity e) [] [] (p.started e directory s).context :=
  ⟨rfl, rfl, rfl, nofun⟩

end Planner

/-- What the result of a run tells. Stages find the classes that they need, so only the store makes them fail. -/
structure Orderly (p : Planner σ) (e : Entity) (directory : String) (s : Session σ) (r : Result) : Prop where
  skipped : r.status = .skipped ↔ e.isEntity = false
  completed : r.status = .completed → ∃ repository mapper query, (query = true → p.settings.withSuper = true) ∧
    r.products.map (·.kind) = completeKinds p.settings repository mapper query
  aborted : r.status = .aborted → ∃ done stage later u f t, stages p.settings = done ++ stage :: later ∧
    p.through done (p.started e directory s) = (.ok (), u) ∧ p.perform stage u = (.error f, t) ∧
    f.origin = .store ∧ r.failedStage = some stage ∧ r.error = some f.message
  failures : e.isEntity = true → ∀ done stage later u f t, stages p.settings = done ++ stage :: later →
    p.through done (p.started e directory s) = (.ok (), u) → p.perform stage u = (.error f, t) → f.origin = .store
  contexts : ∀ done later u, stages p.settings = done ++ later →
    p.through done (p.started e directory s) = (.ok (), u) → u.context.entity = e ∧ u.context.Backed

section Ends

variable {p : Planner σ} {e : Entity} {directory : String} {s : Session σ}

theorem context_of_through (hS : Contained p.store) {done later : List Stage} {u : Session σ}
    (hstages : stages p.settings = done ++ later)
    (hdone : p.through done (p.started e directory s) = (.ok (), u)) : u.context.entity = e ∧ u.context.Backed := by
  have hbefore : Supplied [] done := (hstages ▸ supplied_stages p.settings).before
  obtain ⟨_, _, _, hreached⟩ := (Leads.through hS hbefore).ok (p.reached_started e directory s) hdone
  have hsettings := hreached.settings
  rw [← hreached.entity] at hsettings
  exact ⟨hreached.entity, Context.backed hsettings⟩

theorem failure_of_through (hS : Contained p.store) (hs : s.busy = false) (he : e.isEntity = true)
    (hread : ∀ a ∈ (p.run e directory s).2.context.products, Text.endsWith a.path ".java" = true →
      Source.decided a.content = true) {t : Session σ} {f : Failure}
    (h : p.through (stages p.settings) (p.started e directory s) = (.error f, t)) : f.origin = .store := by
  rw [p.run_products directory hs he, h] at hread
  rcases (Leads.through hS (supplied_stages p.settings)).failed (p.reached_started e directory s) h with
    hstore | ⟨a, ha, hjava, hopen⟩
  · exact hstore
  · exact absurd ((hread a ha hjava).symm.trans hopen) (by decide)

theorem run_orderly (hS : Contained p.store) (e : Entity) (directory : String) {s : Session σ}
    (hs : s.busy = false)
    (hread : ∀ a ∈ (p.run e directory s).2.context.products, Text.endsWith a.path ".java" = true →
      Source.decided a.content = true) :
    ∃ r, (p.run e directory s).1 = .ok r ∧ Orderly p e directory s r := by
  have hcontexts : ∀ done later u, stages p.settings = done ++ later →
      p.through done (p.started e directory s) = (.ok (), u) → u.context.entity = e ∧ u.context.Backed :=
    fun _ _ _ => context_of_through hS
  cases he : e.isEntity with
  | false =>
    rw [p.run_of_skipped directory hs he]
    have hplain : ¬ e.isEntity = true := by rw [he]; decide
    exact ⟨_, rfl, ⟨fun _ => he, fun _ => rfl⟩, nofun, nofun, fun h => absurd h hplain, hcontexts⟩
  | true =>
    have hskipped : ¬ e.isEntity = false := by rw [he]; decide
    have hfailures : e.isEntity = true → ∀ done stage later u f t, stages p.settings = done ++ stage :: later →
        p.through done (p.started e directory s) = (.ok (), u) → p.perform stage u = (.error f, t) →
        f.origin = .store := fun _ done stage later u f t hstages hdone hstage =>
      failure_of_through hS hs he hread (hstages ▸ Planner.through_of_failure hdone hstage)
    -- Whatever ends the stages is a failure of the store, so there is a result in either case.
    rcases hx : p.through (stages p.settings) (p.started e directory s) with ⟨f | _, t⟩
    · have hstore := failure_of_through hS hs he hread hx
      obtain ⟨done, stage, later, u, hstages, hdone, hstage, hrun⟩ := Planner.run_of_failure hs he hx hstore
      refine ⟨_, hrun, ⟨nofun, fun h => absurd h hskipped⟩, nofun, fun _ => ?_, hfailures, hcontexts⟩
      exact ⟨done, stage, later, u, f, t, hstages, hdone, hstage, hstore, rfl, rfl⟩
    · obtain ⟨kinds, hplaced, _, hreached⟩ :=
        (Leads.through hS (supplied_stages p.settings)).ok (p.reached_started e directory s) hx
      obtain ⟨repository, mapper, query, hquery, hkinds⟩ := AllPlace.complete hplaced
      refine ⟨_, Planner.run_of_through hs he hx, ⟨nofun, fun h => absurd h hskipped⟩, fun _ => ?_, nofun, hfailures,
        hcontexts⟩
      exact ⟨repository, mapper, query, hquery, hreached.kinds.trans hkinds⟩

end Ends

end Run

end Scaffold
