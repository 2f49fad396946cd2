import Scaffold.Proofs.Run.Homes
import Scaffold.Proofs.Run.Progress

/-! Runs put every artifact into a home of its kind, whatever the store does. What is asked of a store is to
keep up, from one piece of work to the next, what is known of its directories. -/

namespace Scaffold.Run

variable {σ α β : Type}

/-- What holds of a store as long as a run goes on, whatever it is asked for: what is known of its
directories, and the failures with which it lets a stage end. -/
structure Regime (p : Planner σ) where
  holds : Session σ → Prop
  terrain : Session σ → Terrain
  fails : Failure → Prop
  own : ∀ {f}, f.origin ≠ .store → fails f
  steady : Steady p.store
  roots : ∀ {s}, holds s → (terrain s).there p.layout.javaRoot ∧
    (terrain s).there p.layout.resourcesRoot ∧ (terrain s).there p.layout.projectRoot
  above : ∀ {s d u}, holds s → (terrain s).there d → p.layout.parent? d = some u → (terrain s).there u
  found : ∀ {s d}, holds s → p.store.isDir s d = true → (terrain s).there d
  aside : ∀ {s t}, t.store = s.store → s.log <+: t.log → holds s →
    holds t ∧ (terrain s).Extends (terrain t)
  subdir : ∀ {s parent} name, holds s → (terrain s).there parent →
    holds (p.subdir parent name s).2 ∧ (terrain s).Extends (terrain (p.subdir parent name s).2) ∧
      match (p.subdir parent name s).1 with
      | .ok d => (terrain (p.subdir parent name s).2).Below parent name d
      | .error f => fails f
  createFile : ∀ {s directory} name content, holds s → (terrain s).there directory →
    holds (p.store.createFile directory name content s).2 ∧
      (terrain s).Extends (terrain (p.store.createFile directory name content s).2) ∧
      ∀ f, (p.store.createFile directory name content s).1 = .error f → fails f

theorem Steady.createFile_context {S : Store (Session σ)} (hS : Steady S) (directory name content : String)
    (s : Session σ) : (S.createFile directory name content s).2.context = s.context :=
  Store.createFile_keeps (R := fun s t : Session σ => t.context = s.context) (fun _ => rfl)
    (fun h k => k.trans h) hS.makeDir hS.write directory name content s

theorem Steady.subdir_context {p : Planner σ} (hS : Steady p.store) (parent name : String) (s : Session σ) :
    (p.subdir parent name s).2.context = s.context := by
  cases hdir : p.store.isDir s (Store.join parent name) with
  | true => rw [p.subdir_of_isDir hdir]
  | false =>
    have hcontext := hS.makeDir (Store.join parent name) s
    rw [p.subdir_of_missing hdir]
    rcases hx : p.store.makeDir (Store.join parent name) s with ⟨f | _, t⟩ <;> rw [hx] at hcontext
    · dsimp only
      split
      · exact hcontext
      · exact hcontext
    · exact hcontext

theorem registration_origin {p : Planner σ} {t : Template} {content path directory : String} {symbols : Symbols}
    {f : Failure} (h : (p.registration t content path directory symbols).1 = .error f) :
    f.origin ≠ .store := by
  unfold Planner.registration at h
  rcases hsource : symbols.registerSource content (some path) with g | ⟨hs, known⟩ <;> rw [hsource] at h
  · dsimp only at h
    rcases hmessage : (Source.ReadFault.unreadable g).message? with _ | reason <;> rw [hmessage] at h <;> cases h
    exact nofun
  · dsimp only at h
    rcases hfind : hs.find? fun x => x.name == t.name with _ | x <;> rw [hfind] at h <;> cases h

theorem createFile_content {S : Store (Session σ)} {directory name content : String} {s t : Session σ}
    {placed : Store.Placed} (h : S.createFile directory name content s = (.ok placed, t))
    (hc : placed.created = true) : placed.content = Store.normalize content := by
  rcases hr : S.read s (Store.join directory name) with _ | held
  · rw [Store.createFile_of_absent hr] at h
    rcases hprepare : S.prepare directory s with ⟨f | _, u⟩ <;> rw [hprepare] at h
    · cases h
    · dsimp only at h
      rcases hwrite : S.write (Store.join directory name) (Store.normalize content) u with ⟨f | _, v⟩ <;>
        rw [hwrite] at h <;> cases h
      rfl
  · rw [Store.createFile_of_read hr] at h
    cases h
    exact nomatch hc

namespace Regime

variable {p : Planner σ} (R : Regime p) (e : Entity) (container : String)

/-- A session in the run of an entity whose artifacts are at home so far. -/
structure At (s : Session σ) : Prop where
  holds : R.holds s
  entity : s.context.entity = e
  origin : s.context.dirs.container = container
  there : (R.terrain s).there container
  service : s.context.dirs.service = "" ∨ p.ServiceHome (R.terrain s) container s.context.dirs.service
  dao : ∀ h, s.context.handle? .dao = some h → h.name = e.baseName ++ "Dao"
  housed : ∀ a ∈ s.context.products, ∃ t directory, Housed p (R.terrain s) e container a t directory

/-- A later session in the same run. -/
structure Later (s t : Session σ) : Prop where
  now : R.At e container t
  more : (R.terrain s).Extends (R.terrain t)

/-- From a session, a step leads to a later one, with a value of which `Q` holds or with a failure. -/
def Ends (s : Session σ) (m : Step σ α) (Q : α → Session σ → Prop) : Prop :=
  R.Later e container s (m s).2 ∧
    match (m s).1 with
    | .ok a => Q a (m s).2
    | .error f => R.fails f

variable {R e container} {s t u : Session σ}

theorem At.later (h : R.At e container s) : R.Later e container s s := ⟨h, .refl _⟩

theorem Later.trans (h : R.Later e container s t) (k : R.Later e container t u) : R.Later e container s u :=
  ⟨k.now, h.more.trans k.more⟩

/-- A session that keeps what later stages build on, with artifacts that are old or at home. -/
theorem At.renew (h : R.At e container s) (hh : R.holds t) (hx : (R.terrain s).Extends (R.terrain t))
    (he : t.context.entity = s.context.entity) (hc : t.context.dirs.container = s.context.dirs.container)
    (hs : t.context.dirs.service = s.context.dirs.service ∨
      p.ServiceHome (R.terrain s) container t.context.dirs.service)
    (hd : ∀ x, t.context.handle? .dao = some x → x.name = e.baseName ++ "Dao")
    (hp : ∀ a ∈ t.context.products, a ∈ s.context.products ∨
      ∃ template directory, Housed p (R.terrain s) e container a template directory) :
    R.Later e container s t := by
  refine ⟨⟨hh, he.trans h.entity, hc.trans h.origin, hx.there h.there, ?_, hd, fun a ha => ?_⟩, hx⟩
  · rcases hs with hs | hs
    · rw [hs]
      exact h.service.imp_right (·.extend hx)
    · exact .inr (hs.extend hx)
  · have hold : ∃ template directory, Housed p (R.terrain s) e container a template directory :=
      (hp a ha).elim (h.housed a) id
    obtain ⟨template, directory, hhoused⟩ := hold
    exact ⟨template, directory, hhoused.extend hx⟩

/-- Work that asks nothing of the store and only adds to the log. -/
theorem At.restate (h : R.At e container s) (hs : t.store = s.store) (hl : s.log <+: t.log)
    (he : t.context.entity = s.context.entity) (hc : t.context.dirs.container = s.context.dirs.container)
    (hservice : t.context.dirs.service = s.context.dirs.service ∨
      p.ServiceHome (R.terrain s) container t.context.dirs.service)
    (hd : ∀ x, t.context.handle? .dao = some x → x.name = e.baseName ++ "Dao")
    (hp : ∀ a ∈ t.context.products, a ∈ s.context.products ∨
      ∃ template directory, Housed p (R.terrain s) e container a template directory) :
    R.Later e container s t := by
  obtain ⟨hholds, hmore⟩ := R.aside hs hl h.holds
  exact h.renew hholds hmore he hc hservice hd hp

theorem At.move (h : R.At e container s) (hc : t.context = s.context) (hh : R.holds t)
    (hx : (R.terrain s).Extends (R.terrain t)) : R.Later e container s t :=
  h.renew hh hx (by rw [hc]) (by rw [hc]) (.inl (by rw [hc])) (by rw [hc]; exact h.dao)
    (by rw [hc]; exact fun _ => .inl)

theorem At.aside (h : R.At e container s) (hs : t.store = s.store) (hl : s.log <+: t.log)
    (hc : t.context = s.context) : R.Later e container s t :=
  h.move hc (R.aside hs hl h.holds).1 (R.aside hs hl h.holds).2

namespace Ends

variable {m : Step σ α} {Q : α → Session σ → Prop}

theorem pure {a : α} (h : R.At e container s) (hQ : Q a s) : R.Ends e container s (pure a) Q := ⟨h.later, hQ⟩

theorem bind {f : α → Step σ β} {Q' : β → Session σ → Prop} (h : R.Ends e container s m Q)
    (hf : ∀ a t, R.Later e container s t → Q a t → R.Ends e container t (f a) Q') :
    R.Ends e container s (m >>= f) Q' := by
  obtain ⟨hlater, hvalue⟩ := h
  unfold Ends
  rw [Effect.bind_apply]
  rcases hx : m s with ⟨x | a, t⟩ <;> rw [hx] at hlater hvalue
  · exact ⟨hlater, hvalue⟩
  · obtain ⟨hlast, hlastValue⟩ := hf a t hlater hvalue
    exact ⟨hlater.trans hlast, hlastValue⟩

theorem weaken {Q' : α → Session σ → Prop} (h : R.Ends e container s m Q)
    (hQ : ∀ a t, R.Later e container s t → Q a t → Q' a t) : R.Ends e container s m Q' := by
  obtain ⟨hlater, hvalue⟩ := h
  refine ⟨hlater, ?_⟩
  rcases hx : m s with ⟨x | a, t⟩ <;> rw [hx] at hlater hvalue
  · exact hvalue
  · exact hQ a t hlater hvalue

theorem get_bind {f : Session σ → Step σ β} {Q' : β → Session σ → Prop}
    (h : R.Ends e container s (f s) Q') : R.Ends e container s (get >>= f) Q' := h

theorem context_bind {f : Context → Step σ β} {Q' : β → Session σ → Prop}
    (h : R.Ends e container s (f s.context) Q') : R.Ends e container s (context >>= f) Q' := h

theorem classWhere?_bind {fits : Handle → Bool} {name : String} {f : Option Handle → Step σ β}
    {Q' : β → Session σ → Prop} (h : ∀ x, R.Ends e container s (f x) Q') :
    R.Ends e container s (classWhere? fits name >>= f) Q' := h _

theorem throw {f : Failure} (h : R.At e container s) (hf : f.origin ≠ .store) :
    R.Ends e container s (throw f : Step σ α) Q := ⟨h.later, R.own hf⟩

theorem setContext {change : Context → Context} (h : R.At e container s)
    (he : (change s.context).entity = s.context.entity)
    (hc : (change s.context).dirs.container = s.context.dirs.container)
    (hs : (change s.context).dirs.service = s.context.dirs.service ∨
      p.ServiceHome (R.terrain s) container (change s.context).dirs.service)
    (hd : ∀ x, (change s.context).handle? .dao = some x → x.name = e.baseName ++ "Dao")
    (hp : (change s.context).products = s.context.products) :
    R.Ends e container s (Run.setContext change) fun _ _ => True :=
  ⟨h.restate rfl (List.prefix_refl _) he hc hs hd fun _ ha => .inl (hp ▸ ha), trivial⟩

theorem setDirs {change : Directories → Directories} (h : R.At e container s)
    (hc : ∀ d, (change d).container = d.container)
    (hs : (change s.context.dirs).service = s.context.dirs.service ∨
      p.ServiceHome (R.terrain s) container (change s.context.dirs).service) :
    R.Ends e container s (setDirs change) fun _ _ => True :=
  setContext h rfl (hc _) hs h.dao rfl

theorem setHandle {kind : ArtifactKind} {x : Handle} (h : R.At e container s)
    (hx : kind = .dao → x.name = e.baseName ++ "Dao") :
    R.Ends e container s (setHandle kind x) fun _ _ => True := by
  refine setContext h rfl rfl (.inl rfl) (fun y hy => ?_) rfl
  change (Entries.put kind x s.context.handles).lookup .dao = some y at hy
  by_cases hkind : kind = .dao
  · rw [hkind, Entries.lookup_put_self] at hy
    cases hy
    exact hx hkind
  · rw [Entries.lookup_put_ne (Ne.symm hkind)] at hy
    exact h.dao y hy

theorem require (h : R.At e container s) (kind : ArtifactKind) :
    R.Ends e container s (require kind) fun x t => t = s ∧ (kind = .dao → x.name = e.baseName ++ "Dao") := by
  unfold Ends
  rw [require_apply]
  rcases hk : s.context.handle? kind with _ | x
  · exact ⟨h.later, R.own nofun⟩
  · refine ⟨h.later, rfl, fun hkind => h.dao x ?_⟩
    rw [← hkind, hk]

theorem subdir (h : R.At e container s) {parent : String} (hp : (R.terrain s).there parent) (name : String) :
    R.Ends e container s (p.subdir parent name) fun d t => (R.terrain t).Below parent name d := by
  obtain ⟨hholds, hmore, hvalue⟩ := R.subdir name h.holds hp
  refine ⟨h.move (R.steady.subdir_context parent name s) hholds hmore, ?_⟩
  rcases hx : (p.subdir parent name s).1 with f | d <;> rw [hx] at hvalue
  · exact hvalue
  · exact hvalue

theorem there_serviceBase (h : R.At e container s) : (R.terrain s).there (p.serviceBase container) := by
  unfold Planner.serviceBase
  rcases hp : p.layout.parent? container with _ | parent
  · exact h.there
  · have hparent := R.above h.holds h.there hp
    dsimp only
    rcases hq : p.layout.parent? parent with _ | above
    · exact hparent
    · exact R.above h.holds hparent hq

theorem serviceDir (h : R.At e container s) :
    R.Ends e container s p.serviceDir fun d t => p.ServiceHome (R.terrain t) container d := by
  unfold Planner.serviceDir
  refine context_bind ?_
  dsimp only
  split
  next hknown => exact pure h (h.service.resolve_left (bne_iff_ne.1 hknown))
  next =>
    refine context_bind ?_
    rw [h.origin]
    refine (subdir h (there_serviceBase h) "service").bind fun d t ht hd => ?_
    refine .bind (setDirs ht.now (fun _ => rfl) (.inr hd)) fun _ u hu _ => ?_
    exact pure hu.now (hd.extend hu.more)

theorem belowService (h : R.At e container s) (name : String) :
    R.Ends e container s (p.belowService name) fun d t => p.BelowServiceHome (R.terrain t) container name d := by
  refine (serviceDir h).bind fun service t ht hservice => ?_
  refine (subdir ht.now hservice.1 name).weaken fun d u hu hd => ?_
  exact ⟨service, hservice.extend hu.more, hd⟩

theorem besideContainer (h : R.At e container s) (name : String) :
    R.Ends e container s (p.besideContainer name) fun d t => p.BesideHome (R.terrain t) container name d := by
  unfold Planner.besideContainer Planner.BesideHome
  refine context_bind ?_
  rw [h.origin]
  dsimp only
  rcases hp : p.layout.parent? container with _ | parent
  · exact pure h ⟨h.there, rfl⟩
  · exact (subdir h (R.above h.holds h.there hp) name).weaken fun d t _ hd => ⟨hd.1, hd⟩

theorem there_of_findSubdir? (h : R.At e container s) {parent name d : String}
    (hd : p.store.findSubdir? s parent name = some d) :
    d = Store.join parent name ∧ (R.terrain s).there d := by
  unfold Store.findSubdir? at hd
  dsimp only at hd
  split at hd
  next hdir =>
    cases hd
    exact ⟨rfl, R.found h.holds hdir⟩
  next => exact nomatch hd

/-- A directory for controllers that is found is one of the three that are looked for. -/
theorem there_of_controllerDir? (h : R.At e container s) {parent d : String}
    (hd : p.controllerDir? s parent = some d) :
    (R.terrain s).Below parent "controller" d ∨ ((R.terrain s).there d ∧
      (d = Store.join parent "web" ∨ d = Store.join (Store.join parent "web") "rest")) := by
  unfold Planner.controllerDir? at hd
  rcases hc : p.store.findSubdir? s parent "controller" with _ | c <;> rw [hc] at hd
  · rw [Option.none_or] at hd
    obtain ⟨web, hweb, hd⟩ := Option.map_eq_some_iff.1 hd
    obtain ⟨rfl, hthere⟩ := there_of_findSubdir? h hweb
    refine .inr ?_
    rcases hrest : p.store.findSubdir? s (Store.join parent "web") "rest" with _ | rest <;> rw [hrest] at hd
    · cases hd
      exact ⟨hthere, .inl rfl⟩
    · cases hd
      obtain ⟨hjoin, hrestThere⟩ := there_of_findSubdir? h hrest
      exact ⟨hrestThere, .inr hjoin⟩
  · cases hd
    obtain ⟨hjoin, hthere⟩ := there_of_findSubdir? h hc
    exact .inl ⟨hthere, .inl hjoin⟩

theorem controllerDir (h : R.At e container s) :
    R.Ends e container s p.controllerDir fun d t => p.ControllerHome (R.terrain t) container d := by
  unfold Planner.controllerDir
  refine (serviceDir h).bind fun service t ht hservice => ?_
  refine get_bind ?_
  have hparent : (R.terrain t).there ((p.layout.parent? service).getD p.layout.javaRoot) := by
    rcases hp : p.layout.parent? service with _ | parent
    · exact (R.roots ht.now.holds).1
    · exact R.above ht.now.holds hservice.1 hp
  rcases hfound : p.controllerDir? t ((p.layout.parent? service).getD p.layout.javaRoot) with _ | d
  · refine (subdir ht.now hparent "controller").weaken fun d u hu hd => ?_
    exact ⟨service, hservice.extend hu.more, .inl hd⟩
  · exact pure ht.now ⟨service, hservice, there_of_controllerDir? ht.now hfound⟩

theorem deposit (h : R.At e container s) {template : Template} {directory : String}
    (hd : p.Home (R.terrain s) container template.kind directory)
    (ht : Artifact.Addressed p.layout e template directory) :
    R.Ends e container s (p.deposit template directory) fun _ _ => True := by
  obtain ⟨hholds, hmore, hfails⟩ := R.createFile template.fileName template.content h.holds hd.there
  have hcontext := R.steady.createFile_context directory template.fileName template.content s
  unfold Ends
  rw [p.deposit_apply]
  rcases hx : p.store.createFile directory template.fileName template.content s with ⟨f | placed, u⟩ <;>
    rw [hx] at hholds hmore hfails hcontext
  · exact ⟨h.move hcontext hholds hmore, hfails f rfl⟩
  · have hu := h.move hcontext hholds hmore
    have hhoused : Housed p (R.terrain u) e container (productOf template placed) template directory :=
      ⟨ht, rfl, hd.extend hmore, createFile_path hx, createFile_content hx⟩
    refine ⟨hu.trans (hu.now.restate rfl (List.prefix_append _ _) rfl rfl (.inl rfl) hu.now.dao fun a ha => ?_),
      trivial⟩
    rcases List.mem_append.1 ha with ha | ha
    · exact .inl ha
    · rw [List.mem_singleton.1 ha]
      exact .inr ⟨template, directory, hhoused⟩

theorem adopt (h : R.At e container s) {template : Template} {directory : String}
    (ht : Artifact.Addressed p.layout e template directory) (placed : Store.Placed) :
    R.Ends e container s (p.adopt template directory placed) fun _ _ => True := by
  unfold Planner.adopt
  split
  · have hregister : R.Ends e container s (p.register template placed.content placed.path directory)
        fun x _ => x.name = template.name := by
      unfold Ends
      rw [p.register_apply]
      refine ⟨h.aside rfl (List.prefix_append _ _) rfl, ?_⟩
      rcases hx : (p.registration template placed.content placed.path directory s.symbols).1 with f | x
      · exact R.own (registration_origin hx)
      · exact p.registration_name hx
    refine hregister.bind fun x t hlater hname => ?_
    refine (setHandle hlater.now fun hkind => hname.trans (ht.dao_name hkind)).bind fun _ u hu _ => ?_
    exact pure hu.now trivial
  · exact pure h trivial

theorem place (h : R.At e container s) {template : Template} {directory : String}
    (hd : p.Home (R.terrain s) container template.kind directory)
    (ht : Artifact.Addressed p.layout e template directory) :
    R.Ends e container s (p.place template directory) fun _ _ => True := by
  rw [p.place_eq]
  exact (deposit h hd ht).bind fun placed t hlater _ => adopt hlater.now ht placed

theorem placeClass (h : R.At e container s) {template : Template} {directory : String}
    (hd : p.Home (R.terrain s) container template.kind directory)
    (ht : Artifact.Addressed p.layout e template directory) :
    R.Ends e container s (p.placeClass template directory) fun _ _ => True := by
  refine (place h hd ht).bind fun x t hlater _ => ?_
  cases x with
  | none => exact throw hlater.now nofun
  | some x => exact pure hlater.now trivial

theorem placeFile (h : R.At e container s) {template : Template} {directory : String}
    (hd : p.Home (R.terrain s) container template.kind directory)
    (ht : Artifact.Addressed p.layout e template directory) :
    R.Ends e container s (p.placeFile template directory) fun _ _ => True :=
  (place h hd ht).bind fun _ _ hlater _ => context_bind (pure hlater.now trivial)

theorem placeAll {directory : String} : ∀ {ts : List Template} {s : Session σ}, R.At e container s →
    (∀ t ∈ ts, p.Home (R.terrain s) container t.kind directory ∧
      Artifact.Addressed p.layout e t directory) →
    R.Ends e container s (p.placeAll directory ts) fun _ _ => True
  | [], s, h, _ => pure h trivial
  | t :: ts, s, h, ht => by
    have hfirst := ht t List.mem_cons_self
    refine (place h hfirst.1 hfirst.2).bind fun _ u hu _ => placeAll hu.now fun x hx => ?_
    have hlater := ht x (List.mem_cons_of_mem t hx)
    exact ⟨hlater.1.extend hu.more, hlater.2⟩

theorem findOrPlace (h : R.At e container s) {fits : Handle → Bool} {kind : ArtifactKind}
    {name directory : String} {template : String → Template} (hk : kind ≠ .dao)
    (hd : p.Home (R.terrain s) container (template (p.layout.packageOf directory)).kind directory)
    (ht : Artifact.Addressed p.layout e (template (p.layout.packageOf directory)) directory) :
    R.Ends e container s (p.findOrPlace fits kind name directory template) fun _ _ => True := by
  unfold Planner.findOrPlace
  refine classWhere?_bind fun known => ?_
  have hset (x : Handle) {t : Session σ} (ht : R.At e container t) :
      R.Ends e container t (Run.setHandle kind x >>= fun _ => Pure.pure x) fun _ _ => True :=
    (setHandle ht fun hdao => absurd hdao hk).bind fun _ u hu _ => pure hu.now trivial
  cases known with
  | none => exact (placeClass h hd ht).bind fun x t hlater _ => hset x hlater.now
  | some x => exact .bind (Q := fun _ _ => True) (pure h trivial) fun y t hlater _ => hset y hlater.now

section Stages

theorem repositoryStage (h : R.At e container s) :
    R.Ends e container s p.repositoryStage fun _ _ => True := by
  refine (besideContainer h "repository").bind fun d t ht hd => ?_
  refine .bind (setDirs ht.now (fun _ => rfl) (.inl rfl)) fun _ u hu _ => ?_
  refine .bind (findOrPlace hu.now nofun (hd.extend hu.more) .baseRepository) fun base v hv _ => ?_
  refine context_bind ?_
  have hhome : p.Home (R.terrain v) container .repository d := (hd.extend hu.more).extend hv.more
  rw [hv.now.entity]
  exact .bind (place hv.now hhome (.repository base)) fun _ _ hlater _ => pure hlater.now trivial

theorem home_dto {T : Terrain} {directory : String} (h : p.BelowServiceHome T container "dto" directory)
    {x : Entity} {settings : Settings} {package : String} {base : Option Handle} {t : Template}
    (ht : t ∈ Artifact.dtoTemplates x settings package base) : p.Home T container t.kind directory := by
  have hkind : t.kind ∈ Artifact.dtoKinds settings := by
    rw [← Artifact.dtoTemplates_kinds x settings package base]
    exact List.mem_map_of_mem ht
  unfold Artifact.dtoKinds at hkind
  have hkinds : t.kind = .dto ∨ t.kind = .dtoAdd ∨ t.kind = .dtoUpdate := by
    split at hkind
    · simpa using hkind
    · exact .inl (List.mem_singleton.1 hkind)
  rcases hkinds with hkind | hkind | hkind <;> rw [hkind] <;> exact h

theorem dtoStage (h : R.At e container s) : R.Ends e container s p.dtoStage fun _ _ => True := by
  refine (belowService h "dto").bind fun d t ht hd => ?_
  refine .bind (setDirs ht.now (fun _ => rfl) (.inl rfl)) fun _ u hu _ => ?_
  refine classWhere?_bind fun base => context_bind ?_
  rw [hu.now.entity]
  exact placeAll hu.now fun x hx => ⟨home_dto (hd.extend hu.more) hx, .dto hx⟩

theorem mapperStage (h : R.At e container s) : R.Ends e container s p.mapperStage fun _ _ => True := by
  refine (belowService h "mapper").bind fun d t ht hd => ?_
  refine .bind (setDirs ht.now (fun _ => rfl) (.inl rfl)) fun _ u hu _ => ?_
  refine .bind (findOrPlace hu.now nofun (hd.extend hu.more) .entityMapper) fun entityMapper v hv _ => ?_
  refine (require hv.now .dto).bind fun dto w hw _ => context_bind ?_
  have hhome := ((hd.extend hu.more).extend hv.more).extend hw.more
  rw [hw.now.entity]
  exact .bind (place hw.now hhome (.mapper dto entityMapper)) fun _ _ hlater _ => pure hlater.now trivial

theorem baseQuery? (h : R.At e container s) {directory : String}
    (hd : p.BelowServiceHome (R.terrain s) container "query" directory) :
    R.Ends e container s (p.baseQuery? directory) fun _ _ => True := by
  refine classWhere?_bind fun known => ?_
  cases known with
  | some x => exact .bind (setHandle h nofun) fun _ _ hlater _ => pure hlater.now trivial
  | none =>
    refine context_bind ?_
    split
    · exact .bind (findOrPlace h nofun hd .baseQuery) fun _ _ hlater _ => pure hlater.now trivial
    · exact pure h trivial

theorem queryStage (h : R.At e container s) : R.Ends e container s p.queryStage fun _ _ => True := by
  refine (belowService h "query").bind fun d t ht hd => ?_
  refine .bind (setDirs ht.now (fun _ => rfl) (.inl rfl)) fun _ u hu _ => ?_
  refine .bind (baseQuery? hu.now (hd.extend hu.more)) fun base v hv _ => context_bind ?_
  have hhome := (hd.extend hu.more).extend hv.more
  rw [hv.now.entity]
  exact .bind (place hv.now hhome (.query base)) fun _ _ hlater _ => pure hlater.now trivial

theorem daoStage (h : R.At e container s) : R.Ends e container s p.daoStage fun _ _ => True := by
  refine (besideContainer h "dao").bind fun d t ht hd => ?_
  refine .bind (setDirs ht.now (fun _ => rfl) (.inl rfl)) fun _ u hu _ => ?_
  refine (require hu.now .query).bind fun query v hv _ => context_bind ?_
  have hhome := (hd.extend hu.more).extend hv.more
  rw [hv.now.entity]
  refine .bind (place hv.now hhome (.dao _ query)) fun _ w hw _ => ?_
  refine (require hw.now .dao).bind fun dao x hx hdao => ?_
  refine (subdir hx.now (R.roots hx.now.holds).2.1 "mappers").bind fun mappers y hy hmappers => ?_
  refine .bind (setDirs hy.now (fun _ => rfl) (.inl rfl)) fun _ z hz _ => context_bind ?_
  rw [hz.now.entity]
  refine .bind (placeFile hz.now (hmappers.extend hz.more) (.mapping (hdao.2 rfl))) fun path v hv _ => ?_
  exact setContext hv.now rfl rfl (.inl rfl) hv.now.dao rfl

theorem serviceDeps (h : R.At e container s) :
    R.Ends e container s Planner.serviceDeps fun _ t => t = s := by
  refine (require h _).bind fun dto t ht htEq => ?_
  refine (require ht.now _).bind fun query u hu huEq => ?_
  refine (require hu.now _).bind fun mapper v hv hvEq => ?_
  refine (require hv.now _).bind fun repository w hw hwEq => ?_
  refine (require hw.now _).bind fun dao x hx hxEq => pure hx.now ?_
  rw [hxEq.1, hwEq.1, hvEq.1, huEq.1, htEq.1]

theorem serviceStage (h : R.At e container s) : R.Ends e container s p.serviceStage fun _ _ => True := by
  refine (serviceDir h).bind fun d t ht hd => ?_
  refine (serviceDeps ht.now).bind fun deps u hu _ => context_bind ?_
  have hhome := Terrain.Below.extend hd hu.more
  have hentity := hu.now.entity
  dsimp only
  split
  · refine .bind (placeClass hu.now hhome (.serviceInterface hentity)) fun interface v hv _ => ?_
    refine (subdir hv.now (hv.more.there hhome.1) "impl").bind fun below w hw hbelow => ?_
    refine .bind (setDirs hw.now (fun _ => rfl) (.inl rfl)) fun _ x hx _ => ?_
    have hservice : p.ServiceHome (R.terrain x) container d :=
      ((hhome.extend hv.more).extend hw.more).extend hx.more
    refine .bind (place hx.now ⟨d, hservice, hbelow.extend hx.more⟩ (.serviceImpl hentity interface)) ?_
    exact fun _ _ hlater _ => pure hlater.now trivial
  · exact .bind (place hu.now hhome (.service hentity)) fun _ _ hlater _ => pure hlater.now trivial

theorem controllerDeps (h : R.At e container s) :
    R.Ends e container s Planner.controllerDeps fun _ t => t = s := by
  refine (require h _).bind fun service t ht htEq => ?_
  refine (require ht.now _).bind fun dto u hu huEq => ?_
  refine (require hu.now _).bind fun query v hv hvEq => context_bind (pure hv.now ?_)
  rw [hvEq.1, huEq.1, htEq.1]

theorem controllerStage (h : R.At e container s) :
    R.Ends e container s p.controllerStage fun _ _ => True := by
  refine (controllerDir h).bind fun d t ht hd => ?_
  refine .bind (setDirs ht.now (fun _ => rfl) (.inl rfl)) fun _ u hu _ => get_bind ?_
  refine (controllerDeps hu.now).bind fun deps v hv _ => context_bind ?_
  have hhome := (hd.extend hu.more).extend hv.more
  let controller : Artifact.Controller := ⟨v.context.entity, v.context.settings, deps,
    Planner.controllerOptions u.symbols⟩
  have haddressed : Artifact.Addressed p.layout e (controller.template (p.layout.packageOf d)) d :=
    .controller hv.now.entity (Simulation.controllerOptions_suffix u.symbols)
  exact .bind (place hv.now hhome haddressed) fun _ _ hlater _ => pure hlater.now trivial

theorem pageStage (h : R.At e container s) : R.Ends e container s p.pageStage fun _ _ => True := by
  refine (subdir h (R.roots h.holds).2.2 "ui").bind fun ui t ht hui => ?_
  refine (subdir ht.now hui.1 "views").bind fun views u hu hviews => ?_
  refine .bind (setDirs hu.now (fun _ => rfl) (.inl rfl)) fun _ v hv _ => context_bind ?_
  have hhome : p.Home (R.terrain v) container .page views :=
    ⟨ui, (hui.extend hu.more).extend hv.more, hviews.extend hv.more⟩
  rw [hv.now.entity]
  refine .bind (placeFile hv.now hhome (.page _ _)) fun path w hw _ => ?_
  exact setContext hw.now rfl rfl (.inl rfl) hw.now.dao rfl

/-- Every stage puts its artifacts into their homes. -/
theorem perform (h : R.At e container s) (stage : Stage) :
    R.Ends e container s (p.perform stage) fun _ _ => True := by
  cases stage with
  | validateEntity => exact pure h trivial
  | repository => exact repositoryStage h
  | dto => exact dtoStage h
  | mapper => exact mapperStage h
  | query => exact queryStage h
  | dao => exact daoStage h
  | service => exact serviceStage h
  | controller => exact controllerStage h
  | page => exact pageStage h

theorem through (h : R.At e container s) (stages : List Stage) :
    R.Ends e container s (p.through stages) fun _ _ => True := by
  induction stages generalizing s with
  | nil => exact pure h trivial
  | cons stage rest ih => exact (perform h stage).bind fun _ t ht _ => ih ht.now

end Stages

end Ends

theorem at_started (hs : R.holds s) {directory : String}
    (hd : (R.terrain s).there (Store.stripSlashes directory)) :
    R.At e (Store.stripSlashes directory) (p.started e directory s) := by
  obtain ⟨hholds, hmore⟩ := R.aside (s := s) (t := p.started e directory s) rfl (List.prefix_refl _) hs
  exact ⟨hholds, rfl, rfl, hmore.there hd, .inl rfl, nofun, nofun⟩

theorem At.performAll (h : R.At e container s) (stages : List Stage) :
    R.Later e container s (p.performAll stages s).2 := by
  induction stages generalizing s with
  | nil => exact h.aside rfl (List.prefix_append _ _) rfl
  | cons stage rest ih =>
    obtain ⟨hlater, -⟩ := Ends.perform h stage
    rw [p.performAll_cons]
    rcases hx : p.perform stage s with ⟨f | _, t⟩ <;> rw [hx] at hlater
    · dsimp only
      split
      · exact hlater.trans (hlater.now.aside rfl (List.prefix_append _ _) rfl)
      · exact hlater
    · exact hlater.trans (ih hlater.now)

theorem at_run (R : Regime p) (hholds : R.holds s) {directory : String}
    (hd : (R.terrain s).there (Store.stripSlashes directory)) (hs : s.busy = false)
    (he : e.isEntity = true) : R.At e (Store.stripSlashes directory) (p.run e directory s).2 := by
  have hend := ((at_started (e := e) hholds hd).performAll (stages p.settings)).now
  rw [p.run_of_entity directory hs he]
  generalize p.performAll (stages p.settings) (p.started e directory s) = x at hend
  exact (hend.aside (t := (Planner.released x).2) rfl (List.prefix_refl _) rfl).now

/-- A run fails in no other way than its store allows. -/
theorem fails_of_through (R : Regime p) (hholds : R.holds s) {directory : String}
    (hd : (R.terrain s).there (Store.stripSlashes directory)) {stages : List Stage} {f : Failure}
    (h : p.through stages (p.started e directory s) = (.error f, t)) : R.fails f := by
  obtain ⟨-, hvalue⟩ := Ends.through (at_started (e := e) hholds hd) stages
  rw [h] at hvalue
  exact hvalue

end Regime

end Scaffold.Run
