import Scaffold.Proofs.Artifact.Readable
import Scaffold.Proofs.Run.Anatomy
import Scaffold.Proofs.Run.Paths
import Scaffold.Proofs.Run.Reuse

/-! The shared types that the artifacts of a run build on: where their classes come from, and of what kind these
are. -/

namespace Scaffold.Run

open Store (Memory)
open Artifact (sharedTemplate?)
open Java (IsJavaPackage)

variable {σ α β : Type}

/-- If a step succeeds, its value and the session after it are as wanted. -/
def Gives (s : Session σ) (m : Step σ α) (Q : α → Session σ → Prop) : Prop := ∀ a t, m s = (.ok a, t) → Q a t

namespace Gives

variable {s : Session σ} {m : Step σ α} {Q : α → Session σ → Prop}

theorem pure {a : α} (h : Q a s) : Gives s (pure a) Q := by
  rintro _ _ ⟨⟩
  exact h

theorem bind {f : α → Step σ β} {Q' : β → Session σ → Prop} (hm : Gives s m Q)
    (hf : ∀ a t, Q a t → Gives t (f a) Q') : Gives s (m >>= f) Q' := by
  intro b u h
  rw [Effect.bind_apply] at h
  rcases hx : m s with ⟨x | a, t⟩ <;> rw [hx] at h
  · exact nomatch h
  · exact hf a t (hm a t hx) b u h

theorem weaken {Q' : α → Session σ → Prop} (hm : Gives s m Q) (h : ∀ a t, Q a t → Q' a t) : Gives s m Q' :=
  fun a t ht => h a t (hm a t ht)

theorem of_keeps {R : Session σ → Session σ → Prop} (h : Effect.Keeps R m) (s : Session σ) :
    Gives s m fun _ t => R s t := by
  intro a t ht
  have hs := h s
  rw [ht] at hs
  exact hs

theorem and {Q' : α → Session σ → Prop} (h : Gives s m Q) (k : Gives s m Q') :
    Gives s m fun a t => Q a t ∧ Q' a t := fun a t ht => ⟨h a t ht, k a t ht⟩

theorem context_bind {f : Context → Step σ β} {Q' : β → Session σ → Prop} (h : Gives s (f s.context) Q') :
    Gives s (context >>= f) Q' := h

theorem classWhere?_bind {fits : Handle → Bool} {name : String} {f : Option Handle → Step σ β}
    {Q' : β → Session σ → Prop} (h : Gives s (f (s.symbols.findWhere? fits name)) Q') :
    Gives s (classWhere? fits name >>= f) Q' := by
  intro b t ht
  rw [Effect.bind_apply, classWhere?_apply] at ht
  exact h b t ht

end Gives

/-- A later session of a run. Artifacts are only added, and classes of kinds outside some ranks stay. -/
structure Onward (lo hi : Nat) (s t : Session σ) : Prop where
  entity : t.context.entity = s.context.entity
  products : s.context.products <+: t.context.products
  handles : ∀ kind : ArtifactKind, kind.rank < lo ∨ hi ≤ kind.rank →
    t.context.handle? kind = s.context.handle? kind

theorem Onward.trans {lo hi : Nat} {s t u : Session σ} (h : Onward lo hi s t) (k : Onward lo hi t u) :
    Onward lo hi s u :=
  ⟨k.entity.trans h.entity, h.products.trans k.products, fun kind hk => (k.handles kind hk).trans (h.handles kind hk)⟩

theorem Onward.of_context {lo hi : Nat} {s t : Session σ} (h : t.context = s.context) : Onward lo hi s t :=
  ⟨by rw [h], by rw [h], fun _ _ => by rw [h]⟩

theorem Made.onward {p : Planner σ} {lo hi : Nat} {m : Step σ α} (h : Made p lo hi m) (hS : Steady p.store) :
    Effect.Keeps (Onward lo hi) m := by
  refine h.keeps Onward.trans ?_ (fun _ _ => .of_context rfl) (fun s kind x hlo hhi => ?_) (fun s a => ?_)
    (fun path s => .of_context (hS.makeDir path s)) fun path content s => .of_context (hS.write path content s)
  · intro s t hb
    refine ⟨hb.entity, by rw [hb.products], fun kind _ => ?_⟩
    unfold Context.handle?
    rw [hb.handles]
  · refine ⟨rfl, List.prefix_refl _, fun other ho => ?_⟩
    have hne : other ≠ kind := by
      rintro rfl
      omega
    exact Entries.lookup_put_ne hne x s.context.handles
  · exact ⟨rfl, List.prefix_append _ _, fun _ _ => rfl⟩

theorem Made.gives {p : Planner σ} {lo hi : Nat} {m : Step σ α} (h : Made p lo hi m) (hS : Steady p.store)
    (s : Session σ) : Gives s m fun _ t => Onward lo hi s t := .of_keeps (h.onward hS) s

/-- The class of a shared type is what the source of an artifact declares. A new source in a Java package declares
what is needed. -/
structure FromSource (l : Layout) (a : Product) (base : Handle) : Prop where
  path : base.path = some a.path
  declared : base.kind = Source.kindOf a.name a.content
  outside : a.created = true → ∃ directory, a.path = Store.join directory (a.name ++ ".java") ∧
    ¬ IsJavaPackage (l.packageOf directory)

/-- The class of a shared type is of the kind that is needed, or an artifact decides of which kind it is. -/
def Suits (l : Layout) (ps : List Product) (kind : ArtifactKind) (base : Handle) : Prop :=
  base.kind = kind.sharedKind ∨ ∃ a ∈ ps, a.kind = kind ∧ FromSource l a base

theorem Suits.mono {l : Layout} {ps qs : List Product} {kind : ArtifactKind} {base : Handle}
    (h : Suits l ps kind base) (hps : ps ⊆ qs) : Suits l qs kind base :=
  h.imp_right fun ⟨a, ha, hsource⟩ => ⟨a, hps ha, hsource⟩

/-- Among the artifacts there is one of a kind, and if it is new, it holds what a template says for some package. -/
def Written (ps : List Product) (kind : ArtifactKind) (template : String → Template) : Prop :=
  ∃ a ∈ ps, a.kind = kind ∧ (a.created = true → ∃ package, a.content = Store.normalize (template package).content)

theorem Written.mono {ps qs : List Product} {kind : ArtifactKind} {template : String → Template}
    (h : Written ps kind template) (hps : ps ⊆ qs) : Written qs kind template := by
  obtain ⟨a, ha, hwritten⟩ := h
  exact ⟨a, hps ha, hwritten⟩

theorem registration_kind {p : Planner σ} {t : Template} {content path directory : String} {symbols : Symbols}
    {h : Handle} (hr : (p.registration t content path directory symbols).1 = .ok h) :
    h.path = some path ∧ h.kind = Source.kindOf t.name content := by
  unfold Planner.registration Symbols.registerSource Source.handles at hr
  unfold Source.kindOf
  rcases hread : Java.SourceUnit.read content with f | u <;> rw [hread] at hr <;> dsimp only [Except.map] at hr ⊢
  · split at hr
    · exact nomatch hr
    · cases hr
      exact ⟨rfl, rfl⟩
  · have hfound : (Source.handlesOf u symbols.find? (some path)).find? (·.name == t.name) =
        ((Source.headsOf u.types).find? (·.name == t.name)).map
          (Source.handleOf (Source.Scope.of u) symbols.find? (some path)) := by
      unfold Source.handlesOf
      exact List.find?_map
    rw [hfound] at hr
    cases hfind : (Source.headsOf u.types).find? (·.name == t.name) with
    | none =>
      rw [hfind] at hr
      cases hr
      exact ⟨rfl, rfl⟩
    | some d =>
      rw [hfind] at hr
      cases hr
      exact ⟨rfl, rfl⟩

/-- Types of a name are known, but no class. -/
def OnlyOthers (symbols : Symbols) (name : String) : Prop :=
  symbols.findWhere? (Planner.isOfKind .plain) name = none ∧ symbols.find? name ≠ none

section Steps

variable {p : Planner σ} {s : Session σ}

theorem gives_place (p : Planner σ) (t : Template) (directory : String) (s : Session σ) :
    Gives s (p.place t directory) fun x u => ∃ a ∈ u.context.products, a.kind = t.kind ∧ a.name = t.name ∧
      a.path = Store.join directory t.fileName ∧ (a.created = true → a.content = Store.normalize t.content) ∧
      ∀ h, x = some h → h.path = some a.path ∧ h.kind = Source.kindOf a.name a.content := by
  rw [p.place_eq]
  have hdeposit : Gives s (p.deposit t directory) fun placed u => productOf t placed ∈ u.context.products ∧
      placed.path = Store.join directory t.fileName ∧
      (placed.created = true → placed.content = Store.normalize t.content) := by
    intro placed u h
    rw [p.deposit_apply] at h
    rcases hx : p.store.createFile directory t.fileName t.content s with ⟨f | found, v⟩ <;> rw [hx] at h <;> cases h
    exact ⟨List.mem_append_right _ (List.mem_singleton_self _), createFile_path hx, createFile_content hx⟩
  refine hdeposit.bind fun placed u ⟨hmem, hpath, htext⟩ => ?_
  unfold Planner.adopt
  split
  · intro x v h
    rw [Effect.bind_apply, p.register_apply] at h
    rcases hr : (p.registration t placed.content placed.path directory u.symbols).1 with f | base <;> rw [hr] at h
    · exact nomatch h
    · cases h
      refine ⟨_, hmem, rfl, rfl, hpath, htext, ?_⟩
      rintro _ ⟨⟩
      exact registration_kind hr
  · exact .pure ⟨_, hmem, rfl, rfl, hpath, htext, nofun⟩

/-- A shared type that is placed is what is needed, if the file is new and in a Java package. -/
theorem gives_placeClass {t : Template} {kind : ArtifactKind} {directory : String}
    (ht : sharedTemplate? (p.layout.packageOf directory) kind = some t) :
    Gives s (p.placeClass t directory) fun base u => Suits p.layout u.context.products kind base := by
  obtain ⟨hkind, hfile⟩ := Artifact.shared_facts ht
  unfold Planner.placeClass
  refine (gives_place p t directory s).bind fun x u ⟨a, ha, hsame, hname, hpath, htext, hclass⟩ => ?_
  cases x with
  | none =>
    intro _ _ h
    exact nomatch h
  | some base =>
    obtain ⟨hbase, hdeclared⟩ := hclass base rfl
    refine Gives.pure ?_
    by_cases hin : a.created = true ∧ IsJavaPackage (p.layout.packageOf directory)
    · refine .inl ?_
      rw [hdeclared, htext hin.1, hname]
      exact Artifact.kindOf_shared hin.2 ht
    · have houtside : a.created = true → ∃ d, a.path = Store.join d (a.name ++ ".java") ∧
          ¬ IsJavaPackage (p.layout.packageOf d) := by
        intro hc
        refine ⟨directory, ?_, fun hp => hin ⟨hc, hp⟩⟩
        rw [hpath, hfile, hname]
      exact .inr ⟨a, ha, hsame.trans hkind, hbase, hdeclared, houtside⟩

/-- A shared type is the class that is known, or a placed one. -/
theorem gives_findOrPlace {fits : Handle → Bool} {kind : ArtifactKind} {name directory : String}
    {template : String → Template}
    (ht : sharedTemplate? (p.layout.packageOf directory) kind = some (template (p.layout.packageOf directory))) :
    Gives s (p.findOrPlace fits kind name directory template) fun base t => t.context.handle? kind = some base ∧
      ((∀ h, s.symbols.findWhere? fits name = some h → h.kind = kind.sharedKind) →
        Suits p.layout t.context.products kind base) := by
  unfold Planner.findOrPlace
  have hset {P : Prop} (base : Handle) {u : Session σ} (h : P → Suits p.layout u.context.products kind base) :
      Gives u (setHandle kind base >>= fun _ => Pure.pure base) fun base t =>
        t.context.handle? kind = some base ∧ (P → Suits p.layout t.context.products kind base) := by
    rintro _ _ ⟨⟩
    exact ⟨Entries.lookup_put_self _ _ _, h⟩
  refine .classWhere?_bind ?_
  cases s.symbols.findWhere? fits name with
  | some h => exact hset h fun hknown => .inl (hknown h rfl)
  | none => exact (gives_placeClass ht).bind fun base t h => hset base fun _ => h

theorem kind_of_findWhere? {symbols : Symbols} {kind : ClassKind} {name : String} {h : Handle}
    (hfind : symbols.findWhere? (Planner.isOfKind kind) name = some h) : h.kind = kind := by
  unfold Symbols.findWhere? at hfind
  obtain ⟨w, -, hfound⟩ := Option.bind_eq_some_iff.1 hfind
  have hfits := List.find?_some hfound
  exact beq_iff_eq.1 (Bool.and_eq_true_iff.1 hfits).2

/-- The base of queries is one that suits them, unless all types that are known by its name are no classes. -/
theorem gives_baseQuery? {directory : String} (hnone : s.context.handle? .baseQuery = none) :
    Gives s (p.baseQuery? directory) fun base t => t.context.handle? .baseQuery = base ∧
      (¬ OnlyOthers s.symbols Artifact.baseQueryName → ∀ h, base = some h →
        Suits p.layout t.context.products .baseQuery h) := by
  unfold Planner.baseQuery?
  refine .classWhere?_bind ?_
  cases hfind : s.symbols.findWhere? (Planner.isOfKind .plain) Artifact.baseQueryName with
  | some h =>
    rintro _ _ ⟨⟩
    refine ⟨Entries.lookup_put_self _ _ _, ?_⟩
    rintro - _ ⟨⟩
    exact .inl (kind_of_findWhere? hfind)
  | none =>
    refine .context_bind ?_
    split
    · refine (gives_findOrPlace rfl).bind fun base t ⟨hheld, hsuits⟩ => .pure ⟨hheld, ?_⟩
      rintro hothers _ ⟨⟩
      refine hsuits fun h hh => absurd ⟨hfind, ?_⟩ hothers
      rw [Symbols.find?, hh]
      exact nofun
    · exact .pure ⟨hnone, fun _ _ h => nomatch h⟩

theorem gives_written (hS : Steady p.store) (kind : ArtifactKind) (template : String → Template) {package : String}
    (hk : (template package).kind = kind) (directory : String) (s : Session σ) :
    Gives s (p.place (template package) directory) fun _ t =>
      Onward kind.rank (kind.rank + 1) s t ∧ Written t.context.products kind template := by
  subst hk
  refine .and ((Made.place (Nat.le_refl _) (Nat.lt_succ_self _)).gives hS s) ?_
  exact (gives_place p _ directory s).weaken fun _ t ⟨a, ha, hkind, _, _, htext, _⟩ =>
    ⟨a, ha, hkind, fun hc => ⟨package, htext hc⟩⟩

theorem gives_repositoryStage (hS : Steady p.store) (s : Session σ) :
    Gives s p.repositoryStage fun _ t => ∃ base, t.context.handle? .baseRepository = some base ∧
      Suits p.layout t.context.products .baseRepository base ∧
      Written t.context.products .repository fun package =>
        Artifact.repositoryTemplate s.context.entity package base := by
  unfold Planner.repositoryStage
  have hbeside : Made p 0 0 (p.besideContainer "repository") := .besideContainer _
  refine (hbeside.gives hS s).bind fun directory t ht => ?_
  refine ((Made.setDirs (p := p) _).gives hS t).bind fun _ u (hu : Onward 0 0 t u) => ?_
  have hplace : Made p 0 1 (p.findOrPlace (Planner.isOfKind .interface) .baseRepository Artifact.baseRepositoryName
      directory Artifact.baseRepositoryTemplate) := .findOrPlace rfl (by decide) (by decide)
  refine ((hplace.gives hS u).and (gives_findOrPlace rfl)).bind fun base v ⟨hv, hheld, hsuits⟩ => .context_bind ?_
  rw [hv.entity, hu.entity, ht.entity]
  refine (gives_written hS .repository (fun package => Artifact.repositoryTemplate s.context.entity package base) rfl
    directory v).bind fun _ w ⟨hw, hwritten⟩ => .pure ⟨base, ?_, ?_, hwritten⟩
  · rw [hw.handles .baseRepository (by decide), hheld]
  · exact (hsuits fun h => kind_of_findWhere?).mono hw.products.subset

theorem gives_mapperStage (hS : Steady p.store) (s : Session σ) :
    Gives s p.mapperStage fun _ t => ∃ base, t.context.handle? .entityMapper = some base ∧
      Suits p.layout t.context.products .entityMapper base ∧
      ∃ dto, Written t.context.products .mapper fun package =>
        Artifact.mapperTemplate s.context.entity package dto base := by
  unfold Planner.mapperStage
  have hbelow : Made p 5 5 (p.belowService "mapper") := .belowService _
  refine (hbelow.gives hS s).bind fun directory t ht => ?_
  refine ((Made.setDirs (p := p) _).gives hS t).bind fun _ u (hu : Onward 5 5 t u) => ?_
  have hplace : Made p 5 6 (p.findOrPlace (Planner.isOfKind .interface) .entityMapper Artifact.entityMapperName
      directory Artifact.entityMapperTemplate) := .findOrPlace rfl (by decide) (by decide)
  refine ((hplace.gives hS u).and (gives_findOrPlace rfl)).bind fun base v ⟨hv, hheld, hsuits⟩ => ?_
  refine ((Made.require (p := p) .dto).gives hS v).bind fun dto w (hw : Onward 6 6 v w) => .context_bind ?_
  rw [hw.entity, hv.entity, hu.entity, ht.entity]
  refine (gives_written hS .mapper (fun package => Artifact.mapperTemplate s.context.entity package dto base) rfl
    directory w).bind fun _ x ⟨hx, hwritten⟩ => .pure ⟨base, ?_, ?_, dto, hwritten⟩
  · rw [hx.handles .entityMapper (by decide), hw.handles .entityMapper (by decide), hheld]
  · exact (hsuits fun h => kind_of_findWhere?).mono (hw.products.trans hx.products).subset

theorem symbols_belowService (hmake : ∀ path, Effect.Keeps (fun s t => t.symbols = s.symbols) (p.store.makeDir path))
    (name : String) : Effect.Keeps (fun s t : Session σ => t.symbols = s.symbols) (p.belowService name) := by
  have hsubdir (parent name : String) :
      Effect.Keeps (fun s t : Session σ => t.symbols = s.symbols) (p.subdir parent name) := by
    intro s
    cases hdir : p.store.isDir s (Store.join parent name) with
    | true => rw [p.subdir_of_isDir hdir]
    | false =>
      have hsymbols := hmake (Store.join parent name) s
      rw [p.subdir_of_missing hdir]
      rcases hx : p.store.makeDir (Store.join parent name) s with ⟨f | _, t⟩ <;> rw [hx] at hsymbols
      · dsimp only
        split <;> exact hsymbols
      · exact hsymbols
  have htrans {s t u : Session σ} (h : t.symbols = s.symbols) (k : u.symbols = t.symbols) : u.symbols = s.symbols :=
    k.trans h
  have hservice : Effect.Keeps (fun s t : Session σ => t.symbols = s.symbols) p.serviceDir := by
    unfold Planner.serviceDir
    refine .bind htrans (fun _ => rfl) fun c => ?_
    dsimp only
    split
    · exact fun _ => rfl
    · refine .bind htrans (fun _ => rfl) fun c => .bind htrans (hsubdir _ _) fun d => ?_
      exact fun _ => rfl
  exact .bind htrans hservice fun d => hsubdir d name

theorem gives_queryStage (hS : Steady p.store)
    (hmake : ∀ path, Effect.Keeps (fun s t => t.symbols = s.symbols) (p.store.makeDir path)) (s : Session σ)
    (hnone : s.context.handle? .baseQuery = none) :
    Gives s p.queryStage fun _ t =>
      (¬ OnlyOthers s.symbols Artifact.baseQueryName → ∀ base, t.context.handle? .baseQuery = some base →
        Suits p.layout t.context.products .baseQuery base) ∧
      Written t.context.products .query fun package =>
        Artifact.queryTemplate s.context.entity package (t.context.handle? .baseQuery) := by
  unfold Planner.queryStage
  -- No handle of rank 7 is set before the base is looked for, and none but that one when the query is placed.
  have hbelow : Made p 7 7 (p.belowService "query") := .belowService _
  have htable : Gives s (p.belowService "query") fun _ t => t.symbols = s.symbols :=
    .of_keeps (symbols_belowService hmake "query") s
  refine ((hbelow.gives hS s).and htable).bind fun directory t ⟨ht, hsymbols⟩ => ?_
  have hdirs (change : Directories → Directories) :
      Gives t (setDirs change) fun _ u => Onward 7 7 t u ∧ u.symbols = t.symbols :=
    .and ((Made.setDirs (p := p) change).gives hS t) (.of_keeps (R := fun s t => t.symbols = s.symbols) (fun _ => rfl) t)
  refine (hdirs _).bind fun _ u ⟨hu, hsame⟩ => ?_
  rw [← hsymbols, ← hsame]
  have hbase : Made p 7 8 (p.baseQuery? directory) := .baseQuery? directory
  have hstill : u.context.handle? .baseQuery = none := by
    rw [hu.handles .baseQuery (by decide), ht.handles .baseQuery (by decide), hnone]
  refine ((hbase.gives hS u).and (gives_baseQuery? hstill)).bind fun base v ⟨hv, hheld, hsuits⟩ => .context_bind ?_
  rw [hv.entity, hu.entity, ht.entity]
  refine (gives_written hS .query (fun package => Artifact.queryTemplate s.context.entity package base) rfl
    directory v).bind fun _ w ⟨hw, hwritten⟩ => ?_
  have hend : w.context.handle? .baseQuery = base := by
    rw [hw.handles .baseQuery (by decide), hheld]
  refine .pure ⟨fun hothers h hh => ?_, hend ▸ hwritten⟩
  exact (hsuits hothers h (hend.symm.trans hh)).mono hw.products.subset

end Steps

/-- The stages before the one that builds on a table of queries. -/
def earlyStages : List Stage := [.repository, .dto, .mapper]

/-- A context with the shared types that its artifacts build on. -/
structure Based (l : Layout) (e : Entity) (table : Symbols) (c : Context) : Prop where
  repository : ∃ base, c.handle? .baseRepository = some base ∧ Suits l c.products .baseRepository base ∧
    Written c.products .repository fun package => Artifact.repositoryTemplate e package base
  mapper : ∃ base, c.handle? .entityMapper = some base ∧ Suits l c.products .entityMapper base ∧
    ∃ dto, Written c.products .mapper fun package => Artifact.mapperTemplate e package dto base
  query : Written c.products .query fun package => Artifact.queryTemplate e package (c.handle? .baseQuery)
  baseQuery : ¬ OnlyOthers table Artifact.baseQueryName → ∀ base, c.handle? .baseQuery = some base →
    Suits l c.products .baseQuery base

theorem based_of_through {p : Planner σ} (hS : Steady p.store)
    (hmake : ∀ path, Effect.Keeps (fun s t => t.symbols = s.symbols) (p.store.makeDir path)) {e : Entity}
    {directory : String} {s u : Session σ}
    (h : p.through (stages p.settings) (p.started e directory s) = (.ok (), u)) :
    Based p.layout e (p.through earlyStages (p.started e directory s)).2.symbols u.context := by
  let last : List Stage := [.dao, .service, .controller] ++ pageStages p.settings
  have hstages : stages p.settings = earlyStages ++ .query :: last := rfl
  rw [hstages, Planner.through_eq_ok] at h
  obtain ⟨v, w, hearly, hquery, hlast⟩ := h
  -- The stages by the ranks of what they place. Behind each, what was found out of smaller ranks stays so.
  have hfirst : Gives (p.started e directory s) (p.through earlyStages) fun _ v => v.context.entity = e ∧
      v.context.handle? .baseQuery = none ∧
      (∃ base, v.context.handle? .baseRepository = some base ∧ Suits p.layout v.context.products .baseRepository base ∧
        Written v.context.products .repository fun package => Artifact.repositoryTemplate e package base) ∧
      ∃ base, v.context.handle? .entityMapper = some base ∧ Suits p.layout v.context.products .entityMapper base ∧
        ∃ dto, Written v.context.products .mapper fun package => Artifact.mapperTemplate e package dto base := by
    refine ((Made.repositoryStage.gives hS _).and (gives_repositoryStage hS _)).bind
      fun _ s₁ ⟨h₁, base, hheld, hsuits, hwritten⟩ => ?_
    refine (Made.dtoStage.gives hS s₁).bind fun _ s₂ h₂ => ?_
    refine ((Made.mapperStage.gives hS s₂).and (gives_mapperStage hS s₂)).bind
      fun _ s₃ ⟨h₃, mapper, hmheld, hmsuits, dto, hmwritten⟩ => .pure ?_
    have hentity : s₂.context.entity = e := by rw [h₂.entity, h₁.entity]; rfl
    rw [hentity] at hmwritten
    have hmore := (h₂.products.trans h₃.products).subset
    refine ⟨h₃.entity.trans hentity, ?_, ⟨base, ?_, hsuits.mono hmore, hwritten.mono hmore⟩,
      mapper, hmheld, hmsuits, dto, hmwritten⟩
    · rw [h₃.handles .baseQuery (by decide), h₂.handles .baseQuery (by decide), h₁.handles .baseQuery (by decide)]
      rfl
    · rw [h₃.handles .baseRepository (by decide), h₂.handles .baseRepository (by decide), hheld]
  obtain ⟨hentity, hnone, ⟨base, hheld, hsuits, hwritten⟩, mapper, hmheld, hmsuits, dto, hmwritten⟩ :=
    hfirst () v hearly
  obtain ⟨hbase, hqwritten⟩ := gives_queryStage hS hmake v hnone () w hquery
  have hw : Onward 7 9 v w := Made.queryStage.gives hS v () w hquery
  have hascending : Ascending 9 last := by
    have hall := ascending_stages p.settings
    rw [hstages, ascending_append] at hall
    exact hall.2.2
  have hu : Onward 9 _ w u := (Made.through p hascending).gives hS w () u hlast
  have hmore := hu.products.subset
  have hall := (hw.products.trans hu.products).subset
  have hstill : u.context.handle? .baseQuery = w.context.handle? .baseQuery := hu.handles .baseQuery (.inl (by decide))
  rw [hentity, ← hstill] at hqwritten
  refine ⟨⟨base, ?_, hsuits.mono hall, hwritten.mono hall⟩, ⟨mapper, ?_, hmsuits.mono hall, dto, hmwritten.mono hall⟩,
    hqwritten.mono hmore, fun hothers h hh => ?_⟩
  · rw [hu.handles .baseRepository (.inl (by decide)), hw.handles .baseRepository (by decide), hheld]
  · rw [hu.handles .entityMapper (.inl (by decide)), hw.handles .entityMapper (by decide), hmheld]
  · rw [hearly] at hothers
    exact (hbase hothers h (hstill.symm.trans hh)).mono hmore

/-- The file of a shared type that is not new was there before the run. -/
theorem shared_kept_before {p : Planner σ} {T : Terrain} {e : Entity} {container : String} {before now : Memory}
    {ps : List Product} (hledger : Ledger before ps now) (hranked : Ranked ps)
    (hhoused : ∀ a ∈ ps, ∃ t directory, Housed p T e container a t directory) {a : Product} (ha : a ∈ ps)
    (hshared : a.kind.shared = true) (hc : a.created = false) : before.read a.path = some a.content := by
  obtain ⟨earlier, later, rfl⟩ := List.append_of_mem ha
  have hkept := hledger.kept earlier a later rfl hc
  obtain ⟨t, directory, hplace⟩ := hhoused a ha
  have hend : a.kind.fixedEnd.toList <:+ a.path.toList := by
    obtain ⟨stem, hstem, hfile, -⟩ := hplace.template.file
    rw [← hplace.kind] at hstem hfile
    rw [← ArtifactKind.file_of_shared hstem hshared, ← hfile, hplace.path]
    exact Store.suffix_join directory t.fileName
  -- No earlier artifact was written at this path: those of lower rank do not have its fixed file name.
  have hnone : (createdFiles earlier).lookup a.path = none := by
    refine List.lookup_eq_none_iff.2 fun entry hentry => ?_
    obtain ⟨b, hb, rfl⟩ := List.mem_map.1 hentry
    have hb := List.mem_of_mem_filter hb
    have hrank : b.kind.rank < a.kind.rank :=
      (List.pairwise_append.1 hranked).2.2 b hb a List.mem_cons_self
    obtain ⟨u, d, hother⟩ := hhoused b (List.mem_append_left _ hb)
    obtain ⟨stem, hstem, hfile, -⟩ := hother.template.file
    rw [← hother.kind] at hstem hfile
    refine bne_iff_ne.2 fun hsame => ?_
    refine ArtifactKind.not_fixedEnd_suffix hstem hrank hshared ?_ (hsame ▸ hend)
    rw [← hfile, hother.path]
    exact Store.suffix_join d u.fileName
  rw [List.lookup_append, hnone, Option.or_none] at hkept
  exact hkept

/-- In a completed run the types that all entities share are of the kinds that are needed, and the repository, the
mapper and the query build on them. There are two exceptions. A file that was there before the run is left as it is,
and its type is what it declares; and a new file in a directory that is no Java package declares nothing. Of queries
this is said as long as a table without classes of the name of their base has no other types of that name either. -/
theorem shared_types_have_their_kind (S : Store σ) (l : Layout) (settings : Settings) (e : Entity)
    (directory : String) {s t : Session σ} {r : Result}
    (hrun : (Planner.mk l settings (inSession S)).run e directory s = (.ok r, t)) (hdone : r.status = .completed) :
    let p : Planner σ := ⟨l, settings, inSession S⟩
    ∃ c, r.context = some c ∧ Based l e (p.through earlyStages (p.started e directory s)).2.symbols c ∧
      ∀ view : σ → Memory, S.Shows view → ∀ a ∈ c.products, a.kind.shared = true → a.created = false →
        (view s.store).read a.path = some a.content := by
  intro p
  change p.run e directory s = _ at hrun
  have hfree : s.busy = false := by
    cases hs : s.busy with
    | false => rfl
    | true =>
      rw [p.run_of_busy e directory hs] at hrun
      exact nomatch hrun
  have he : e.isEntity = true := by
    cases he : e.isEntity with
    | true => rfl
    | false =>
      rw [p.run_of_skipped directory hfree he] at hrun
      cases hrun
      exact nomatch hdone
  have hall := hrun
  rw [p.run_of_entity directory hfree he] at hall
  rcases hx : p.performAll (stages p.settings) (p.started e directory s) with ⟨x, v⟩
  rw [hx] at hall
  cases hall
  obtain ⟨u, hthrough, hend⟩ := Planner.through_of_completed hx hdone
  cases hend
  refine ⟨u.context, rfl, based_of_through (steady_inSession S) (fun _ _ => rfl) hthrough, fun view hS a ha => ?_⟩
  have hledger := (run_ledger hS l settings e directory hrun).1
  have hranked := ranked_run (p := p) (steady_inSession S) (e := e) directory hfree he
  have hhoused : (anyRegime (steady_inSession S)).At e (Store.stripSlashes directory) (p.run e directory s).2 :=
    Regime.at_run _ trivial trivial hfree he
  rw [hrun] at hranked hhoused
  exact shared_kept_before hledger hranked hhoused.housed ha

theorem shared_types_have_their_kind_sample : ∃ r t c,
    (memoryPlanner {} {} {}).run sampleEntity "m" { store := sampleMemory } = (.ok r, t) ∧ r.status = .completed ∧
      r.context = some c ∧ ∃ base, c.handle? .entityMapper = some base ∧ Suits {} c.products .entityMapper base := by
  have hrun := sample_completes
  rcases hx : (memoryPlanner {} {} {}).run sampleEntity "m" { store := sampleMemory } with ⟨_ | r, t⟩
  · rw [hx] at hrun
    exact nomatch hrun
  · rw [hx] at hrun
    have hdone : r.status = .completed := congrArg Prod.fst (Option.some.inj hrun)
    obtain ⟨c, hc, hbased, -⟩ :=
      shared_types_have_their_kind (Memory.store.refusing {}) {} {} sampleEntity "m" hx hdone
    obtain ⟨base, hheld, hsuits, -⟩ := hbased.mapper
    exact ⟨r, t, c, rfl, hdone, hc, base, hheld, hsuits⟩

/-- A project whose base of repositories is a class. -/
def classMemory : Memory :=
  sampleMemory.write "repository/BaseRepository.java" "public class BaseRepository \x7b\x7d\n"

/-- A class that is there is what the repository extends. -/
theorem kept_base_is_class :
    ((memoryPlanner {} {} {}).run sampleEntity "m" { store := classMemory }).1.toOption.map (fun r =>
        (r.status, (r.context.bind (·.handle? .baseRepository)).map fun base => (base.kind, base.path))) =
      some (.completed, some (.plain, some "repository/BaseRepository.java")) := by
  decide +kernel

end Scaffold.Run
