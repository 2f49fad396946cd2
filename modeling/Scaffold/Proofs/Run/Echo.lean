import Scaffold.Proofs.Run.Ledger
import Scaffold.Proofs.Store.Memory
import Scaffold.Proofs.Symbols.Table

/-! A run beside an earlier run of the same entity, of which it knows the end: the files, the directories and
the classes. What the earlier run had come to in its middle is still there at its end, so the later one finds
everything and makes nothing. -/

namespace Scaffold

namespace Source

open Scaffold.Java

/-- A text that is read as exactly one type, of a name and a kind. -/
def Declares (text name : String) (kind : ClassKind) : Prop :=
  ∃ u d, SourceUnit.read text = .ok u ∧ headsOf u.types = [d] ∧ d.name = name ∧ classKind d.kind = kind

def declared? (text : String) : Option (String × ClassKind) :=
  match SourceUnit.read text with
  | .ok u =>
    match headsOf u.types with
    | [d] => some (d.name, classKind d.kind)
    | _ => none
  | .error _ => none

theorem declares_iff {text name : String} {kind : ClassKind} :
    Declares text name kind ↔ declared? text = some (name, kind) := by
  unfold Declares declared?
  constructor
  · rintro ⟨u, d, hu, hd, rfl, rfl⟩
    rw [hu]
    dsimp only
    rw [hd]
  · intro h
    split at h
    · next u hu =>
      split at h
      · next d hd =>
        cases h
        exact ⟨u, d, hu, hd, rfl, rfl⟩
      · exact nomatch h
    · exact nomatch h

instance (text name : String) (kind : ClassKind) : Decidable (Declares text name kind) :=
  decidable_of_iff _ declares_iff.symm

theorem Declares.register {text name : String} {kind : ClassKind} (h : Declares text name kind)
    (s : Symbols) (path : Option String) :
    ∃ k : Handle, k.name = name ∧ k.kind = kind ∧ s.registerSource text path = .ok ([k], s.register k) := by
  obtain ⟨u, d, hu, hd, hname, hkind⟩ := h
  refine ⟨handleOf (Scope.of u) s.find? path d, hname, hkind, ?_⟩
  unfold Symbols.registerSource handles handlesOf
  rw [hu]
  simp only [Except.map, hd]
  rfl

end Source

namespace Run

open Store (Memory)

namespace Planner

variable {σ : Type} (p : Planner σ)

theorem registration_of_declares {t : Template} {content : String} {kind : ClassKind}
    (h : Source.Declares content t.name kind) (path directory : String) (symbols : Symbols) :
    ∃ k : Handle, k.name = t.name ∧ k.kind = kind ∧
      p.registration t content path directory symbols = (.ok k, symbols.register k, []) := by
  obtain ⟨k, hname, hkind, hregister⟩ := h.register symbols (some path)
  refine ⟨k, hname, hkind, ?_⟩
  unfold registration
  rw [hregister]
  dsimp only
  rw [List.find?_cons, hname, beq_self_eq_true]

end Planner

/-- A store in memory always goes along. Below a directory that it knows it makes none but those above the
file. -/
theorem createFile_memory (directory name content : String) (s : Session Memory) :
    ∃ placed store, (inSession Memory.store).createFile directory name content s =
        (.ok placed, { s with store }) ∧
      placed.path = Store.join directory name ∧
      (∀ x, s.store.isDir x = true → store.isDir x = true) ∧
      (s.store.isDir directory = true → ∀ x, store.isDir x = true →
        x ∈ Store.parents (Store.join directory name) ∨ s.store.isDir x = true) := by
  rcases hread : (inSession Memory.store).read s (Store.join directory name) with _ | held
  · rw [Store.createFile_of_absent hread, Store.prepare_apply]
    by_cases hd : directory = "" ∨ (inSession Memory.store).isDir s directory = true
    · rw [if_pos hd]
      refine ⟨_, _, rfl, rfl, fun x hx => ?_, fun _ x hx => ?_⟩
      · exact Memory.isDir_write.2 (.inr hx)
      · exact Memory.isDir_write.1 hx
    · rw [if_neg hd]
      refine ⟨_, _, rfl, rfl, fun x hx => ?_, fun hknown => absurd (.inr hknown) hd⟩
      exact Memory.isDir_write.2 (.inr (Memory.isDir_makeDir.2 (.inr (.inr hx))))
  · rw [Store.createFile_of_read hread]
    exact ⟨_, s.store, rfl, rfl, fun _ h => h, fun _ _ h => .inr h⟩

theorem subdir_memory {p : Planner Memory} (hp : p.store = inSession Memory.store) (parent name : String)
    (s : Session Memory) :
    ∃ store : Memory, p.subdir parent name s = (.ok (Store.join parent name), { s with store }) ∧
      store.isDir (Store.join parent name) = true ∧ (∀ x, s.store.isDir x = true → store.isDir x = true) ∧
      (∀ x, store.isDir x = true →
        x = Store.join parent name ∨ x ∈ Store.parents (Store.join parent name) ∨ s.store.isDir x = true) := by
  cases hd : s.store.isDir (Store.join parent name) with
  | true =>
    have hdir : p.store.isDir s (Store.join parent name) = true := by rw [hp]; exact hd
    exact ⟨s.store, p.subdir_of_isDir hdir, hd, fun _ h => h, fun _ h => .inr (.inr h)⟩
  | false =>
    have hdir : p.store.isDir s (Store.join parent name) = false := by rw [hp]; exact hd
    rw [p.subdir_of_missing hdir, hp]
    refine ⟨s.store.makeDir (Store.join parent name), rfl, ?_, fun x hx => ?_, fun x hx => ?_⟩
    · exact Memory.isDir_makeDir.2 (.inl rfl)
    · exact Memory.isDir_makeDir.2 (.inr (.inr hx))
    · exact Memory.isDir_makeDir.1 hx

/-- The types that a run looks for before it places them, by what they must be. -/
def bases : List ((Handle → Bool) × String) :=
  [(Planner.isOfKind .interface, Artifact.baseRepositoryName),
   (Planner.isOfKind .interface, Artifact.entityMapperName),
   (fun _ => true, Artifact.baseQueryName)]

theorem baseRepository_mem_bases :
    (Planner.isOfKind .interface, Artifact.baseRepositoryName) ∈ bases := by simp [bases]

theorem entityMapper_mem_bases :
    (Planner.isOfKind .interface, Artifact.entityMapperName) ∈ bases := by simp [bases]

theorem baseQuery_mem_bases : (fun _ => true, Artifact.baseQueryName) ∈ bases := by simp [bases]

theorem bases_simple : ∀ b ∈ bases, Symbols.Simple b.2 := by
  have hnames : ∀ name ∈ bases.map (·.2), Symbols.Simple name := by
    unfold Symbols.Simple
    decide +kernel
  exact fun b hb => hnames b.2 (List.mem_map_of_mem hb)

def Known (symbols : Symbols) (b : (Handle → Bool) × String) : Prop :=
  (symbols.findWhere? b.1 b.2).isSome = true

/-- Only interfaces come under the names of the shared interfaces. -/
def Fitting (name : String) (kind : ClassKind) : Prop :=
  name = Artifact.baseRepositoryName ∨ name = Artifact.entityMapperName → kind = .interface

theorem fits_of_fitting {b : (Handle → Bool) × String} (hb : b ∈ bases) {h : Handle}
    (hfit : Fitting h.name h.kind) (hn : h.name = b.2) : b.1 h = true := by
  simp only [bases, List.mem_cons, List.not_mem_nil, or_false] at hb
  rcases hb with rfl | rfl | rfl
  · exact beq_iff_eq.2 (hfit (.inl hn))
  · exact beq_iff_eq.2 (hfit (.inr hn))
  · rfl

theorem Known.register {symbols : Symbols} {b : (Handle → Bool) × String} (h : Known symbols b)
    (hb : b ∈ bases) {k : Handle} (hk : Fitting k.name k.kind) : Known (symbols.register k) b :=
  Symbols.findWhere?_register (bases_simple b hb) (fits_of_fitting hb hk) h

def suffix (symbols : Symbols) : String := (Planner.controllerOptions symbols).suffix

/-- Names that do not decide how controllers are called. -/
def Neutral (name : String) : Prop :=
  name ≠ Artifact.baseControllerName ∧ name ≠ Artifact.baseResourceName

def AllNeutral (ps : List Product) : Prop :=
  ∀ a ∈ ps, Text.endsWith a.path ".java" = true → Neutral a.name

theorem suffix_register {symbols : Symbols} {k : Handle} (h : Neutral k.name) :
    suffix (symbols.register k) = suffix symbols := by
  have hsimple : ∀ name ∈ [Artifact.baseControllerName, Artifact.baseResourceName], Symbols.Simple name := by
    unfold Symbols.Simple
    decide +kernel
  unfold suffix Planner.controllerOptions Symbols.find?
  rw [Symbols.findWhere?_register_of_ne (hsimple _ (by simp)) symbols h.1,
    Symbols.findWhere?_register_of_ne (hsimple _ (by simp)) symbols h.2]

theorem suffix_eq (symbols : Symbols) : suffix symbols =
    if (symbols.find? Artifact.baseControllerName).isSome = false ∧
      (symbols.find? Artifact.baseResourceName).isSome = true then "Resource" else "Controller" := by
  unfold suffix Planner.controllerOptions
  dsimp only
  cases symbols.find? Artifact.baseControllerName <;> cases symbols.find? Artifact.baseResourceName <;> rfl

/-- A controller keeps up what controllers are called, even where it becomes a base class itself. -/
theorem suffix_register_controller {symbols : Symbols} {k : Handle} {base : String}
    (h : k.name = base ++ suffix symbols) : suffix (symbols.register k) = suffix symbols := by
  have hsimple : ∀ name ∈ [Artifact.baseControllerName, Artifact.baseResourceName], Symbols.Simple name := by
    unfold Symbols.Simple
    decide +kernel
  have hends : ∀ name : String, k.name = name → (suffix symbols).toList <:+ name.toList := by
    intro name hname
    rw [← hname, h, String.toList_append]
    exact List.suffix_append _ _
  -- A controller that becomes a base class has the ending that the base class asks for, so nothing turns over.
  by_cases hc : k.name = Artifact.baseControllerName
  · have hsuffix : suffix symbols = "Controller" := by
      rcases Simulation.controllerOptions_suffix symbols with hs | hs
      · exact hs
      · have hend := hends _ hc
        rw [show suffix symbols = _ from hs] at hend
        exact absurd hend (by decide)
    have hfound : ((symbols.register k).find? Artifact.baseControllerName).isSome = true :=
      Symbols.findWhere?_register_self (hsimple _ (by simp)) symbols hc rfl
    rw [hsuffix, suffix_eq, hfound]
    rfl
  · by_cases hr : k.name = Artifact.baseResourceName
    · have hsuffix : suffix symbols = "Resource" := by
        rcases Simulation.controllerOptions_suffix symbols with hs | hs
        · have hend := hends _ hr
          rw [show suffix symbols = _ from hs] at hend
          exact absurd hend (by decide)
        · exact hs
      have hfound : ((symbols.register k).find? Artifact.baseResourceName).isSome = true :=
        Symbols.findWhere?_register_self (hsimple _ (by simp)) symbols hr rfl
      have hsame : (symbols.register k).find? Artifact.baseControllerName =
          symbols.find? Artifact.baseControllerName :=
        Symbols.findWhere?_register_of_ne (hsimple _ (by simp)) symbols hc
      have hnone : (symbols.find? Artifact.baseControllerName).isSome = false := by
        rw [suffix_eq] at hsuffix
        by_contra hsome
        rw [if_neg fun hboth => hsome hboth.1] at hsuffix
        exact absurd hsuffix (by decide)
      rw [hsuffix, suffix_eq, hfound, hsame, hnone]
      rfl
    · exact suffix_register ⟨hc, hr⟩

/-- What a run has left: the store, the classes, and its artifacts. -/
structure Ending where
  store : Memory
  symbols : Symbols
  products : List Product

/-- The artifacts stand in their places, and the sources declare what they are called after. -/
structure Ending.Sound (E : Ending) : Prop where
  read : ∀ a ∈ E.products, E.store.read a.path = some a.content
  parses : ∀ a ∈ E.products, Text.endsWith a.path ".java" = true →
    ∃ kind, Source.Declares a.content a.name kind ∧ Fitting a.name kind

/-- A session in the middle of the run, whose end has all that it has. -/
structure Ahead (E : Ending) (s : Session Memory) : Prop where
  dirs : ∀ x, s.store.isDir x = true → E.store.isDir x = true
  products : ∀ a ∈ s.context.products, a ∈ E.products
  known : ∀ b ∈ bases, Known s.symbols b → Known E.symbols b

/-- The artifacts of a run as the next one finds them. -/
def again (ps : List Product) : List Product :=
  (ps.filter (!·.kind.shared)).map ({ · with created := false })

/-- A context of the later run beside one of the earlier run. Handles of shared types may differ. -/
structure Mirrors (c d : Context) : Prop where
  entity : d.entity = c.entity
  settings : d.settings = c.settings
  dirs : d.dirs = c.dirs
  products : d.products = again c.products
  handles : ∀ kind h, kind.shared = false → c.handle? kind = some h →
    ∃ k, d.handle? kind = some k ∧ k.name = h.name

/-- A session of the later run beside one of the earlier run. As long as no artifact is called like a base
class of controllers, controllers are called as at the end of the earlier run. -/
structure Echo (E : Ending) (s t : Session Memory) : Prop where
  store : t.store = E.store
  context : Mirrors s.context t.context
  known : ∀ b ∈ bases, Known E.symbols b → Known t.symbols b
  suffix : AllNeutral s.context.products → suffix t.symbols = suffix E.symbols

/-- Where a step of the earlier run has succeeded on the way to its end, the later one succeeds. -/
def Repeats {α : Type} (E : Ending) (P : Prop) (m n : Step Memory α) (V : α → α → Prop) : Prop :=
  (∀ s, Ahead E (m s).2 → Ahead E s) ∧
    (P → ∀ s t, Echo E s t → ∀ a, (m s).1 = .ok a → Ahead E (m s).2 →
      ∃ b u, n t = (.ok b, u) ∧ Echo E (m s).2 u ∧ V a b)

namespace Repeats

variable {α β : Type} {E : Ending} {P Q : Prop} {m n : Step Memory α} {V W : α → α → Prop}

theorem bind {f g : α → Step Memory β} {U : β → β → Prop} (h : Repeats E P m n V)
    (hf : ∀ a b, Repeats E (P ∧ V a b) (f a) (g b) U) : Repeats E P (m >>= f) (n >>= g) U := by
  refine ⟨fun s hs => ?_, fun hP s t he x hx hs => ?_⟩
  · refine h.1 s ?_
    rw [Effect.bind_apply] at hs
    rcases hm : m s with ⟨e | a, s'⟩
    · rw [hm] at hs
      exact hs
    · rw [hm] at hs
      exact (hf a a).1 s' hs
  · rw [Effect.bind_apply m f s] at hx hs ⊢
    rcases hm : m s with ⟨e | a, s'⟩
    · rw [hm] at hx
      exact nomatch hx
    · rw [hm] at hx hs
      -- The second half has come to the end, so it began on the way to it, where the first half stopped.
      have hback : Ahead E (m s).2 := by
        rw [hm]
        exact (hf a a).1 s' hs
      obtain ⟨b, u, hn, hu, hV⟩ := h.2 hP s t he a (by rw [hm]) hback
      rw [hm] at hu
      obtain ⟨y, v, hg, hv, hU⟩ := (hf a b).2 ⟨hP, hV⟩ s' u hu x hx hs
      refine ⟨y, v, ?_, hv, hU⟩
      rw [Effect.bind_apply, hn]
      exact hg

theorem congr {n' : Step Memory α} (h : Repeats E P m n V) (hn : P → n' = n) : Repeats E P m n' V := by
  refine ⟨h.1, fun hP s t he a ha hs => ?_⟩
  rw [hn hP]
  exact h.2 hP s t he a ha hs

theorem same (h : Repeats E P m m V) (hn : P → n = m) : Repeats E P m n V := h.congr hn

theorem ite {c d : Prop} [Decidable c] [Decidable d] {m' n' : Step Memory α} (h : P → (d ↔ c))
    (hpos : Repeats E P m n V) (hneg : Repeats E P m' n' V) :
    Repeats E P (if c then m else m') (if d then n else n') V := by
  by_cases hc : c
  · rw [if_pos hc]
    exact hpos.congr fun hP => if_pos ((h hP).2 hc)
  · rw [if_neg hc]
    exact hneg.congr fun hP => if_neg fun hd => hc ((h hP).1 hd)

theorem of_state {f g : Session Memory → Except Failure α} (hm : ∀ s, m s = (f s, s))
    (hn : ∀ t, n t = (g t, t))
    (h : P → ∀ s t, Echo E s t → ∀ a, f s = .ok a → ∃ b, g t = .ok b ∧ V a b) : Repeats E P m n V := by
  refine ⟨fun s hs => ?_, fun hP s t he a ha hs => ?_⟩
  · rw [hm] at hs
    exact hs
  · rw [hm] at ha ⊢
    obtain ⟨b, hb, hV⟩ := h hP s t he a ha
    exact ⟨b, t, by rw [hn, hb], he, hV⟩

theorem pure {a b : α} (h : P → V a b) : Repeats E P (pure a) (pure b) V :=
  of_state (fun _ => rfl) (fun _ => rfl) fun hP _ _ _ x hx => by
    cases hx
    exact ⟨b, rfl, h hP⟩

theorem context : Repeats E P context context Mirrors :=
  of_state (fun _ => rfl) (fun _ => rfl) fun _ _ t he x hx => by
    cases hx
    exact ⟨t.context, rfl, he.context⟩

theorem require {kind : ArtifactKind} (hk : kind.shared = false) :
    Repeats E P (require kind) (require kind) fun h k => k.name = h.name := by
  refine of_state (f := fun s => (s.context.handle? kind).elim (.error (.notGenerated kind)) .ok)
    (g := fun s => (s.context.handle? kind).elim (.error (.notGenerated kind)) .ok) ?_ ?_ ?_
  · intro s
    rw [require_apply]
    cases s.context.handle? kind <;> rfl
  · intro s
    rw [require_apply]
    cases s.context.handle? kind <;> rfl
  · intro _ s t he h hh
    rcases hs : s.context.handle? kind with _ | x
    · rw [hs] at hh
      exact nomatch hh
    · rw [hs] at hh
      cases hh
      obtain ⟨k, hk', hname⟩ := he.context.handles kind _ hk hs
      exact ⟨k, by rw [hk']; rfl, hname⟩

theorem setContext {change other : Context → Context} (hp : ∀ c, (change c).products = c.products)
    (hm : P → ∀ c d, Mirrors c d → Mirrors (change c) (other d)) :
    Repeats E P (setContext change) (setContext other) fun _ _ => True := by
  refine ⟨fun s hs => ⟨hs.dirs, fun a ha => hs.products a ?_, hs.known⟩, fun hP s t he _ _ _ => ?_⟩
  · rw [setContext_apply]
    dsimp only
    rw [hp]
    exact ha
  · refine ⟨(), _, setContext_apply other t, ⟨he.store, hm hP _ _ he.context, he.known, fun hneutral => ?_⟩,
      trivial⟩
    refine he.suffix fun a ha => hneutral a ?_
    rw [setContext_apply]
    dsimp only
    rw [hp]
    exact ha

theorem setDirs {change other : Directories → Directories} (h : P → ∀ d, other d = change d) :
    Repeats E P (setDirs change) (setDirs other) fun _ _ => True := by
  refine setContext (fun _ => rfl) fun hP c d hcd => ⟨hcd.entity, hcd.settings, ?_, hcd.products, hcd.handles⟩
  dsimp only
  rw [h hP, hcd.dirs]

end Repeats

theorem Mirrors.put {c d : Context} (hcd : Mirrors c d) (kind : ArtifactKind) {h k : Handle}
    (hk : kind.shared = false → k.name = h.name) :
    ∀ m x, m.shared = false → (Entries.put kind h c.handles).lookup m = some x →
      ∃ y, (Entries.put kind k d.handles).lookup m = some y ∧ y.name = x.name := by
  intro m x hm hx
  by_cases hmk : m = kind
  · subst hmk
    rw [Entries.lookup_put_self] at hx
    cases hx
    exact ⟨k, Entries.lookup_put_self m k _, hk hm⟩
  · rw [Entries.lookup_put_ne hmk] at hx ⊢
    exact hcd.handles m x hm hx

theorem again_append (ps qs : List Product) : again (ps ++ qs) = again ps ++ again qs := by
  unfold again
  rw [List.filter_append, List.map_append]

theorem again_shared {a : Product} (h : a.kind.shared = true) : again [a] = [] := by
  unfold again
  rw [List.filter_singleton, h]
  rfl

theorem again_own {a : Product} (h : a.kind.shared = false) : again [a] = [{ a with created := false }] := by
  unfold again
  rw [List.filter_singleton, h]
  rfl

/-- Templates for the same artifact; what they hold may differ. -/
structure SameFile (t u : Template) : Prop where
  kind : u.kind = t.kind
  name : u.name = t.name
  fileName : u.fileName = t.fileName

theorem SameFile.isJava {t u : Template} (h : SameFile t u) : Planner.isJava u = Planner.isJava t := by
  unfold Planner.isJava
  rw [h.fileName]

section Landing

variable {σ : Type}

/-- A session after a template was placed, with its class if it has one. -/
def Session.landed (s : Session σ) (store : σ) (t : Template) (placed : Store.Placed) (h : Option Handle) :
    Session σ :=
  { s with
    store
    symbols := h.elim s.symbols s.symbols.register
    log := s.log ++ [⟨.info, (if placed.created then "Created " else "Keeping existing ") ++ placed.path⟩]
    context := { s.context with
      products := s.context.products ++ [productOf t placed]
      handles := h.elim s.context.handles (Entries.put t.kind · s.context.handles) } }

theorem place_products {p : Planner σ} {t : Template} {directory : String} {s s' : Session σ}
    {placed : Store.Placed} (h : p.store.createFile directory t.fileName t.content s = (.ok placed, s'))
    (hs : s'.context = s.context) : (p.place t directory s).2.context.products =
      s.context.products ++ [productOf t placed] := by
  rw [Planner.place_eq, Effect.bind_apply, Planner.deposit_apply, h]
  dsimp only
  unfold Planner.adopt
  cases hj : Planner.isJava t with
  | false =>
    rw [hs]
    rfl
  | true =>
    simp only [if_true, Effect.bind_apply, Planner.register_apply]
    rcases (p.registration t placed.content placed.path directory s'.symbols).1 with f | k
    · dsimp only
      rw [hs]
    · dsimp only
      rw [hs]
      rfl

/-- Where an artifact of the run declares its class, placing it is known once its file is. -/
theorem place_of_createFile {p : Planner σ} {E : Ending} (hE : E.Sound) {t : Template} {directory : String}
    {s : Session σ} {placed : Store.Placed} {store : σ} {a : Product}
    (hfile : p.store.createFile directory t.fileName t.content s = (.ok placed, { s with store }))
    (ha : a ∈ E.products) (hname : a.name = t.name) (hcontent : a.content = placed.content)
    (hpath : a.path = Store.join directory t.fileName) :
    ∃ h : Option Handle, p.place t directory s = (.ok h, s.landed store t placed h) ∧
      h.isSome = Planner.isJava t ∧ ∀ k, h = some k → k.name = t.name ∧ Fitting k.name k.kind := by
  rw [Planner.place_eq, Effect.bind_apply, Planner.deposit_apply, hfile]
  dsimp only
  unfold Planner.adopt
  cases hj : Planner.isJava t with
  | false => exact ⟨none, rfl, rfl, nofun⟩
  | true =>
    have hend : Text.endsWith a.path ".java" = true := by
      rw [hpath]
      exact Store.endsWith_join hj
    obtain ⟨kind, hdeclares, hfit⟩ := hE.parses a ha hend
    rw [hname, hcontent] at hdeclares
    obtain ⟨k, hk, rfl, hreg⟩ := p.registration_of_declares hdeclares placed.path directory s.symbols
    refine ⟨some k, ?_, rfl, ?_⟩
    · simp only [if_true, Effect.bind_apply, Planner.register_apply, hreg]
      rw [List.append_nil]
      rfl
    · rintro x ⟨⟩
      rw [hname, ← hk] at hfit
      exact ⟨hk, hfit⟩

end Landing

theorem sameFile_javaTemplate (kind : ArtifactKind) (name package last : String) (imports others : List String)
    (body text : String) : SameFile (Artifact.javaTemplate kind name package imports body)
      (Artifact.javaTemplate kind name last others text) := ⟨rfl, rfl, rfl⟩

theorem isJava_javaTemplate (kind : ArtifactKind) (name package : String) (imports : List String)
    (body : String) : Planner.isJava (Artifact.javaTemplate kind name package imports body) = true := by
  change Text.endsWith (name ++ ".java") ".java" = true
  rw [Text.endsWith_iff, String.toList_append]
  exact List.suffix_append _ _

structure IsShared (kind : ArtifactKind) (name : String) (t : Template) : Prop where
  shared : kind.shared = true
  kind : t.kind = kind
  name : t.name = name
  isJava : Planner.isJava t = true

theorem isShared_baseRepository (package : String) :
    IsShared .baseRepository Artifact.baseRepositoryName (Artifact.baseRepositoryTemplate package) :=
  ⟨rfl, rfl, rfl, isJava_javaTemplate _ _ _ _ _⟩

theorem isShared_entityMapper (package : String) :
    IsShared .entityMapper Artifact.entityMapperName (Artifact.entityMapperTemplate package) :=
  ⟨rfl, rfl, rfl, isJava_javaTemplate _ _ _ _ _⟩

theorem isShared_baseQuery (package : String) :
    IsShared .baseQuery Artifact.baseQueryName (Artifact.baseQueryTemplate package) :=
  ⟨rfl, rfl, rfl, isJava_javaTemplate _ _ _ _ _⟩

section Places

variable {p : Planner Memory} {E : Ending} {P : Prop}

theorem place_of_ahead (hp : p.store = inSession Memory.store) (hE : E.Sound) {t : Template}
    {directory : String} {s : Session Memory} (h : Ahead E (p.place t directory s).2) :
    ∃ placed store k, p.place t directory s = (.ok k, s.landed store t placed k) ∧
      placed.path = Store.join directory t.fileName ∧ productOf t placed ∈ E.products ∧
      (∀ x, s.store.isDir x = true → store.isDir x = true) ∧
      (s.store.isDir directory = true → ∀ x, store.isDir x = true →
        x ∈ Store.parents (Store.join directory t.fileName) ∨ s.store.isDir x = true) ∧
      k.isSome = Planner.isJava t ∧ ∀ x, k = some x → x.name = t.name ∧ Fitting x.name x.kind := by
  obtain ⟨placed, store, hfile, hpath, hgrow, hfew⟩ := createFile_memory directory t.fileName t.content s
  rw [← hp] at hfile
  have hmem : productOf t placed ∈ E.products := by
    refine h.products _ ?_
    rw [place_products hfile rfl]
    exact List.mem_append_right _ (List.mem_singleton_self _)
  obtain ⟨k, hplace, hsome, hk⟩ := place_of_createFile hE hfile hmem rfl rfl hpath
  exact ⟨placed, store, k, hplace, hpath, hmem, hgrow, hfew, hsome, hk⟩

theorem Ahead.of_landed {s : Session Memory} {store : Memory} {t : Template} {placed : Store.Placed}
    {k : Option Handle} (h : Ahead E (s.landed store t placed k))
    (hgrow : ∀ x, s.store.isDir x = true → store.isDir x = true)
    (hk : ∀ x, k = some x → Fitting x.name x.kind) : Ahead E s := by
  refine ⟨fun x hx => h.dirs x (hgrow x hx), fun a ha => h.products a (List.mem_append_left _ ha),
    fun b hb hknown => h.known b hb ?_⟩
  cases k with
  | none => exact hknown
  | some x => exact hknown.register hb (hk x rfl)

theorem place_again (hp : p.store = inSession Memory.store) (hE : E.Sound) {t u : Template}
    (hu : SameFile t u) {directory : String} {s : Session Memory} (hs : s.store = E.store)
    {placed : Store.Placed} (hpath : placed.path = Store.join directory t.fileName)
    (hmem : productOf t placed ∈ E.products) :
    ∃ k, p.place u directory s = (.ok k, s.landed E.store u { placed with created := false } k) ∧
      k.isSome = Planner.isJava t ∧ ∀ x, k = some x → x.name = t.name ∧ Fitting x.name x.kind := by
  have hread : p.store.read s (Store.join directory u.fileName) = some placed.content := by
    rw [hp, hu.fileName, ← hpath]
    change s.store.read placed.path = _
    rw [hs]
    exact hE.read _ hmem
  have hfile : p.store.createFile directory u.fileName u.content s =
      (.ok { placed with created := false }, { s with store := E.store }) := by
    rw [Store.createFile_of_read hread, hu.fileName, ← hpath, ← hs]
  obtain ⟨k, hplace, hsome, hk⟩ := place_of_createFile hE hfile hmem hu.name.symm rfl
    (hpath.trans (by rw [hu.fileName]))
  rw [hu.isJava] at hsome
  rw [hu.name] at hk
  exact ⟨k, hplace, hsome, hk⟩

theorem Echo.landed {s t : Session Memory} (he : Echo E s t) {store : Memory} {a b : Template}
    (hab : SameFile a b) (hshared : a.kind.shared = false) {placed : Store.Placed} {k j : Option Handle}
    (hsome : j.isSome = k.isSome) (hjava : j.isSome = true → Text.endsWith placed.path ".java" = true)
    (hk : ∀ x, k = some x → x.name = a.name)
    (hj : ∀ x, j = some x → x.name = a.name ∧ Fitting x.name x.kind) :
    Echo E (s.landed store a placed k) (t.landed E.store b { placed with created := false } j) := by
  have hproduct : productOf b { placed with created := false } =
      { productOf a placed with created := false } := by
    unfold productOf
    rw [hab.kind, hab.name]
  refine ⟨rfl, ⟨he.context.entity, he.context.settings, he.context.dirs, ?_, ?_⟩, fun c hc hknown => ?_,
    fun hneutral => ?_⟩
  · change t.context.products ++ [_] = again (s.context.products ++ [_])
    rw [again_append, again_own hshared, he.context.products, hproduct]
  · cases k with
    | none =>
      cases j with
      | none => exact he.context.handles
      | some y => exact nomatch hsome
    | some x =>
      cases j with
      | none => exact nomatch hsome
      | some y =>
        have hput := he.context.put a.kind (h := x) (k := y) fun _ => by rw [(hj y rfl).1, hk x rfl]
        change ∀ m z, m.shared = false → (Entries.put a.kind x _).lookup m = some z →
          ∃ w, (Entries.put b.kind y _).lookup m = some w ∧ w.name = z.name
        rw [hab.kind]
        exact hput
  · cases j with
    | none => exact he.known c hc hknown
    | some y => exact (he.known c hc hknown).register hc (hj y rfl).2
  -- A class that came later is no base class of controllers, so it leaves their name alone.
  · have hbefore := he.suffix fun x hx => hneutral x (List.mem_append_left _ hx)
    cases j with
    | none => exact hbefore
    | some y =>
      have hname : Neutral a.name :=
        hneutral (productOf a placed) (List.mem_append_right _ (List.mem_singleton_self _)) (hjava rfl)
      rw [← (hj y rfl).1] at hname
      exact (suffix_register hname).trans hbefore

theorem Echo.grow {s t : Session Memory} (he : Echo E s t) {store : Memory} : Echo E { s with store } t :=
  ⟨he.store, he.context, he.known, he.suffix⟩

theorem findOrPlace_of_known {σ : Type} {q : Planner σ} {fits : Handle → Bool} {name : String} {h : Handle}
    {s : Session σ} (hs : s.symbols.findWhere? fits name = some h) (kind : ArtifactKind) (directory : String)
    (template : String → Template) : q.findOrPlace fits kind name directory template s =
      (.ok h, { s with context := { s.context with handles := Entries.put kind h s.context.handles } }) := by
  unfold Planner.findOrPlace
  rw [Effect.bind_apply, classWhere?_apply, hs]
  rfl

theorem findOrPlace_of_unknown {σ : Type} {q : Planner σ} {fits : Handle → Bool} {name : String}
    {s : Session σ} (hs : s.symbols.findWhere? fits name = none) (kind : ArtifactKind) (directory : String)
    (template : String → Template) : q.findOrPlace fits kind name directory template s =
      match q.place (template (q.layout.packageOf directory)) directory s with
      | (.ok (some h), t) => (.ok h,
          { t with context := { t.context with handles := Entries.put kind h t.context.handles } })
      | (.ok none, t) => (.error (.notCreated (template (q.layout.packageOf directory)).name), t)
      | (.error f, t) => (.error f, t) := by
  unfold Planner.findOrPlace Planner.placeClass
  simp only [Effect.bind_apply, classWhere?_apply, hs]
  rcases q.place (template (q.layout.packageOf directory)) directory s with ⟨f | ⟨_ | h⟩, t⟩ <;> rfl

/-- Work that concerns shared types alone. -/
structure Shares (s v : Session Memory) : Prop where
  entity : v.context.entity = s.context.entity
  settings : v.context.settings = s.context.settings
  dirs : v.context.dirs = s.context.dirs
  products : ∃ ps, again ps = [] ∧ v.context.products = s.context.products ++ ps
  handles : ∀ m, m.shared = false → v.context.handle? m = s.context.handle? m

theorem Shares.refl (s : Session Memory) : Shares s s :=
  ⟨rfl, rfl, rfl, ⟨[], rfl, (List.append_nil _).symm⟩, fun _ _ => rfl⟩

theorem handle?_put {kind m : ArtifactKind} (hk : kind.shared = true) (hm : m.shared = false) (h : Handle)
    (handles : List (ArtifactKind × Handle)) : (Entries.put kind h handles).lookup m = handles.lookup m :=
  Entries.lookup_put_ne (by rintro rfl; exact absurd (hk.symm.trans hm) (by decide)) h handles

theorem Shares.put (s : Session Memory) {kind : ArtifactKind} (hk : kind.shared = true) (h : Handle) :
    Shares s { s with context := { s.context with handles := Entries.put kind h s.context.handles } } :=
  ⟨rfl, rfl, rfl, ⟨[], rfl, (List.append_nil _).symm⟩, fun _ hm => handle?_put hk hm h _⟩

theorem Shares.landed (s : Session Memory) {t : Template} (hk : t.kind.shared = true) (store : Memory)
    (placed : Store.Placed) (h : Handle) : Shares s (s.landed store t placed (some h)) :=
  ⟨rfl, rfl, rfl, ⟨_, again_shared hk, rfl⟩, fun _ hm => handle?_put hk hm h _⟩

theorem Shares.trans {s v w : Session Memory} (h : Shares s v) (k : Shares v w) : Shares s w := by
  obtain ⟨ps, hps, hv⟩ := h.products
  obtain ⟨qs, hqs, hw⟩ := k.products
  refine ⟨k.entity.trans h.entity, k.settings.trans h.settings, k.dirs.trans h.dirs, ⟨ps ++ qs, ?_, ?_⟩,
    fun m hm => (k.handles m hm).trans (h.handles m hm)⟩
  · rw [again_append, hps, hqs, List.append_nil]
  · rw [hw, hv, List.append_assoc]

/-- What the earlier run does with shared types leaves no trace in what the later one repeats. -/
theorem Echo.of_shares {s t v : Session Memory} (he : Echo E s t) (hv : Shares s v) : Echo E v t := by
  obtain ⟨ps, hps, hproducts⟩ := hv.products
  refine ⟨he.store, ⟨?_, ?_, ?_, ?_, fun m h hm hh => ?_⟩, he.known, fun hneutral => he.suffix fun a ha => ?_⟩
  · rw [hv.entity]
    exact he.context.entity
  · rw [hv.settings]
    exact he.context.settings
  · rw [hv.dirs]
    exact he.context.dirs
  · rw [hproducts, again_append, hps, List.append_nil]
    exact he.context.products
  · rw [hv.handles m hm] at hh
    exact he.context.handles m h hm hh
  · refine hneutral a ?_
    rw [hproducts]
    exact List.mem_append_left ps ha

theorem Echo.put {s t : Session Memory} (he : Echo E s t) {kind : ArtifactKind} (hk : kind.shared = true)
    (k : Handle) :
    Echo E s { t with context := { t.context with handles := Entries.put kind k t.context.handles } } := by
  refine ⟨he.store, ⟨he.context.entity, he.context.settings, he.context.dirs, he.context.products,
    fun m h hm hh => ?_⟩, he.known, he.suffix⟩
  obtain ⟨x, hx, hname⟩ := he.context.handles m h hm hh
  exact ⟨x, (handle?_put hk hm k _).trans hx, hname⟩

theorem Echo.find {s t v : Session Memory} (he : Echo E s t) {b : (Handle → Bool) × String} (hb : b ∈ bases)
    (hv : Ahead E v) (hknown : Known v.symbols b) : ∃ k, t.symbols.findWhere? b.1 b.2 = some k :=
  Option.isSome_iff_exists.1 (he.known b hb (hv.known b hb hknown))

theorem findOrPlace_of_ahead (hp : p.store = inSession Memory.store) (hE : E.Sound)
    {b : (Handle → Bool) × String} (hb : b ∈ bases) {kind : ArtifactKind} {template : String → Template}
    (ht : ∀ package, IsShared kind b.2 (template package)) {directory : String} {s : Session Memory}
    (hs : Ahead E (p.findOrPlace b.1 kind b.2 directory template s).2) :
    Ahead E s ∧ Known (p.findOrPlace b.1 kind b.2 directory template s).2.symbols b ∧
      Shares s (p.findOrPlace b.1 kind b.2 directory template s).2 := by
  let t := template (p.layout.packageOf directory)
  obtain ⟨hk, hkind, hname, hjava⟩ := ht (p.layout.packageOf directory)
  -- Placed now or found before: either way its name is known from here on.
  rcases hfind : s.symbols.findWhere? b.1 b.2 with _ | h
  · rw [findOrPlace_of_unknown hfind] at hs ⊢
    have hplace : Ahead E (p.place t directory s).2 := by
      rcases hx : p.place t directory s with ⟨f | ⟨_ | h⟩, s'⟩ <;> rw [hx] at hs
      · exact hs
      · exact hs
      · exact ⟨hs.dirs, hs.products, hs.known⟩
    obtain ⟨placed, store, k, hm, -, -, hgrow, -, hsome, hfit⟩ := place_of_ahead hp hE hplace
    obtain ⟨x, rfl⟩ := Option.isSome_iff_exists.1 (hsome.trans hjava)
    obtain ⟨hx, hxfit⟩ := hfit x rfl
    have hbase : x.name = b.2 := hx.trans hname
    rw [show p.place (template (p.layout.packageOf directory)) directory s = _ from hm]
    rw [hm] at hplace
    refine ⟨hplace.of_landed hgrow fun y hy => (hfit y hy).2, ?_, ?_⟩
    · exact Symbols.findWhere?_register_self (bases_simple b hb) _ hbase (fits_of_fitting hb hxfit hbase)
    · exact (Shares.landed s ((congrArg ArtifactKind.shared hkind).trans hk) store placed x).trans (.put _ hk x)
  · rw [findOrPlace_of_known hfind] at hs ⊢
    exact ⟨⟨hs.dirs, hs.products, hs.known⟩, Option.isSome_iff_exists.2 ⟨h, hfind⟩, .put s hk h⟩

namespace Repeats

theorem subdir (hp : p.store = inSession Memory.store) {parent other name : String} (h : P → other = parent) :
    Repeats E P (p.subdir parent name) (p.subdir other name) fun a b => b = a := by
  refine ⟨fun s hs => ?_, fun hP s t he a ha hs => ?_⟩
  · obtain ⟨store, hm, -, hgrow, -⟩ := subdir_memory hp parent name s
    rw [hm] at hs
    exact ⟨fun x hx => hs.dirs x (hgrow x hx), hs.products, hs.known⟩
  · obtain ⟨store, hm, hmade, -, -⟩ := subdir_memory hp parent name s
    rw [hm] at ha hs ⊢
    cases ha
    have hfound : p.store.isDir t (Store.join parent name) = true := by
      rw [hp]
      change t.store.isDir _ = true
      rw [he.store]
      exact hs.dirs _ hmade
    rw [h hP]
    exact ⟨_, t, p.subdir_of_isDir hfound, he.grow, rfl⟩

theorem serviceDir (hp : p.store = inSession Memory.store) :
    Repeats E P p.serviceDir p.serviceDir fun a b => b = a := by
  unfold Planner.serviceDir
  refine .bind .context fun c d => .same ?_ fun h => by rw [h.2.dirs]
  dsimp only
  by_cases hc : (c.dirs.service != "") = true
  · rw [if_pos hc]
    exact .pure fun _ => rfl
  · rw [if_neg hc]
    refine .bind .context fun x y => .bind (.subdir hp fun h => by rw [h.2.dirs]) fun a b => ?_
    exact .bind (.setDirs fun h _ => by rw [h.2]) fun _ _ => .pure fun h => h.1.2

theorem belowService (hp : p.store = inSession Memory.store) (name : String) :
    Repeats E P (p.belowService name) (p.belowService name) fun a b => b = a :=
  .bind (.serviceDir hp) fun _ _ => .subdir hp fun h => h.2

theorem besideContainer (hp : p.store = inSession Memory.store) (name : String) :
    Repeats E P (p.besideContainer name) (p.besideContainer name) fun a b => b = a := by
  unfold Planner.besideContainer
  refine .bind .context fun c d => .same ?_ fun h => by rw [h.2.dirs]
  dsimp only
  rcases p.layout.parent? c.dirs.container with _ | parent
  · exact .pure fun _ => rfl
  · exact .subdir hp fun _ => rfl

/-- Both runs place the same artifact, and only the earlier one makes a file of it. -/
theorem place (hp : p.store = inSession Memory.store) (hE : E.Sound) {t u : Template}
    {directory other : String} (h : P → other = directory ∧ SameFile t u ∧ t.kind.shared = false) :
    Repeats E P (p.place t directory) (p.place u other) fun a b => b.isSome = a.isSome := by
  refine ⟨fun s hs => ?_, fun hP s v he a ha hs => ?_⟩
  · obtain ⟨placed, store, k, hm, -, -, hgrow, -, -, hk⟩ := place_of_ahead hp hE hs
    rw [hm] at hs
    exact hs.of_landed hgrow fun x hx => (hk x hx).2
  · obtain ⟨rfl, hu, hshared⟩ := h hP
    obtain ⟨placed, store, k, hm, hpath, hmem, -, -, hsome, hk⟩ := place_of_ahead hp hE hs
    rw [hm] at ha ⊢
    cases ha
    obtain ⟨j, hn, hsome', hj⟩ := place_again hp hE hu he.store hpath hmem
    refine ⟨j, _, hn, ?_, hsome'.trans hsome.symm⟩
    refine he.landed hu hshared (hsome'.trans hsome.symm) (fun hj => ?_) (fun x hx => (hk x hx).1) hj
    rw [hpath]
    exact Store.endsWith_join (hsome'.symm.trans hj)

theorem placeClass (hp : p.store = inSession Memory.store) (hE : E.Sound) {t u : Template}
    {directory other : String} (h : P → other = directory ∧ SameFile t u ∧ t.kind.shared = false) :
    Repeats E P (p.placeClass t directory) (p.placeClass u other) fun _ _ => True := by
  refine .bind (.place hp hE h) fun a b => ?_
  cases a with
  | none => exact ⟨fun _ hs => hs, fun _ _ _ _ _ ha => nomatch ha⟩
  | some x =>
    cases b with
    | none => exact ⟨fun _ hs => hs, fun hP => nomatch hP.2⟩
    | some y => exact .pure fun _ => trivial

theorem placeFile (hp : p.store = inSession Memory.store) (hE : E.Sound) {t u : Template}
    {directory other : String} (h : P → other = directory ∧ SameFile t u ∧ t.kind.shared = false) :
    Repeats E P (p.placeFile t directory) (p.placeFile u other) fun _ _ => True :=
  .bind (.place hp hE h) fun _ _ => .bind .context fun _ _ => .pure fun _ => trivial

theorem findOrPlace (hp : p.store = inSession Memory.store) (hE : E.Sound) {fits : Handle → Bool}
    {name : String} (hb : (fits, name) ∈ bases) {kind : ArtifactKind} {template : String → Template}
    (ht : ∀ package, IsShared kind name (template package)) (directory other : String) :
    Repeats E P (p.findOrPlace fits kind name directory template)
      (p.findOrPlace fits kind name other template) fun _ _ => True := by
  refine ⟨fun s hs => (findOrPlace_of_ahead hp hE hb ht hs).1, fun _ s t he a ha hs => ?_⟩
  obtain ⟨-, hknown, hshares⟩ := findOrPlace_of_ahead hp hE hb ht hs
  dsimp only at hknown hshares
  obtain ⟨k, hfind⟩ := he.find hb hs hknown
  exact ⟨k, _, findOrPlace_of_known hfind kind other template, (he.of_shares hshares).put (ht "").shared k, trivial⟩

end Repeats

end Places

end Run

end Scaffold
