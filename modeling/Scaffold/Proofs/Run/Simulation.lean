import Scaffold.Proofs.Artifact.FileName
import Scaffold.Proofs.Effect
import Scaffold.Run.Generate

/-! The same steps on two stores. A comparison says how the states of the stores belong together, up to
an event on the left one after which the right one has ended, or nothing more is said of it. -/

namespace Scaffold.Run

variable {σ τ α β : Type}

/-- The same session on another store. -/
def Session.on (s : Session σ) (b : τ) : Session τ where
  store := b
  symbols := s.symbols
  log := s.log
  context := s.context
  busy := s.busy
  turnedAway := s.turnedAway

/-- What the left store says of the right one: it goes along, it has ended with a failure in some
session, or nothing. -/
inductive Verdict (τ : Type) where
  | agree
  | part (f : Failure) (t : Session τ)
  | void

structure Comparison (σ τ : Type) where
  holds : σ → List Product → τ → Prop
  known : τ → String → Prop
  verdict : σ → Verdict τ

/-- Directories that are known, and what else holds. -/
structure Facts where
  dirs : List String := []
  holds : Prop := True

namespace Facts

def and (F G : Facts) : Facts := ⟨F.dirs ++ G.dirs, F.holds ∧ G.holds⟩

def dir (d : String) : Facts := ⟨[d], True⟩

@[simp] theorem mem_and {F G : Facts} {d : String} :
    d ∈ (F.and G).dirs ↔ d ∈ F.dirs ∨ d ∈ G.dirs := List.mem_append

@[simp] theorem mem_dir {x d : String} : x ∈ (dir d).dirs ↔ x = d := List.mem_singleton

end Facts

namespace Comparison

variable (C : Comparison σ τ)

/-- A verdict other than agreement stays. -/
def Settled (a b : σ) : Prop := C.verdict a = .agree ∨ C.verdict b = C.verdict a

def Grows (b c : τ) : Prop := ∀ d, C.known b d → C.known c d

def Knows (b : τ) (F : Facts) : Prop := F.holds ∧ ∀ d ∈ F.dirs, C.known b d

/-- How the right store ends when the left one ends as given. -/
def Outcome (x : Except Failure α × Session σ) (y : Except Failure α × Session τ)
    (P : τ → Prop) : Prop :=
  match C.verdict x.2.store with
  | .agree => ∃ c, y = (x.1, x.2.on c) ∧ P c
  | .part f t => y = (.error f, t)
  | .void => True

structure Fits (b : τ) (e : Entity) (c : Context) : Prop where
  entity : c.entity = e
  container : C.known b c.dirs.container
  service : c.dirs.service = "" ∨ C.known b c.dirs.service
  dao : ∀ h, c.handle? .dao = some h → h.name = e.baseName ++ "Dao"

/-- A session on the left and a store on the right, when only kinds below a rank are placed. -/
structure Related (e : Entity) (r : Nat) (s : Session σ) (b : τ) : Prop where
  agree : C.verdict s.store = .agree
  holds : C.holds s.store s.context.products b
  fits : C.Fits b e s.context
  ranks : ∀ a ∈ s.context.products, a.kind.rank < r

/-- The right steps go along with the left ones, from the ranks below `lo` to those below `hi`. -/
def Follows (e : Entity) (lo hi : Nat) (F : Facts) (m : Step σ α) (n : Step τ α)
    (V : α → Facts) : Prop :=
  ∀ s b, C.Settled s.store (m s).2.store ∧ (C.Related e lo s b → C.Knows b F →
    C.Outcome (m s) (n (s.on b)) fun c =>
      C.Grows b c ∧ C.Related e hi (m s).2 c ∧ ∀ a, (m s).1 = .ok a → C.Knows c (V a))

variable {C}

theorem Settled.refl (a : σ) : C.Settled a a := .inr rfl

theorem Settled.trans {a b c : σ} (h : C.Settled a b) (k : C.Settled b c) : C.Settled a c := by
  rcases h with h | h
  · exact .inl h
  · rcases k with k | k
    · exact .inl (h.symm.trans k)
    · exact .inr (k.trans h)

theorem Settled.agree {a b : σ} (h : C.Settled a b) (hb : C.verdict b = .agree) :
    C.verdict a = .agree := by
  rcases h with h | h
  · exact h
  · exact h.symm.trans hb

theorem Settled.stays {a b : σ} (h : C.Settled a b) (ha : C.verdict a ≠ .agree) :
    C.verdict b = C.verdict a := by
  rcases h with h | h
  · exact absurd h ha
  · exact h

theorem Grows.refl (b : τ) : C.Grows b b := fun _ h => h

theorem Grows.trans {a b c : τ} (h : C.Grows a b) (k : C.Grows b c) : C.Grows a c :=
  fun d hd => k d (h d hd)

theorem Knows.grow {b c : τ} {F : Facts} (h : C.Knows b F) (g : C.Grows b c) : C.Knows c F :=
  ⟨h.1, fun d hd => g d (h.2 d hd)⟩

theorem Knows.and {b : τ} {F G : Facts} (h : C.Knows b F) (k : C.Knows b G) :
    C.Knows b (F.and G) := by
  refine ⟨⟨h.1, k.1⟩, fun d hd => ?_⟩
  rcases List.mem_append.1 hd with hd | hd
  · exact h.2 d hd
  · exact k.2 d hd

theorem knows_dir {b : τ} {d : String} (h : C.known b d) : C.Knows b (.dir d) := by
  refine ⟨trivial, fun x hx => ?_⟩
  rw [Facts.mem_dir.1 hx]
  exact h

theorem knows_empty (b : τ) : C.Knows b {} := ⟨trivial, nofun⟩

theorem Fits.grow {b c : τ} {e : Entity} {x : Context} (h : C.Fits b e x) (g : C.Grows b c) :
    C.Fits c e x :=
  ⟨h.entity, g _ h.container, h.service.imp_right (g _), h.dao⟩

theorem Related.mono {e : Entity} {r q : Nat} {s : Session σ} {b : τ} (h : C.Related e r s b)
    (hr : r ≤ q) : C.Related e q s b :=
  ⟨h.agree, h.holds, h.fits, fun a ha => Nat.lt_of_lt_of_le (h.ranks a ha) hr⟩

theorem Outcome.of_agree {x : Except Failure α × Session σ} {y : Except Failure α × Session τ}
    {P : τ → Prop} (h : ∃ c, y = (x.1, x.2.on c) ∧ P c) (hv : C.verdict x.2.store = .agree) :
    C.Outcome x y P := by
  unfold Outcome
  rw [hv]
  exact h

theorem Outcome.of_part {x : Except Failure α × Session σ} {y : Except Failure α × Session τ}
    {P : τ → Prop} {f : Failure} {t : Session τ} (h : y = (.error f, t))
    (hv : C.verdict x.2.store = .part f t) : C.Outcome x y P := by
  unfold Outcome
  rw [hv]
  exact h

theorem Outcome.of_void {x : Except Failure α × Session σ} {y : Except Failure α × Session τ}
    {P : τ → Prop} (hv : C.verdict x.2.store = .void) : C.Outcome x y P := by
  unfold Outcome
  rw [hv]
  trivial

theorem Outcome.of_whole {x : Except Failure α × Session σ} {y : Except Failure α × Session τ}
    {P : τ → Prop} (hwhole : ∀ f t, C.verdict x.2.store ≠ .part f t)
    (h : C.verdict x.2.store = .agree → ∃ c, y = (x.1, x.2.on c) ∧ P c) : C.Outcome x y P := by
  rcases hv : C.verdict x.2.store with _ | ⟨f, t⟩ | _
  · exact .of_agree (h hv) hv
  · exact absurd hv (hwhole f t)
  · exact .of_void hv

theorem Outcome.agrees {x : Except Failure α × Session σ} {y : Except Failure α × Session τ}
    {P : τ → Prop} (h : C.Outcome x y P) (hv : C.verdict x.2.store = .agree) :
    ∃ c, y = (x.1, x.2.on c) ∧ P c := by
  unfold Outcome at h
  rw [hv] at h
  exact h

theorem Outcome.parts {x : Except Failure α × Session σ} {y : Except Failure α × Session τ}
    {P : τ → Prop} {f : Failure} {t : Session τ} (h : C.Outcome x y P)
    (hv : C.verdict x.2.store = .part f t) : y = (.error f, t) := by
  unfold Outcome at h
  rw [hv] at h
  exact h

theorem Outcome.imp {x : Except Failure α × Session σ} {y : Except Failure α × Session τ}
    {P Q : τ → Prop} (h : C.Outcome x y P) (hPQ : ∀ c, P c → Q c) : C.Outcome x y Q := by
  rcases hv : C.verdict x.2.store with _ | ⟨f, t⟩ | _
  · obtain ⟨c, hy, hc⟩ := h.agrees hv
    exact .of_agree ⟨c, hy, hPQ c hc⟩ hv
  · exact .of_part (h.parts hv) hv
  · exact .of_void hv

/-- What comes after an outcome has one of its own, if the verdict stays and the right side fails as it did. -/
theorem Outcome.andThen {x : Except Failure α × Session σ} {y : Except Failure α × Session τ}
    {x' : Except Failure β × Session σ} {y' : Except Failure β × Session τ} {P Q : τ → Prop}
    (h : C.Outcome x y P) (hverdict : C.verdict x'.2.store = C.verdict x.2.store)
    (hpart : ∀ f t, y = (.error f, t) → y' = (.error f, t))
    (hagree : C.verdict x.2.store = .agree → ∀ c, y = (x.1, x.2.on c) → P c →
      ∃ d, y' = (x'.1, x'.2.on d) ∧ Q d) : C.Outcome x' y' Q := by
  rcases hv : C.verdict x.2.store with _ | ⟨f, t⟩ | _
  · obtain ⟨c, hy, hc⟩ := h.agrees hv
    exact .of_agree (hagree hv c hy hc) (hverdict.trans hv)
  · exact .of_part (hpart f t (h.parts hv)) (hverdict.trans hv)
  · exact .of_void (hverdict.trans hv)

namespace Follows

variable {e : Entity} {lo mid hi : Nat} {F G : Facts} {m : Step σ α} {n : Step τ α} {V : α → Facts}

theorem bind {f : α → Step σ β} {g : α → Step τ β} {W : β → Facts}
    (h : C.Follows e lo mid F m n V)
    (hf : ∀ a, C.Follows e mid hi (F.and (V a)) (f a) (g a) W) (hr : mid ≤ hi) :
    C.Follows e lo hi F (m >>= f) (n >>= g) W := by
  intro s b
  obtain ⟨hm, hout⟩ := h s b
  rw [Effect.bind_apply]
  rcases hx : m s with ⟨x | a, s'⟩
  · rw [hx] at hm hout
    refine ⟨hm, fun hb hF => ?_⟩
    rw [Effect.bind_apply]
    refine (hout hb hF).andThen rfl (fun f t hn => by rw [hn]) fun _ c hn ⟨hg, hc, _⟩ => ?_
    exact ⟨c, by rw [hn], hg, hc.mono hr, fun a ha => nomatch ha⟩
  · rw [hx] at hm hout
    have hfa := (hf a s' b).1
    refine ⟨hm.trans hfa, fun hb hF => ?_⟩
    specialize hout hb hF
    rw [Effect.bind_apply]
    rcases hv : C.verdict s'.store with _ | ⟨f, t⟩ | _
    · obtain ⟨c, hn, hg, hc, hV⟩ := hout.agrees hv
      rw [hn]
      refine ((hf a s' c).2 hc ((hF.grow hg).and (hV a rfl))).imp fun c' hc' => ?_
      exact ⟨hg.trans hc'.1, hc'.2⟩
    · have hstay := hfa.stays (by rw [hv]; exact nofun)
      exact .of_part (by rw [hout.parts hv]) (hstay.trans hv)
    · have hstay := hfa.stays (by rw [hv]; exact nofun)
      exact .of_void (hstay.trans hv)

theorem get_bind {f : Session σ → Step σ β} {g : Session τ → Step τ β} {W : β → Facts}
    (h : ∀ s b, C.Follows e lo hi F (f s) (g (s.on b)) W) :
    C.Follows e lo hi F (get >>= f) (get >>= g) W := fun s b => h s b s b

/-- What the relation of the stores implies may be used. -/
theorem learn (G : Facts) (hG : ∀ s b, C.Related e lo s b → C.Knows b F → C.Knows b G)
    (h : C.Follows e lo hi (F.and G) m n V) : C.Follows e lo hi F m n V := fun s b =>
  ⟨(h s b).1, fun hb hF => (h s b).2 hb (hF.and (hG s b hb hF))⟩

theorem mono (h : C.Follows e lo hi F m n V) {lo' hi' : Nat} (hlo : lo' ≤ lo) (hhi : hi ≤ hi')
    (hF : ∀ b, C.Knows b G → C.Knows b F) : C.Follows e lo' hi' G m n V := fun s b =>
  ⟨(h s b).1, fun hb hG => ((h s b).2 (hb.mono hlo) (hF b hG)).imp
    fun _ hc => ⟨hc.1, hc.2.1.mono hhi, hc.2.2⟩⟩

/-- Steps that leave the store and the artifacts alone. -/
theorem aside (hn : ∀ s (b : τ), n (s.on b) = ((m s).1, (m s).2.on b))
    (hs : ∀ s, (m s).2.store = s.store)
    (hp : ∀ s, (m s).2.context.products = s.context.products)
    (hc : ∀ s b, C.Fits b e s.context → C.Knows b F →
      C.Fits b e (m s).2.context ∧ ∀ a, (m s).1 = .ok a → C.Knows b (V a)) :
    C.Follows e lo lo F m n V := by
  intro s b
  refine ⟨.inr (by rw [hs]), fun hb hF => ?_⟩
  obtain ⟨hfits, hV⟩ := hc s b hb.fits hF
  have hagree : C.verdict (m s).2.store = .agree := by rw [hs]; exact hb.agree
  refine .of_agree ⟨b, hn s b, Grows.refl b, ⟨hagree, ?_, hfits, ?_⟩, hV⟩ hagree
  · rw [hs, hp]
    exact hb.holds
  · rw [hp]
    exact hb.ranks

end Follows

end Comparison

/-- The same planner on another store. -/
def Planner.on (p : Planner σ) (T : Store (Session τ)) : Planner τ := ⟨p.layout, p.settings, T⟩

/-- The names of all directories that runs look for or make. -/
def directoryNames : List String :=
  ["repository", "service", "dto", "mapper", "query", "dao", "impl", "controller", "web", "rest",
   "mappers", "ui", "views"]

/-- A template in its place. -/
def productOf (t : Template) (placed : Store.Placed) : Product where
  kind := t.kind
  name := t.name
  path := placed.path
  content := placed.content
  created := placed.created

/-- What a run gains from an attempt to place a template. -/
def gained (t : Template) : Except Failure Store.Placed → List Product
  | .ok placed => [productOf t placed]
  | .error _ => []

/-- A store whose work leaves the context of a session alone. -/
structure Steady (S : Store (Session σ)) : Prop where
  makeDir : ∀ path s, (S.makeDir path s).2.context = s.context
  write : ∀ path content s, (S.write path content s).2.context = s.context

theorem steady_inSession (S : Store σ) : Steady (inSession S) := ⟨fun _ _ => rfl, fun _ _ _ => rfl⟩

/-- A comparison that what a run does to its stores keeps up: looking for a directory below a known one,
making it, and placing a template of the entity behind those of smaller ranks. -/
structure Simulation (l : Layout) (e : Entity) (S : Store (Session σ)) (T : Store (Session τ))
    extends Comparison σ τ where
  roots : ∀ {a ps b}, holds a ps b →
    known b l.javaRoot ∧ known b l.resourcesRoot ∧ known b l.projectRoot
  above : ∀ {a ps b d u}, holds a ps b → known b d → l.parent? d = some u → known b u
  isDir : ∀ {s : Session σ} {b d name}, holds s.store s.context.products b → known b d →
    name ∈ directoryNames → T.isDir (s.on b) (Store.join d name) = S.isDir s (Store.join d name)
  found : ∀ {s : Session σ} {b d name}, holds s.store s.context.products b → known b d →
    name ∈ directoryNames → S.isDir s (Store.join d name) = true → known b (Store.join d name)
  steady : Steady S
  makeDir_settled : ∀ path (s : Session σ),
    toComparison.Settled s.store (S.makeDir path s).2.store
  write_settled : ∀ path content (s : Session σ),
    toComparison.Settled s.store (S.write path content s).2.store
  makeDir_parts : ∀ path (s : Session σ) f t, verdict s.store = .agree →
    verdict (S.makeDir path s).2.store ≠ .part f t
  makeDir : ∀ {s : Session σ} {b d name}, verdict s.store = .agree →
    holds s.store s.context.products b → known b d → name ∈ directoryNames →
    S.isDir s (Store.join d name) = false →
    toComparison.Outcome (S.makeDir (Store.join d name) s) (T.makeDir (Store.join d name) (s.on b))
      fun c => toComparison.Grows b c ∧
        holds (S.makeDir (Store.join d name) s).2.store s.context.products c ∧
        ∀ u, (S.makeDir (Store.join d name) s).1 = .ok u → known c (Store.join d name)
  createFile : ∀ {s : Session σ} {b t d}, verdict s.store = .agree →
    holds s.store s.context.products b → known b d → Artifact.Belongs l e t d →
    (∀ a ∈ s.context.products, a.kind.rank < t.kind.rank) →
    toComparison.Outcome (S.createFile d t.fileName t.content s)
      (T.createFile d t.fileName t.content (s.on b))
      fun c => toComparison.Grows b c ∧
        holds (S.createFile d t.fileName t.content s).2.store
          (s.context.products ++ gained t (S.createFile d t.fileName t.content s).1) c

/-- A run beside itself, with what it keeps true of the store and the artifacts. -/
def selfSimulation {S : Store (Session σ)} (hS : Steady S) (I : σ → List Product → Prop)
    (hmake : ∀ path (s : Session σ), I s.store s.context.products →
      I (S.makeDir path s).2.store s.context.products)
    (l : Layout) (e : Entity)
    (hcreate : ∀ t directory (s : Session σ), Artifact.Belongs l e t directory →
      I s.store s.context.products → I (S.createFile directory t.fileName t.content s).2.store
        (s.context.products ++ gained t (S.createFile directory t.fileName t.content s).1)) :
    Simulation l e S S where
  holds a ps b := a = b ∧ I a ps
  known _ _ := True
  verdict _ := .agree
  roots _ := ⟨trivial, trivial, trivial⟩
  above _ _ _ := trivial
  isDir := by
    rintro s b d name ⟨rfl, -⟩ - -
    rfl
  found _ _ _ _ := trivial
  steady := hS
  makeDir_settled _ _ := .inl rfl
  write_settled _ _ _ := .inl rfl
  makeDir_parts _ _ _ _ _ := nofun
  makeDir := by
    rintro s b d name - ⟨rfl, h⟩ - - -
    exact ⟨_, rfl, fun _ _ => trivial, ⟨rfl, hmake _ s h⟩, fun _ _ => trivial⟩
  createFile := by
    rintro s b t d - ⟨rfl, h⟩ - ht -
    exact ⟨_, rfl, fun _ _ => trivial, rfl, hcreate t d s ht h⟩

end Scaffold.Run
