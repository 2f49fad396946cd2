import Scaffold.Proofs.Run.Traversal
import Scaffold.Store.Memory

/-! The account of a run: it adds to the files exactly the artifacts that it reports as new, each at a path
that was free, and it reports every other one with the content that it found. -/

namespace Scaffold

namespace Store

/-- A store whose states show files and directories as in memory. It may fail to write and to make a
directory, by whatever rule, and then shows what it showed before. -/
structure Shows {σ : Type} (view : σ → Memory) (S : Store σ) : Prop where
  isDir : ∀ s path, S.isDir s path = (view s).isDir path
  read : ∀ s path, S.read s path = (view s).read path
  makeDir : ∀ path s,
    ((S.makeDir path s).1 = .ok () ∧ view (S.makeDir path s).2 = (view s).makeDir path) ∨
      ∃ f, f.origin = .store ∧ (S.makeDir path s).1 = .error f ∧ view (S.makeDir path s).2 = view s
  write : ∀ path content s,
    ((S.write path content s).1 = .ok () ∧
        view (S.write path content s).2 = (view s).write path content) ∨
      ∃ f, f.origin = .store ∧ (S.write path content s).1 = .error f ∧
        view (S.write path content s).2 = view s

namespace Memory

theorem makeDir_files (path : String) (m : Memory) : (m.makeDir path).files = m.files := rfl

theorem write_files {path : String} {m : Memory} (h : m.read path = none) (content : String) :
    (m.write path content).files = m.files ++ [(path, content)] :=
  Entries.put_of_absent h content

theorem shows_refusing (r : Refusals) : Shows id (store.refusing r) where
  isDir _ _ := rfl
  read _ _ := rfl
  makeDir path s := by
    unfold refusing
    dsimp only
    cases r.makeDir path with
    | none => exact .inl ⟨rfl, rfl⟩
    | some reason => exact .inr ⟨.refused reason, rfl, rfl, rfl⟩
  write path content s := by
    unfold refusing
    dsimp only
    cases r.write path with
    | none => exact .inl ⟨rfl, rfl⟩
    | some reason => exact .inr ⟨.refused reason, rfl, rfl, rfl⟩

end Memory

end Store

namespace Run

open Store (Memory)

variable {σ : Type}

/-- The files of new artifacts. -/
def createdFiles (ps : List Product) : List (String × String) :=
  (ps.filter (·.created)).map fun a => (a.path, a.content)

theorem createdFiles_append (ps qs : List Product) :
    createdFiles (ps ++ qs) = createdFiles ps ++ createdFiles qs := by
  unfold createdFiles
  rw [List.filter_append, List.map_append]

/-- How the artifacts of a run account for its files. An artifact that is not new has the content that
stood at its path when it was placed, be it from before the run or from an earlier artifact. -/
structure Ledger (before : Memory) (ps : List Product) (now : Memory) : Prop where
  files : now.files = before.files ++ createdFiles ps
  fresh : ∀ a ∈ ps, a.created = true → before.read a.path = none
  distinct : ((createdFiles ps).map (·.1)).Nodup
  kept : ∀ earlier a later, ps = earlier ++ a :: later → a.created = false →
    (before.files ++ createdFiles earlier).lookup a.path = some a.content

namespace Ledger

variable {before now : Memory} {ps : List Product}

theorem start (m : Memory) : Ledger m [] m where
  files := (List.append_nil _).symm
  fresh := nofun
  distinct := List.nodup_nil
  kept := fun earlier a later h => absurd h.symm (by simp)

theorem of_files {m : Memory} (h : Ledger before ps now) (hm : m.files = now.files) :
    Ledger before ps m :=
  ⟨hm.trans h.files, h.fresh, h.distinct, h.kept⟩

theorem keeps_old (h : Ledger before ps now) {path content : String}
    (hb : before.read path = some content) : now.read path = some content := by
  unfold Memory.read at hb ⊢
  rw [h.files, List.lookup_append, hb, Option.some_or]

theorem kept_now (h : Ledger before ps now) {a : Product} (ha : a ∈ ps) (hc : a.created = false) :
    now.read a.path = some a.content := by
  obtain ⟨earlier, later, hps⟩ := List.append_of_mem ha
  have hkept := h.kept earlier a later hps hc
  unfold Memory.read
  rw [h.files, hps, createdFiles_append, ← List.append_assoc, List.lookup_append, hkept, Option.some_or]

theorem kept_append (h : Ledger before ps now) {a : Product}
    (ha : a.created = false → now.read a.path = some a.content) :
    ∀ earlier x later, ps ++ [a] = earlier ++ x :: later → x.created = false →
      (before.files ++ createdFiles earlier).lookup x.path = some x.content := by
  intro earlier x later hsplit hx
  rcases List.eq_nil_or_concat later with rfl | ⟨init, last, rfl⟩
  · obtain ⟨rfl, hax⟩ := List.append_inj' hsplit rfl
    cases hax
    rw [← h.files]
    exact ha hx
  · rw [List.concat_eq_append, ← List.cons_append, ← List.append_assoc] at hsplit
    exact h.kept earlier x init (List.append_inj_left' hsplit rfl) hx

theorem keep (h : Ledger before ps now) {a : Product} (hc : a.created = false)
    (hr : now.read a.path = some a.content) : Ledger before (ps ++ [a]) now := by
  have hsame : createdFiles (ps ++ [a]) = createdFiles ps := by
    rw [createdFiles_append]
    simp [createdFiles, hc]
  refine ⟨by rw [hsame]; exact h.files, fun x hx hnew => ?_, by rw [hsame]; exact h.distinct,
    h.kept_append fun _ => hr⟩
  rcases List.mem_append.1 hx with hx | hx
  · exact h.fresh x hx hnew
  · rw [List.mem_singleton.1 hx, hc] at hnew
    exact absurd hnew (by decide)

theorem create (h : Ledger before ps now) {a : Product} (hc : a.created = true)
    (hr : now.read a.path = none) : Ledger before (ps ++ [a]) (now.write a.path a.content) := by
  have hone : createdFiles [a] = [(a.path, a.content)] := by simp [createdFiles, hc]
  have hfree : before.read a.path = none := by
    rcases hb : before.read a.path with _ | content
    · rfl
    · exact absurd (hr.symm.trans (h.keeps_old hb)) nofun
  refine ⟨?_, fun x hx hnew => ?_, ?_, h.kept_append fun hold => absurd (hc.symm.trans hold) nofun⟩
  · rw [Memory.write_files hr, h.files, createdFiles_append, hone, List.append_assoc]
  · rcases List.mem_append.1 hx with hx | hx
    · exact h.fresh x hx hnew
    · rw [List.mem_singleton.1 hx]
      exact hfree
  · rw [createdFiles_append, hone, List.map_append, List.nodup_append]
    refine ⟨h.distinct, by simp, fun x hx y hy => ?_⟩
    rintro rfl
    rw [List.map_singleton, List.mem_singleton] at hy
    unfold Memory.read at hr
    rw [h.files, List.lookup_append, Option.or_eq_none_iff] at hr
    obtain ⟨entry, hentry, hpath⟩ := List.mem_map.1 hx
    have hne := List.lookup_eq_none_iff.1 hr.2 entry hentry
    rw [hpath, hy] at hne
    exact absurd hne (by simp)

end Ledger

section Simulation

variable {view : σ → Memory} {S : Store σ}

theorem makeDir_files (hS : S.Shows view) (path : String) (s : σ) :
    (view (S.makeDir path s).2).files = (view s).files := by
  rcases hS.makeDir path s with ⟨-, h⟩ | ⟨-, -, -, h⟩
  · rw [h, Memory.makeDir_files]
  · rw [h]

theorem prepare_files (hS : S.Shows view) (directory : String) (s : Session σ) :
    (view ((inSession S).prepare directory s).2.store).files = (view s.store).files := by
  rw [Store.prepare_apply]
  by_cases h : directory = "" ∨ (inSession S).isDir s directory = true
  · rw [if_pos h]
  · rw [if_neg h]
    exact makeDir_files hS directory s.store

/-- Writing to a free path adds an artifact to the account, or fails and leaves it. -/
theorem Ledger.write (hS : S.Shows view) {before : Memory} {ps : List Product} {s : Session σ}
    (h : Ledger before ps (view s.store)) {a : Product} (hc : a.created = true)
    (hr : (view s.store).read a.path = none) :
    match (inSession S).write a.path a.content s with
    | (.ok (), t) => Ledger before (ps ++ [a]) (view t.store)
    | (.error _, t) => Ledger before ps (view t.store) := by
  change (match onStore (S.write a.path a.content) s with | (.ok (), t) => _ | (.error _, t) => _)
  rw [onStore_apply]
  rcases hS.write a.path a.content s.store with ⟨hok, hview⟩ | ⟨f, -, herr, hview⟩
  · rw [hok]
    dsimp only
    rw [hview]
    exact h.create hc hr
  · rw [herr]
    dsimp only
    rw [hview]
    exact h

/-- Placing an artifact keeps the account, whether the store goes along or fails. -/
theorem Ledger.createFile (hS : S.Shows view) {before : Memory} {ps : List Product} (t : Template)
    (directory : String) {s : Session σ} (h : Ledger before ps (view s.store)) :
    Ledger before (ps ++ gained t ((inSession S).createFile directory t.fileName t.content s).1)
      (view ((inSession S).createFile directory t.fileName t.content s).2.store) := by
  rcases hread : (inSession S).read s (Store.join directory t.fileName) with _ | held
  · have hfiles := prepare_files hS directory s
    rw [Store.createFile_of_absent hread]
    rcases hp : (inSession S).prepare directory s with ⟨f | _, u⟩
    · rw [hp] at hfiles
      simp only [gained, List.append_nil]
      exact h.of_files hfiles
    · rw [hp] at hfiles
      -- Directories that were made do not touch files, so the path is still free.
      have hfree : (view u.store).read (Store.join directory t.fileName) = none := by
        unfold Memory.read
        rw [hfiles]
        exact (hS.read _ _).symm.trans hread
      have hwrite := (h.of_files hfiles).write hS (s := u)
        (a := productOf t ⟨Store.join directory t.fileName, Store.normalize t.content, true⟩) rfl hfree
      change (match (inSession S).write (Store.join directory t.fileName) (Store.normalize t.content) u with
        | (.ok (), t) => _ | (.error _, t) => _) at hwrite
      dsimp only
      rcases hw : (inSession S).write (Store.join directory t.fileName) (Store.normalize t.content) u
        with ⟨g | _, v⟩
      · rw [hw] at hwrite
        simp only [gained, List.append_nil]
        exact hwrite
      · rw [hw] at hwrite
        exact hwrite
  · rw [Store.createFile_of_read hread]
    exact h.keep rfl ((hS.read _ _).symm.trans hread)

/-- A run beside itself, with the account of what it has done so far. -/
def ledgerSimulation (hS : S.Shows view) (before : Memory) (l : Layout) (e : Entity) :
    Simulation l e (inSession S) (inSession S) :=
  selfSimulation (steady_inSession S) (fun a ps => Ledger before ps (view a))
    (fun path s h => h.of_files (makeDir_files hS path s.store)) l e
    (fun t directory _ _ h => h.createFile hS t directory)

theorem run_ledger (hS : S.Shows view) (l : Layout) (settings : Settings) (e : Entity)
    (directory : String) {s t : Session σ} {r : Result}
    (h : (Planner.mk l settings (inSession S)).run e directory s = (.ok r, t)) :
    Ledger (view s.store) r.products (view t.store) ∧
      (r.status = .skipped → t.store = s.store ∧ t.symbols = s.symbols) := by
  let p : Planner σ := ⟨l, settings, inSession S⟩
  change p.run e directory s = _ at h
  cases hs : s.busy with
  | true =>
    rw [p.run_of_busy e directory hs] at h
    exact nomatch h
  | false =>
    cases he : e.isEntity with
    | false =>
      rw [p.run_of_skipped directory hs he] at h
      cases h
      exact ⟨.start _, fun _ => ⟨rfl, rfl⟩⟩
    | true =>
      let L := ledgerSimulation hS (view s.store) l e
      have hstart : L.Related e 0 (p.started e directory s) s.store :=
        Simulation.related_started (p := p) L rfl ⟨rfl, .start _⟩ trivial
      obtain ⟨c, -, hend⟩ := Simulation.run_agrees (p := p) L hs he hstart rfl
      obtain ⟨hproducts, hstatus⟩ := p.run_ok hs he h
      rw [h] at hend
      rw [hproducts]
      exact ⟨hend.holds.2, fun hskipped => absurd hskipped hstatus⟩

/-- Whatever the store refuses, a run with a result leaves every file as it was, adds exactly the artifacts
that it reports as new, each at a path that was free, and reports the others with the content that was
there when they were placed and still is. A skipped run changes nothing. -/
theorem run_never_overwrites (hS : S.Shows view) (l : Layout) (settings : Settings) (e : Entity)
    (directory : String) {s t : Session σ} {r : Result}
    (h : (Planner.mk l settings (inSession S)).run e directory s = (.ok r, t)) :
    Ledger (view s.store) r.products (view t.store) ∧
      (∀ path content, (view s.store).read path = some content →
        (view t.store).read path = some content) ∧
      (∀ a ∈ r.products, a.created = false → (view t.store).read a.path = some a.content) ∧
      (r.status = .skipped → t.store = s.store ∧ t.symbols = s.symbols) := by
  obtain ⟨hledger, hskipped⟩ := run_ledger hS l settings e directory h
  exact ⟨hledger, fun _ _ => hledger.keeps_old, fun _ => hledger.kept_now, hskipped⟩

end Simulation

/-- A planner on a memory that may refuse to write and to make directories. -/
def memoryPlanner (l : Layout) (settings : Settings) (r : Store.Refusals) : Planner Memory :=
  ⟨l, settings, inSession (Memory.store.refusing r)⟩

/-- An entity whose classes all stand in their places already. -/
def sampleEntity : Entity := { name := "A", package := "m", annotations := ["Entity"] }

def sampleMemory : Memory :=
  .ofFiles (["repository/BaseRepository", "repository/ARepository", "service/dto/ADTO",
    "service/mapper/EntityMapper", "service/mapper/AMapper", "service/query/AQuery", "dao/ADao",
    "service/AService", "controller/AController"].map fun name => (name ++ ".java", ""))

/-- Only the mapping document of the entity is new. -/
theorem sample_completes :
    ((memoryPlanner {} {} {}).run sampleEntity "m" { store := sampleMemory }).1.toOption.map
        (fun r => (r.status, r.products.map (·.created))) =
      some (.completed, [false, false, false, false, false, false, false, true, false, false]) := by
  decide +kernel

theorem run_never_overwrites_sample : ∃ r t,
    (memoryPlanner {} {} {}).run sampleEntity "m" { store := sampleMemory } = (.ok r, t) ∧
      r.status = .completed ∧ Ledger sampleMemory r.products t.store := by
  have hrun := sample_completes
  rcases hx : (memoryPlanner {} {} {}).run sampleEntity "m" { store := sampleMemory } with ⟨_ | r, t⟩
  · rw [hx] at hrun
    exact nomatch hrun
  · rw [hx] at hrun
    refine ⟨r, t, rfl, congrArg Prod.fst (Option.some.inj hrun), ?_⟩
    exact (run_never_overwrites (Memory.shows_refusing {}) {} {} sampleEntity "m" hx).1

end Run

end Scaffold
