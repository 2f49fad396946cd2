import Scaffold.Proofs.Run.Ledger

/-! Stores that keep a journal of what a run asks of them. The journal changes nothing, and what it holds
of written files are the new artifacts of the run. -/

namespace Scaffold.Run

variable {σ τ : Type}

inductive Request where
  | makeDir (path : String)
  | write (path content : String)
  deriving DecidableEq

/-- A request with the session in which it was made, and the failure that it met. -/
structure Event (σ : Type) where
  request : Request
  before : Session σ
  failure : Option Failure

/-- The path and the content of a file that was written. -/
def Event.written? (ev : Event σ) : Option (String × String) :=
  match ev.request, ev.failure with
  | .write path content, none => some (path, content)
  | _, _ => none

structure Journaled (σ : Type) where
  store : σ
  events : List (Event σ) := []

namespace Session

/-- A session without the journal of its store. -/
def plain (s : Session (Journaled σ)) : Session σ := s.on s.store.store

/-- A session with a journal. -/
def journal (s : Session σ) (events : List (Event σ)) : Session (Journaled σ) :=
  s.on ⟨s.store, events⟩

theorem journal_events (s : Session σ) (events : List (Event σ)) :
    (s.journal events).store.events = events := rfl

end Session

def failureOf {α : Type} : Except Failure α → Option Failure
  | .ok _ => none
  | .error f => some f

def Request.ask (S : Store (Session σ)) : Request → Step σ Unit
  | .makeDir path => S.makeDir path
  | .write path content => S.write path content

/-- An event that is noted as it happened. -/
def Event.Honest (S : Store (Session σ)) (ev : Event σ) : Prop :=
  ev.failure = failureOf (ev.request.ask S ev.before).1

/-- Work on the store, noted as a request. -/
def recorded (request : Request) (work : Step σ Unit) : Step (Journaled σ) Unit := fun s =>
  let (result, t) := work s.plain
  (result, t.journal (s.store.events ++ [⟨request, s.plain, failureOf result⟩]))

def journaling (S : Store (Session σ)) : Store (Session (Journaled σ)) where
  isDir s path := S.isDir s.plain path
  read s path := S.read s.plain path
  makeDir path := recorded (.makeDir path) (S.makeDir path)
  write path content := recorded (.write path content) (S.write path content)

namespace Journaled

variable {S : Store (Session σ)}

theorem makeDir_apply (path : String) (s : Session (Journaled σ)) :
    (journaling S).makeDir path s = ((S.makeDir path s.plain).1, (S.makeDir path s.plain).2.journal
      (s.store.events ++ [⟨.makeDir path, s.plain, failureOf (S.makeDir path s.plain).1⟩])) := rfl

theorem write_apply (path content : String) (s : Session σ) (events : List (Event σ)) :
    (journaling S).write path content (s.journal events) =
      ((S.write path content s).1, (S.write path content s).2.journal
        (events ++ [⟨.write path content, s, failureOf (S.write path content s).1⟩])) := rfl

theorem prepare_apply (directory : String) (s : Session (Journaled σ)) :
    ∃ events : List (Event σ), (∀ ev ∈ events, ev.Honest S ∧ ∃ path, ev.request = .makeDir path) ∧
      (journaling S).prepare directory s = ((S.prepare directory s.plain).1,
        (S.prepare directory s.plain).2.journal (s.store.events ++ events)) := by
  have hdir : (journaling S).isDir s directory = S.isDir s.plain directory := rfl
  rw [Store.prepare_apply, Store.prepare_apply, hdir]
  by_cases h : directory = "" ∨ S.isDir s.plain directory = true
  · rw [if_pos h, if_pos h]
    refine ⟨[], fun ev hev => absurd hev List.not_mem_nil, ?_⟩
    rw [List.append_nil]
    rfl
  · rw [if_neg h, if_neg h, makeDir_apply]
    refine ⟨_, ?_, rfl⟩
    intro ev hev
    rw [List.mem_singleton.1 hev]
    exact ⟨rfl, directory, rfl⟩

theorem prepare_context (hS : Steady S) (directory : String) (s : Session σ) :
    (S.prepare directory s).2.context = s.context := by
  rw [Store.prepare_apply]
  by_cases h : directory = "" ∨ S.isDir s directory = true
  · rw [if_pos h]
  · rw [if_neg h]
    exact hS.makeDir directory s

end Journaled

theorem steady_journaling {S : Store (Session σ)} (hS : Steady S) : Steady (journaling S) :=
  ⟨fun path s => hS.makeDir path s.plain, fun path content s => hS.write path content s.plain⟩

/-- How a journal goes with the artifacts of a run: it has a written file for every new one, and at the
time of writing the artifacts before that one were there. -/
structure Chronicle (S : Store (Session σ)) (events : List (Event σ)) (ps : List Product) : Prop where
  honest : ∀ ev ∈ events, ev.Honest S
  writes : events.filterMap Event.written? = createdFiles ps
  moments : ∀ earlier ev later entry, events = earlier ++ ev :: later → ev.written? = some entry →
    createdFiles ev.before.context.products = earlier.filterMap Event.written? ∧
      ∃ a rest, ps = ev.before.context.products ++ a :: rest ∧ a.created = true ∧
        (a.path, a.content) = entry

namespace Chronicle

variable {S : Store (Session σ)} {events : List (Event σ)} {ps : List Product}

theorem nil : Chronicle S [] [] :=
  ⟨fun _ hev => absurd hev List.not_mem_nil, rfl, fun _ _ _ _ h => absurd h.symm (by simp)⟩

/-- Requests for directories, and for files that are not written, leave nothing behind. -/
theorem append_unwritten (h : Chronicle S events ps) {more : List (Event σ)}
    (hmore : ∀ ev ∈ more, ev.Honest S ∧ ev.written? = none) : Chronicle S (events ++ more) ps := by
  have hnone : more.filterMap Event.written? = [] :=
    List.filterMap_eq_nil_iff.2 fun ev hev => (hmore ev hev).2
  refine ⟨fun ev hev => ?_, by rw [List.filterMap_append, hnone, List.append_nil]; exact h.writes, ?_⟩
  · rcases List.mem_append.1 hev with hev | hev
    · exact h.honest ev hev
    · exact (hmore ev hev).1
  intro earlier ev later entry hsplit hev
  rcases List.append_eq_append_iff.1 hsplit with ⟨mid, rfl, hmid⟩ | ⟨mid, rfl, hmid⟩
  · have hmem : ev ∈ more := by rw [hmid]; simp
    exact absurd ((hmore ev hmem).2.symm.trans hev) nofun
  · cases mid with
    | nil =>
      have hmem : ev ∈ more := by rw [← List.nil_append more, ← hmid]; simp
      exact absurd ((hmore ev hmem).2.symm.trans hev) nofun
    | cons first rest =>
      obtain ⟨rfl, rfl⟩ := List.cons.inj hmid
      exact h.moments earlier ev rest entry rfl hev

theorem append_kept (h : Chronicle S events ps) {a : Product} (hc : a.created = false) :
    Chronicle S events (ps ++ [a]) := by
  have hone : createdFiles [a] = [] := by simp [createdFiles, hc]
  refine ⟨h.honest, by rw [createdFiles_append, hone, List.append_nil]; exact h.writes, ?_⟩
  intro earlier ev later entry hsplit hev
  obtain ⟨hfiles, b, rest, hps, hb, hentry⟩ := h.moments earlier ev later entry hsplit hev
  exact ⟨hfiles, b, rest ++ [a], by rw [hps, List.append_assoc, List.cons_append], hb, hentry⟩

/-- A file that is written goes with the artifact that is new by it. -/
theorem append_written (h : Chronicle S events ps) {ev : Event σ} {a : Product} (hh : ev.Honest S)
    (hc : a.created = true) (hev : ev.written? = some (a.path, a.content))
    (hbefore : ev.before.context.products = ps) : Chronicle S (events ++ [ev]) (ps ++ [a]) := by
  have hone : createdFiles [a] = [(a.path, a.content)] := by simp [createdFiles, hc]
  refine ⟨fun x hx => ?_, ?_, ?_⟩
  · rcases List.mem_append.1 hx with hx | hx
    · exact h.honest x hx
    · rw [List.mem_singleton.1 hx]
      exact hh
  · rw [List.filterMap_append, h.writes, createdFiles_append, hone]
    simp [hev]
  · -- The moment is the new event's own, or it is one of the moments before.
    intro earlier x later entry hsplit hx
    rcases List.eq_nil_or_concat later with rfl | ⟨init, last, rfl⟩
    · obtain ⟨rfl, hlast⟩ := List.append_inj' hsplit rfl
      cases hlast
      rw [hev] at hx
      cases hx
      rw [hbefore]
      exact ⟨h.writes.symm, a, [], rfl, hc, rfl⟩
    · rw [List.concat_eq_append, ← List.cons_append, ← List.append_assoc] at hsplit
      obtain ⟨hfiles, b, rest, hps, hb, hentry⟩ :=
        h.moments earlier x init entry (List.append_inj_left' hsplit rfl) hx
      refine ⟨hfiles, b, rest ++ [a], ?_, hb, hentry⟩
      rw [hps, List.append_assoc, List.cons_append]

end Chronicle

/-- Placing an artifact notes it in the journal, if it is new, and does otherwise what the store does. -/
theorem createFile_journaling {S : Store (Session σ)} (hS : Steady S) (t : Template) (directory : String)
    {s : Session (Journaled σ)} (h : Chronicle S s.store.events s.context.products) :
    ((journaling S).createFile directory t.fileName t.content s).1 =
        (S.createFile directory t.fileName t.content s.plain).1 ∧
      ((journaling S).createFile directory t.fileName t.content s).2.plain =
        (S.createFile directory t.fileName t.content s.plain).2 ∧
      Chronicle S ((journaling S).createFile directory t.fileName t.content s).2.store.events
        (s.context.products ++
          gained t ((journaling S).createFile directory t.fileName t.content s).1) := by
  have hread : (journaling S).read s (Store.join directory t.fileName) =
    S.read s.plain (Store.join directory t.fileName) := rfl
  rcases hr : S.read s.plain (Store.join directory t.fileName) with _ | held
  · rw [Store.createFile_of_absent hr, Store.createFile_of_absent (hread.trans hr)]
    obtain ⟨events, hevents, hprepare⟩ := Journaled.prepare_apply (S := S) directory s
    have hcontext := Journaled.prepare_context hS directory s.plain
    have hnoted : Chronicle S (s.store.events ++ events) s.context.products := by
      refine h.append_unwritten fun ev hev => ?_
      obtain ⟨hhonest, path, hpath⟩ := hevents ev hev
      refine ⟨hhonest, ?_⟩
      unfold Event.written?
      rw [hpath]
    rw [hprepare]
    -- Requests for directories leave no file, nor does a write that fails.
    rcases hp : S.prepare directory s.plain with ⟨f | _, u⟩
    · refine ⟨rfl, rfl, ?_⟩
      simp only [gained, List.append_nil]
      exact hnoted
    · rw [hp] at hcontext
      dsimp only
      rw [Journaled.write_apply]
      have hhonest : Event.Honest S ⟨.write (Store.join directory t.fileName) (Store.normalize t.content), u,
        failureOf (S.write (Store.join directory t.fileName) (Store.normalize t.content) u).1⟩ := rfl
      rcases hw : S.write (Store.join directory t.fileName) (Store.normalize t.content) u with ⟨g | _, v⟩
      · rw [hw] at hhonest
        refine ⟨rfl, rfl, ?_⟩
        simp only [gained, List.append_nil]
        refine hnoted.append_unwritten fun ev hev => ?_
        rw [List.mem_singleton.1 hev]
        exact ⟨hhonest, rfl⟩
      · rw [hw] at hhonest
        exact ⟨rfl, rfl, hnoted.append_written hhonest rfl rfl (congrArg Context.products hcontext)⟩
  · rw [Store.createFile_of_read hr, Store.createFile_of_read (hread.trans hr)]
    exact ⟨rfl, rfl, h.append_kept rfl⟩

/-- A run with a journal beside the run without it. -/
def journalSimulation {S : Store (Session σ)} (hS : Steady S) (l : Layout) (e : Entity) :
    Simulation l e (journaling S) S where
  holds a ps b := a.store = b ∧ Chronicle S a.events ps
  known _ _ := True
  verdict _ := .agree
  roots _ := ⟨trivial, trivial, trivial⟩
  above _ _ _ := trivial
  isDir := by
    rintro s b d name ⟨rfl, -⟩ - -
    rfl
  found _ _ _ _ := trivial
  steady := steady_journaling hS
  makeDir_settled _ _ := .inl rfl
  write_settled _ _ _ := .inl rfl
  makeDir_parts _ _ _ _ _ := nofun
  makeDir := by
    rintro s b d name - ⟨rfl, h⟩ - - -
    refine ⟨_, rfl, fun _ _ => trivial, ⟨rfl, h.append_unwritten fun ev hev => ?_⟩, fun _ _ => trivial⟩
    rw [List.mem_singleton.1 hev]
    exact ⟨rfl, rfl⟩
  createFile := by
    rintro s b t d - ⟨rfl, h⟩ - - -
    obtain ⟨hresult, hplain, hnoted⟩ := createFile_journaling hS t d h
    refine ⟨((journaling S).createFile d t.fileName t.content s).2.store.store, ?_,
      fun _ _ => trivial, rfl, hnoted⟩
    rw [hresult]
    exact Prod.ext rfl hplain.symm

variable {p : Planner σ} {e : Entity} {s : Session σ}

theorem related_journal_started (hS : Steady p.store) (e : Entity) (directory : String) (s : Session σ) :
    (journalSimulation hS p.layout e).Related e 0
      ((p.on (journaling p.store)).started e directory (s.journal [])) s.store :=
  Simulation.related_started (p := p.on (journaling p.store)) (journalSimulation hS p.layout e) rfl
    ⟨rfl, .nil⟩ trivial

/-- The journal changes nothing about a run, and is its chronicle. -/
theorem run_journal (hS : Steady p.store) (directory : String) (hs : s.busy = false)
    (he : e.isEntity = true) :
    p.run e directory s =
        (((p.on (journaling p.store)).run e directory (s.journal [])).1,
          ((p.on (journaling p.store)).run e directory (s.journal [])).2.plain) ∧
      Chronicle p.store ((p.on (journaling p.store)).run e directory (s.journal [])).2.store.events
        ((p.on (journaling p.store)).run e directory (s.journal [])).2.context.products := by
  obtain ⟨c, hrun, hend⟩ := Simulation.run_agrees (p := p.on (journaling p.store))
    (journalSimulation hS p.layout e) hs he (related_journal_started hS e directory s) rfl
  refine ⟨hrun.trans ?_, hend.holds.2⟩
  rw [← hend.holds.1]
  rfl

theorem through_journal (hS : Steady p.store) (e : Entity) (directory : String) (s : Session σ)
    {done : List Stage} (h : Ascending 0 done) :
    p.through done (p.started e directory s) =
        (((p.on (journaling p.store)).through done
            ((p.on (journaling p.store)).started e directory (s.journal []))).1,
          ((p.on (journaling p.store)).through done
            ((p.on (journaling p.store)).started e directory (s.journal []))).2.plain) ∧
      Chronicle p.store
        ((p.on (journaling p.store)).through done
          ((p.on (journaling p.store)).started e directory (s.journal []))).2.store.events
        ((p.on (journaling p.store)).through done
          ((p.on (journaling p.store)).started e directory (s.journal []))).2.context.products := by
  obtain ⟨-, hout⟩ := Simulation.follows_through (p := p.on (journaling p.store)) (F := {})
    (journalSimulation hS p.layout e) done h
    ((p.on (journaling p.store)).started e directory (s.journal [])) s.store
  obtain ⟨c, hrun, -, hend, -⟩ :=
    (hout (related_journal_started hS e directory s) (Comparison.knows_empty _)).agrees rfl
  refine ⟨Eq.trans hrun ?_, hend.holds.2⟩
  rw [← hend.holds.1]
  rfl

end Scaffold.Run
