import Scaffold.Proofs.Run.Anatomy
import Scaffold.Proofs.Run.Ledger

/-! Runs never overlap, although the work inside of one may ask for others. The moves of an execution are the
beginnings and the ends of runs and the attempts that were turned away. -/

namespace Scaffold.Run

open Scaffold.Store (Memory)

variable {σ α β : Type}

inductive Move (σ : Type) where
  | begun
  | ended
  | refused (f : Failure) (before after : Session σ)

/-- Work that neither takes nor gives back the session, and that is no attempt to do so. -/
def Unguarded (m : Step σ α) : Prop :=
  Effect.Keeps (fun s t : Session σ => t.busy = s.busy ∧ t.turnedAway = s.turnedAway) m

/-- The moves that a step makes when it begins in a session. -/
inductive Moves : ∀ {α : Type}, Step σ α → Session σ → List (Move σ) → Prop
  | own {α : Type} {m : Step σ α} {s : Session σ} (h : Unguarded m) : Moves m s []
  | accepted {α : Type} {work : Step σ α} {s : Session σ} {ms : List (Move σ)} (hs : s.busy = false)
      (h : Moves work { s with busy := true } ms) : Moves (exclusively work) s (.begun :: (ms ++ [.ended]))
  | turned {α : Type} {work : Step σ α} {s t : Session σ} {f : Failure} (hs : s.busy = true)
      (h : exclusively work s = (.error f, t)) : Moves (exclusively work) s [.refused f s t]
  | ok {α β : Type} {m : Step σ α} {f : α → Step σ β} {h : Failure → Step σ β} {s t : Session σ} {a : α}
      {ms ns : List (Move σ)} (hm : Moves m s ms) (hx : m s = (.ok a, t)) (hf : Moves (f a) t ns) :
      Moves (Effect.branch m f h) s (ms ++ ns)
  | failed {α β : Type} {m : Step σ α} {f : α → Step σ β} {h : Failure → Step σ β} {s t : Session σ}
      {e : Failure} {ms ns : List (Move σ)} (hm : Moves m s ms) (hx : m s = (.error e, t))
      (hh : Moves (h e) t ns) : Moves (Effect.branch m f h) s (ms ++ ns)

/-- How many runs are under way after some moves. -/
def underWay : Nat → List (Move σ) → Nat
  | n, [] => n
  | n, .begun :: ms => underWay (n + 1) ms
  | n, .ended :: ms => underWay (n - 1) ms
  | n, .refused _ _ _ :: ms => underWay n ms

/-- Moves of which no two runs overlap: never more than one is under way, an attempt during one fails with the
guard's own failure and changes nothing but the count of such attempts, and in the end none is under way. -/
structure Single (ms : List (Move σ)) : Prop where
  alone : ∀ before after, ms = before ++ after → underWay 0 before ≤ 1
  refused : ∀ before f s t after, ms = before ++ .refused f s t :: after →
    underWay 0 before = 1 ∧ f = .inProgress ∧ t = { s with turnedAway := s.turnedAway + 1 }
  ended : underWay 0 ms = 0

/-- Moves that lead from one state of the guard to another one. -/
def Leading : Bool → List (Move σ) → Bool → Prop
  | b, [], c => b = c
  | b, .begun :: ms, c => b = false ∧ Leading true ms c
  | b, .ended :: ms, c => b = true ∧ Leading false ms c
  | b, .refused f s t :: ms, c =>
    (b = true ∧ f = .inProgress ∧ t = { s with turnedAway := s.turnedAway + 1 }) ∧ Leading b ms c

section Leading

variable {ms ns : List (Move σ)} {b c d : Bool}

theorem leading_append : Leading b (ms ++ ns) d ↔ ∃ c, Leading b ms c ∧ Leading c ns d := by
  induction ms generalizing b with
  | nil => exact ⟨fun h => ⟨b, rfl, h⟩, fun ⟨_, hb, h⟩ => hb ▸ h⟩
  | cons m ms ih =>
    cases m with
    | begun =>
      change _ ∧ Leading true (ms ++ ns) d ↔ ∃ c, (_ ∧ Leading true ms c) ∧ Leading c ns d
      rw [ih]
      exact ⟨fun ⟨hb, c, h, k⟩ => ⟨c, ⟨hb, h⟩, k⟩, fun ⟨c, ⟨hb, h⟩, k⟩ => ⟨hb, c, h, k⟩⟩
    | ended =>
      change _ ∧ Leading false (ms ++ ns) d ↔ ∃ c, (_ ∧ Leading false ms c) ∧ Leading c ns d
      rw [ih]
      exact ⟨fun ⟨hb, c, h, k⟩ => ⟨c, ⟨hb, h⟩, k⟩, fun ⟨c, ⟨hb, h⟩, k⟩ => ⟨hb, c, h, k⟩⟩
    | refused f s t =>
      change _ ∧ Leading b (ms ++ ns) d ↔ ∃ c, (_ ∧ Leading b ms c) ∧ Leading c ns d
      rw [ih]
      exact ⟨fun ⟨hb, c, h, k⟩ => ⟨c, ⟨hb, h⟩, k⟩, fun ⟨c, ⟨hb, h⟩, k⟩ => ⟨hb, c, h, k⟩⟩

theorem underWay_of_leading (h : Leading b ms c) : underWay b.toNat ms = c.toNat := by
  induction ms generalizing b with
  | nil => exact congrArg Bool.toNat h
  | cons m ms ih =>
    cases m with
    | begun =>
      obtain ⟨rfl, h⟩ := h
      exact ih h
    | ended =>
      obtain ⟨rfl, h⟩ := h
      exact ih h
    | refused f s t => exact ih h.2

theorem single_of_leading (h : Leading false ms false) : Single ms where
  alone before after hms := by
    rw [hms, leading_append] at h
    obtain ⟨c, hbefore, -⟩ := h
    have hcount : underWay 0 before = c.toNat := underWay_of_leading hbefore
    rw [hcount]
    exact c.toNat_le
  refused before f s t after hms := by
    rw [hms, leading_append] at h
    obtain ⟨c, hbefore, ⟨rfl, hf, ht⟩, -⟩ := h
    exact ⟨underWay_of_leading hbefore, hf, ht⟩
  ended := underWay_of_leading h

end Leading

section Guard

variable {m work : Step σ α} {s t : Session σ} {ms : List (Move σ)}

theorem exclusively_of_busy (hs : s.busy = true) (work : Step σ α) :
    exclusively work s = (.error .inProgress, { s with turnedAway := s.turnedAway + 1 }) := by
  unfold exclusively
  rw [if_pos hs]

theorem exclusively_of_free (hs : s.busy = false) (work : Step σ α) :
    exclusively work s = Planner.released (work { s with busy := true }) := by
  unfold exclusively Planner.released
  rw [if_neg (by rw [hs]; decide)]
  rcases work { s with busy := true } with ⟨x, t⟩
  rfl

theorem Moves.busy (h : Moves m s ms) : (m s).2.busy = s.busy := by
  induction h with
  | own h => exact (h _).1
  | accepted hs _ _ =>
    rw [exclusively_of_free hs, hs]
    rfl
  | turned hs _ => rw [exclusively_of_busy hs]
  | ok hm hx hf ihm ihf =>
    unfold Effect.branch
    rw [hx] at ihm ⊢
    exact ihf.trans ihm
  | failed hm hx hh ihm ihh =>
    unfold Effect.branch
    rw [hx] at ihm ⊢
    exact ihh.trans ihm

theorem Moves.leading (h : Moves m s ms) : Leading s.busy ms s.busy := by
  induction h with
  | own _ => rfl
  | accepted hs _ ih =>
    refine ⟨hs, leading_append.2 ⟨true, ih, rfl, ?_⟩⟩
    exact hs.symm
  -- The run that is turned away leaves the flag as it found it.
  | turned hs hx =>
    rw [exclusively_of_busy hs] at hx
    cases hx
    exact ⟨⟨hs, rfl, rfl⟩, rfl⟩
  | ok hm hx _ ihm ihf =>
    have hbusy := hm.busy
    rw [hx] at hbusy
    rw [hbusy] at ihf
    exact leading_append.2 ⟨_, ihm, ihf⟩
  | failed hm hx _ ihm ihh =>
    have hbusy := hm.busy
    rw [hx] at hbusy
    rw [hbusy] at ihh
    exact leading_append.2 ⟨_, ihm, ihh⟩

end Guard

/-- Work that a run may do: its own, and attempts to begin any work of the guarded kind, whatever comes of them.
All of it may fail. -/
inductive Reentrant : ∀ {α : Type}, Step σ α → Prop
  | own {α : Type} {m : Step σ α} (h : Unguarded m) : Reentrant m
  | attempt {α : Type} (work : Step σ α) : Reentrant (exclusively work)
  | branch {α β : Type} {m : Step σ α} {f : α → Step σ β} {h : Failure → Step σ β} (hm : Reentrant m)
      (hf : ∀ a, Reentrant (f a)) (hh : ∀ e, Reentrant (h e)) : Reentrant (Effect.branch m f h)

namespace Reentrant

variable {m : Step σ α}

/-- Inside of a run an attempt is turned away, so that all moves are known. -/
theorem moves (h : Reentrant m) {s : Session σ} (hs : s.busy = true) : ∃ ms, Moves m s ms := by
  induction h generalizing s with
  | own h => exact ⟨[], .own h⟩
  | attempt work => exact ⟨_, .turned hs (exclusively_of_busy hs work)⟩
  | @branch _ _ m f h _ _ _ ihm ihf ihh =>
    obtain ⟨ms, hms⟩ := ihm hs
    have hbusy := hms.busy
    rcases hx : m s with ⟨e | a, t⟩ <;> rw [hx] at hbusy
    · obtain ⟨ns, hns⟩ := ihh e (hbusy.trans hs)
      exact ⟨ms ++ ns, .failed hms hx hns⟩
    · obtain ⟨ns, hns⟩ := ihf a (hbusy.trans hs)
      exact ⟨ms ++ ns, .ok hms hx hns⟩

theorem bind {f : α → Step σ β} (hm : Reentrant m) (hf : ∀ a, Reentrant (f a)) : Reentrant (m >>= f) := by
  rw [Effect.bind_eq_branch]
  exact .branch hm hf fun _ => .own fun _ => ⟨rfl, rfl⟩

theorem tryCatch {h : Failure → Step σ α} (hm : Reentrant m) (hh : ∀ e, Reentrant (h e)) :
    Reentrant (tryCatch m h) := by
  rw [Effect.tryCatch_eq_branch]
  exact .branch hm (fun _ => .own fun _ => ⟨rfl, rfl⟩) hh

theorem onStore (work : Effect σ α) : Reentrant (onStore work) := .own fun _ => ⟨rfl, rfl⟩

end Reentrant

/-- A store in a session whose work may ask for runs. -/
structure Reenters (S : Store (Session σ)) : Prop where
  makeDir : ∀ path, Reentrant (S.makeDir path)
  write : ∀ path content, Reentrant (S.write path content)

theorem Made.reentrant {p : Planner σ} {lo hi : Nat} {m : Step σ α} (h : Made p lo hi m)
    (hp : Reenters p.store) : Reentrant m := by
  induction h with
  | aside h => exact .own fun s => ⟨(h s).busy, (h s).turnedAway⟩
  | enter symbols => exact .own fun _ => ⟨rfl, rfl⟩
  | handle x _ _ => exact .own fun _ => ⟨rfl, rfl⟩
  | product a => exact .own fun _ => ⟨rfl, rfl⟩
  | makeDir path => exact hp.makeDir path
  | write path content => exact hp.write path content
  | branch _ _ _ ihm ihf ihh => exact .branch ihm ihf ihh

theorem reentrant_generate {p : Planner σ} (hp : Reenters p.store) (e : Entity) (directory : String) :
    Reentrant (p.generate e directory) := by
  unfold Planner.generate
  by_cases he : e.isEntity = true
  · rw [if_pos he]
    refine .bind (.own fun _ => ⟨rfl, rfl⟩) fun _ => ?_
    exact (Made.performAll p (ascending_stages p.settings)).reentrant hp
  · rw [if_neg he]
    exact .own fun _ => ⟨rfl, rfl⟩

/-- Works of the guarded kind one after the other, whatever becomes of those before. -/
def oneByOne : List (Step σ α) → Step σ Unit
  | [] => pure ()
  | work :: rest => Effect.branch (exclusively work) (fun _ => oneByOne rest) fun _ => oneByOne rest

theorem moves_oneByOne {works : List (Step σ α)} (h : ∀ work ∈ works, Reentrant work) {s : Session σ}
    (hs : s.busy = false) : ∃ ms, Moves (oneByOne works) s ms := by
  induction works generalizing s with
  | nil => exact ⟨[], .own fun _ => ⟨rfl, rfl⟩⟩
  | cons work rest ih =>
    obtain ⟨ms, hms⟩ := (h work List.mem_cons_self).moves (s := { s with busy := true }) rfl
    have hfirst : Moves (exclusively work) s _ := .accepted hs hms
    have hbusy := hfirst.busy
    have hrest : ∀ w ∈ rest, Reentrant w := fun w hw => h w (List.mem_cons_of_mem work hw)
    rcases hx : exclusively work s with ⟨e | a, t⟩ <;> rw [hx] at hbusy
    · obtain ⟨ns, hns⟩ := ih hrest (hbusy.trans hs)
      exact ⟨_, .failed hfirst hx hns⟩
    · obtain ⟨ns, hns⟩ := ih hrest (hbusy.trans hs)
      exact ⟨_, .ok hfirst hx hns⟩

theorem reenters_inSession (S : Store σ) : Reenters (inSession S) where
  makeDir path := .onStore (S.makeDir path)
  write path content := .onStore (S.write path content)

theorem reenters_attemptingOnce {S : Store (Session σ)} (hS : Reenters S) (work : Step σ α) :
    Reenters (attemptingOnce (exclusively work) S) where
  makeDir path := hS.makeDir path
  write path content := by
    have hattempt : Reentrant (tryCatch (do let _ ← exclusively work) fun _ => pure ()) :=
      .tryCatch (.bind (.attempt work) fun _ => .own fun _ => ⟨rfl, rfl⟩) fun _ => .own fun _ => ⟨rfl, rfl⟩
    have hget : Reentrant (get : Step σ (Session σ)) := .own fun _ => ⟨rfl, rfl⟩
    refine .bind hget fun s => ?_
    by_cases h : (s.turnedAway == 0) = true
    · rw [if_pos h]
      exact .bind hattempt fun _ => hS.write path content
    · rw [if_neg h]
      exact hS.write path content

/-- A run that was aborted was so by a failure of the store or of its own stage, never by an attempt inside of it
that was turned away. -/
theorem aborted_by_own_failure {p : Planner σ} {stages : List Stage} {s t : Session σ} {r : Result}
    (h : p.performAll stages s = (.ok r, t)) (hr : r.status = .aborted) :
    ∃ stage ∈ stages, ∃ f u v, p.perform stage u = (.error f, v) ∧ f ≠ .inProgress ∧
      r.failedStage = some stage ∧ r.error = some f.message := by
  induction stages generalizing s with
  | nil =>
    cases h
    exact nomatch hr
  | cons stage rest ih =>
    rw [Planner.performAll_cons] at h
    rcases hx : p.perform stage s with ⟨f | _, u⟩ <;> rw [hx] at h
    · by_cases hf : f.abortsRun = true
      · dsimp only at h
        rw [if_pos hf] at h
        cases h
        refine ⟨stage, List.mem_cons_self, f, s, _, hx, ?_, rfl, rfl⟩
        -- A run turned away for another one in progress does not end as aborted.
        rintro rfl
        exact nomatch hf
      · dsimp only at h
        rw [if_neg hf] at h
        exact nomatch h
    · obtain ⟨later, hmem, hlater⟩ := ih h
      exact ⟨later, List.mem_cons_of_mem stage hmem, hlater⟩

/-- A planner whose first write asks for a run, and two runs of it. -/
def restlessPlanner : Planner Memory where
  layout := {}
  settings := {}
  store := attemptingOnce ((memoryPlanner {} {} {}).run sampleEntity "m") (inSession Memory.store)

def restlessRuns : List (Step Memory Result) :=
  [restlessPlanner.generate sampleEntity "m", restlessPlanner.generate sampleEntity "m"]

end Scaffold.Run
