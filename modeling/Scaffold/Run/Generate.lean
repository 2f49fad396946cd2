import Scaffold.Run.Stage

/-! Runs: the stages of one entity one after the other, and at most one run at a time. -/

namespace Scaffold.Run

inductive Status where
  | skipped | completed | aborted
  deriving DecidableEq, Inhabited

def Status.text : Status → String
  | .skipped => "skipped"
  | .completed => "completed"
  | .aborted => "aborted"

/-- How a run ended. Skipped runs have no context; skipped and aborted ones name the stage at which
they ended. -/
structure Result where
  status : Status
  context : Option Context := none
  failedStage : Option Stage := none
  error : Option String := none
  deriving DecidableEq, Inhabited

def Result.products (r : Result) : List Product := (r.context.map (·.products)).getD []

namespace Planner

variable {σ : Type} (p : Planner σ)

/-- The context in which the run of an entity in some directory starts. -/
def firstContext (e : Entity) (directory : String) : Context where
  entity := e
  settings := p.settings.forEntity e
  dirs := { layout := p.layout, container := directory }

def aborted (stage : Stage) (f : Failure) : Step σ Result := do
  let c ← context
  say .error ("Generation of " ++ c.entity.name ++ " aborted at stage " ++ stage.text ++ ": "
    ++ f.message)
  return { status := .aborted, context := some c, failedStage := some stage, error := some f.message }

def completed : Step σ Result := do
  let c ← context
  say .info ("Generated " ++ toString c.products.length ++ " artifact(s) for " ++ c.entity.name ++ " ("
    ++ toString c.kept.length ++ " kept)")
  return { status := .completed, context := some c }

/-- Stages up to the first that fails. Failures of the store and of a stage abort the run; others end
it without a result. -/
def performAll : List Stage → Step σ Result
  | [] => completed
  | stage :: r => fun s =>
    match p.perform stage s with
    | (.ok (), s) => performAll r s
    | (.error f, s) => if f.abortsRun then aborted stage f s else (.error f, s)

def skipped (e : Entity) : Step σ Result := do
  say .info (e.name ++ " is not annotated with @Entity; nothing to generate")
  return { status := .skipped, failedStage := some .validateEntity }

/-- A run without regard to others. -/
def generate (e : Entity) (directory : String) : Step σ Result := do
  if e.isEntity then
    setContext fun _ => p.firstContext e (Store.stripSlashes directory)
    p.performAll (stages p.settings)
  else skipped e

end Planner

/-- Work that no other work of its kind may overlap with. An attempt while it is under way is turned
away; however it ends, it is no longer under way then. -/
def exclusively {σ α : Type} (work : Step σ α) : Step σ α := fun s =>
  if s.busy then (.error .inProgress, { s with turnedAway := s.turnedAway + 1 })
  else
    let (result, s) := work { s with busy := true }
    (result, { s with busy := false })

/-- Generates the artifacts of an entity that is declared in some directory. -/
def Planner.run {σ : Type} (p : Planner σ) (e : Entity) (directory : String) : Step σ Result :=
  exclusively (p.generate e directory)

/-- A store whose first write makes an attempt of its own, whatever comes of it. -/
def attemptingOnce {σ α : Type} (attempt : Step σ α) (store : Store (Session σ)) :
    Store (Session σ) :=
  { store with
    write := fun path content => do
      if (← get).turnedAway == 0 then
        tryCatch (do let _ ← attempt) fun _ => return
      store.write path content }

end Scaffold.Run
