import Scaffold.Log
import Scaffold.Run.Context
import Scaffold.Store.Basic
import Scaffold.Symbols.Table

/-! Sessions: the state that runs share, and steps on it. -/

namespace Scaffold.Run

/-- A store with states in `σ`, the classes known, the log, the run under way or the last one, whether
one is under way, and how many attempts were turned away because of that. -/
structure Session (σ : Type) where
  store : σ
  symbols : Symbols := {}
  log : List LogLine := []
  context : Context := default
  busy : Bool := false
  turnedAway : Nat := 0

abbrev Step (σ α : Type) := Effect (Session σ) α

variable {σ α : Type}

/-- Work on the store of a session. -/
def onStore (work : Effect σ α) : Step σ α := fun s =>
  let (result, store) := work s.store
  (result, { s with store })

def inSession (store : Store σ) : Store (Session σ) where
  isDir s path := store.isDir s.store path
  read s path := store.read s.store path
  makeDir path := onStore (store.makeDir path)
  write path content := onStore (store.write path content)

def say (level : Level) (text : String) : Step σ Unit :=
  modify fun s => { s with log := s.log ++ [⟨level, text⟩] }

def context : Step σ Context := return (← get).context

def setContext (change : Context → Context) : Step σ Unit :=
  modify fun s => { s with context := change s.context }

def setDirs (change : Directories → Directories) : Step σ Unit :=
  setContext fun c => { c with dirs := change c.dirs }

def setHandle (kind : ArtifactKind) (h : Handle) : Step σ Unit :=
  setContext fun c => { c with handles := Entries.put kind h c.handles }

/-- The handle of an artifact that an earlier stage has placed. -/
def require (kind : ArtifactKind) : Step σ Handle := do
  match (← context).handle? kind with
  | some h => return h
  | none => throw (.notGenerated kind)

/-- The first class of a name that satisfies `p`. -/
def classWhere? (p : Handle → Bool) (name : String) : Step σ (Option Handle) :=
  return (← get).symbols.findWhere? p name

def class? (name : String) : Step σ (Option Handle) := classWhere? (fun _ => true) name

end Scaffold.Run
