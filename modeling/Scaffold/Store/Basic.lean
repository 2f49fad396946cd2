import Scaffold.Failure

/-! Stores of generated files. A file that is there already is kept. -/

namespace Scaffold

/-- Work on a state that may fail; what was done before a failure stays. -/
abbrev Effect (σ α : Type) := ExceptT Failure (StateM σ) α

/-- What a store with states in `σ` can do. -/
structure Store (σ : Type) where
  isDir : σ → String → Bool
  read : σ → String → Option String
  makeDir : String → Effect σ Unit
  write : String → String → Effect σ Unit

namespace Store

variable {σ : Type} (s : Store σ)

def findSubdir? (state : σ) (directory name : String) : Option String :=
  let path := join directory name
  if s.isDir state path then some path else none

/-- A directory below another one, made if it is not there. -/
def subdir (directory name : String) : Effect σ String := do
  let path := join directory name
  if !s.isDir (← get) path then s.makeDir path
  return path

/-- A file that was asked for, and whether it is new. -/
structure Placed where
  path : String
  content : String
  created : Bool
  deriving DecidableEq, Inhabited

/-- Makes the directory of a new file, if it needs one. -/
def prepare (directory : String) : Effect σ Unit := do
  if directory != "" && !s.isDir (← get) directory then s.makeDir directory

/-- A file below a directory: the one that is there, or else a new one with the given content. -/
def createFile (directory name content : String) : Effect σ Placed := do
  let path := join directory name
  match s.read (← get) path with
  | some content => return { path, content, created := false }
  | none =>
    s.prepare directory
    let content := normalize content
    s.write path content
    return { path, content, created := true }

/-- Paths at which a store refuses to write or to make a directory, with the reasons that it gives. -/
structure Refusals where
  write : String → Option String := fun _ => none
  makeDir : String → Option String := fun _ => none

/-- Refusals come before anything is done. -/
def refusing (r : Refusals) : Store σ :=
  { s with
    makeDir := fun path =>
      match r.makeDir path with
      | some reason => throw (.refused reason)
      | none => s.makeDir path
    write := fun path content =>
      match r.write path with
      | some reason => throw (.refused reason)
      | none => s.write path content }

end Store

end Scaffold
