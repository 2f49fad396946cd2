import Scaffold.Run.Session
import Scaffold.Source.Entity
import Scaffold.Symbols.Sources

/-! Where artifacts go: the directories around an entity, and how an artifact is placed in one. -/

namespace Scaffold.Run

/-- What runs have in common: the source roots, the settings and the store. -/
structure Planner (σ : Type) where
  layout : Layout
  settings : Settings
  store : Store (Session σ)

namespace Planner

variable {σ : Type} (p : Planner σ)

/-- A directory below another one; that one itself, if the store cannot make it. -/
def subdir (parent name : String) : Step σ String :=
  tryCatch (p.store.subdir parent name) fun f => do
    if f.origin != .store then throw f
    say .warning ("Cannot create " ++ Store.join parent name ++ ", using "
      ++ (if parent.isEmpty then "." else parent) ++ " instead: " ++ f.message)
    return parent

/-- The directory that service classes go below: two above the entity, as far as that exists. -/
def serviceBase (container : String) : String :=
  match p.layout.parent? container with
  | none => container
  | some parent => (p.layout.parent? parent).getD parent

def serviceDir : Step σ String := do
  let known := (← context).dirs.service
  if known != "" then return known
  let directory ← p.subdir (p.serviceBase (← context).dirs.container) "service"
  setDirs fun d => { d with service := directory }
  return directory

/-- A directory below the service directory. -/
def belowService (name : String) : Step σ String := do p.subdir (← p.serviceDir) name

/-- A directory beside the one of the entity. -/
def besideContainer (name : String) : Step σ String := do
  let container := (← context).dirs.container
  match p.layout.parent? container with
  | none => return container
  | some parent => p.subdir parent name

/-- A directory for controllers that is there already. -/
def controllerDir? (s : Session σ) (parent : String) : Option String :=
  (p.store.findSubdir? s parent "controller").or
    ((p.store.findSubdir? s parent "web").map fun web =>
      (p.store.findSubdir? s web "rest").getD web)

def controllerDir : Step σ String := do
  let parent := (p.layout.parent? (← p.serviceDir)).getD p.layout.javaRoot
  match p.controllerDir? (← get) parent with
  | some directory => return directory
  | none => p.subdir parent "controller"

def enterSymbols (symbols : Symbols) : Step σ Unit := modify fun s => { s with symbols }

/-- The handles of a source that is placed, now in the table; nothing with a warning, if the source
cannot be parsed. -/
def registerSource? (content path : String) : Step σ (Option (List Handle)) := do
  match (← get).symbols.registerSource content (some path) with
  | .ok (hs, symbols) =>
    enterSymbols symbols
    return some hs
  | .error f =>
    match (Source.ReadFault.unreadable f).message? with
    | none => throw (.unread f)
    | some reason =>
      say .warning ("Cannot parse " ++ path ++ ", referencing it by name: " ++ reason)
      return none

/-- The class that an artifact is known by when its source does not declare it. -/
def nameOnly (t : Template) (path directory : String) : Handle where
  name := t.name
  package := t.package.getD (p.layout.packageOf directory)
  path := some path

def registerName (h : Handle) : Step σ Handle := do
  enterSymbols ((← get).symbols.register h)
  return h

/-- The class of a placed artifact. -/
def register (t : Template) (content path directory : String) : Step σ Handle := do
  match ← registerSource? content path with
  | none => registerName (p.nameOnly t path directory)
  | some hs =>
    match hs.find? (·.name == t.name) with
    | some h => return h
    | none =>
      say .warning (path ++ " does not declare " ++ t.name ++ "; referencing it by name")
      registerName (p.nameOnly t path directory)

def isJava (t : Template) : Bool := Text.endsWith t.fileName ".java"

/-- Puts an artifact into a directory. A Java artifact becomes a class that later ones refer to. -/
def place (t : Template) (directory : String) : Step σ (Option Handle) := do
  let placed ← p.store.createFile directory t.fileName t.content
  say .info ((if placed.created then "Created " else "Keeping existing ") ++ placed.path)
  setContext fun c => { c with
    products := c.products ++
      [{ kind := t.kind, name := t.name, path := placed.path, content := placed.content
         created := placed.created }] }
  if isJava t then
    let h ← p.register t placed.content placed.path directory
    setHandle t.kind h
    return some h
  else return none

def placeClass (t : Template) (directory : String) : Step σ Handle := do
  match ← p.place t directory with
  | some h => return h
  | none => throw (.notCreated t.name)

/-- Places an artifact that is no class and tells where it is. -/
def placeFile (t : Template) (directory : String) : Step σ String := do
  let _ ← p.place t directory
  return (((← context).products.getLast?).map (·.path)).getD ""

/-- A class that artifacts build on: a known one that satisfies `fits`, or else a new one. -/
def findOrPlace (fits : Handle → Bool) (kind : ArtifactKind) (name directory : String)
    (template : String → Template) : Step σ Handle := do
  let h ← match ← classWhere? fits name with
    | some h => pure h
    | none => p.placeClass (template (p.layout.packageOf directory)) directory
  setHandle kind h
  return h

end Planner

end Scaffold.Run
