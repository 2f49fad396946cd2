import Scaffold.Annotate.Entity
import Scaffold.Command.Request
import Scaffold.Command.Roots
import Scaffold.Command.SettingsFile
import Scaffold.Run.Generate
import Scaffold.Store.Project

/-! The commands: generate the artifacts of an entity, annotate a class, write a settings file. -/

namespace Scaffold.Command

open Scaffold.Store (Location Project)
open Scaffold.Run (Planner Session)

def scanProject (root : Location) : Work Symbols := do
  let scan := Symbols.scan {} (← get).disk root
  logAll scan.log
  match scan.stopped with
  | some f => throw (.crash f)
  | none => return scan.symbols

/-- Ends a command at a text that holds no entity. -/
def refuse {α : Type} (message : Option String) (f : Java.SourceFault) : Work α :=
  match message with
  | some text => stop 2 ("[ERROR] " ++ text)
  | none => throw (.crash f)

def refuseRead {α : Type} (f : Source.ReadFault) : Work α :=
  refuse f.message? (match f with | .unreadable e => e | .noClass => .grammar)

def yesNo (b : Bool) : String := if b then "True" else "False"

/-- The location of a project's parts as its store names them. -/
def inProject (root l : Location) : String := "/".intercalate ((Store.relative? root l).getD [])

/-- What a generation works on. -/
structure Plan where
  root : Location
  javaRoot : Location
  resourcesRoot : Location
  directory : String
  symbols : Symbols
  settings : Settings
  entity : Entity
  dryRun : Bool

namespace Plan

def summary (p : Plan) : List String :=
  ["\nProject detected",
   "- Root: " ++ Store.absolute p.root,
   "- Java sources: " ++ Store.absolute p.javaRoot,
   "- Resources: " ++ Store.absolute p.resourcesRoot,
   "- Known types: " ++ toString p.symbols.size,
   "- Entity: " ++ p.entity.qualifiedName,
   "- Dry run: " ++ yesNo p.dryRun]

def planner (p : Plan) : Planner Project where
  layout := .of (inProject p.root p.javaRoot) (some (inProject p.root p.resourcesRoot)) ""
  settings := p.settings
  store := Run.inSession Project.store

def title (p : Plan) : String :=
  p.entity.name ++ " (" ++ (if p.dryRun then "dry run" else "written") ++ ")"

/-- What a run came to, as an exit code with a last line. -/
def verdict (p : Plan) (r : Run.Result) : Nat × String :=
  match r.status with
  | .skipped => (0, "[WARN] " ++ p.entity.name ++ " is not an @Entity; nothing generated.")
  | .aborted =>
    (1, "[FAIL] Generation aborted at stage '" ++ ((r.failedStage.map (·.text)).getD "?") ++ "': "
      ++ r.error.getD "")
  | .completed =>
    let created := (r.products.filter (·.created)).length
    (0, "[OK] " ++ toString created ++ " file(s) created, "
      ++ toString (r.products.length - created) ++ " kept.")

/-- Saves what a run did and shows it. -/
def finish (p : Plan) (r : Run.Result) (project : Project) : Work Nat := do
  if !r.products.isEmpty then display (.table p.title r.products)
  let (project, log) := project.save
  setDisk project.disk
  logAll log
  let (code, text) := p.verdict r
  tell text
  return code

def carryOut (p : Plan) : Work Nat := do
  tellAll p.summary
  let (project, log) := Project.load (← get).disk p.root p.dryRun
  logAll log
  let (result, session) :=
    (p.planner.run p.entity p.directory).run { store := project, symbols := p.symbols }
  setDisk session.store.disk
  logAll session.log
  match result with
  | .ok r => p.finish r session.store
  | .error (.unread f) => throw (.crash f)
  | .error f => stop 1 ("[ERROR] " ++ f.message)

end Plan

def generate (entityFile : String) (rootWord : Option String) (dryRun : Bool) : Work Nat := do
  let root ← projectRoot rootWord
  let (file, bytes) ← fileNamed entityFile
  match Store.relative? root file.dropLast with
  | none =>
    stop 2 ("[ERROR] " ++ Store.absolute file ++ " is not inside " ++ Store.absolute root)
  | some names =>
    let javaRoot ← sourceRoot root javaSources "using the project root for Java sources"
    let resourcesRoot ← sourceRoot root resources "mapping files go to the project root"
    let symbols ← scanProject root
    let settings ← loadSettings root
    match Source.entity (Text.Utf8.readText bytes) symbols.find? with
    | .error f => refuseRead f
    | .ok entity =>
      let directory := "/".intercalate names
      Plan.carryOut
        { root, javaRoot, resourcesRoot, directory, symbols, settings, entity, dryRun }

/-- Replaces a source by its annotated form. -/
def saveAnnotated (file : Location) (o : Annotate.Outcome) : Work Unit := do
  match (← get).disk.write file (Text.Utf8.encode o.source) with
  | .ok disk =>
    setDisk disk
    inform ("Annotated " ++ Store.absolute file ++ " (" ++ toString o.changes.length
      ++ " change(s))")
  | .error _ => return

def annotate (entityFile : String) (dryRun : Bool) : Work Nat := do
  let (file, bytes) ← fileNamed entityFile
  let name := file.getLastD ""
  match Annotate.annotate (Text.Utf8.readText bytes) with
  | .error (.unread f) => refuseRead f
  | .error f => refuse f.message? .grammar
  | .ok o =>
    if o.changed then
      if !dryRun then saveAnnotated file o
      tell ("\n" ++ name ++ (if dryRun then " (dry run)" else "") ++ ":")
      tellAll (o.changes.map fun c => " - " ++ c.text)
    else tell (name ++ " is already an entity; nothing to do.")
    return 0

def initSettings (rootWord : Option String) : Work Nat := do
  let root ← projectRoot rootWord
  let names := root ++ [Settings.fileName]
  if (← get).disk.holds names then
    tell (Store.absolute names ++ " already exists.")
    return 0
  else if ← writeDefaults names then
    tell ("Created " ++ Store.absolute names)
    return 0
  else return 1

def perform : Request → Work Nat
  | .generate entityFile root dryRun => generate entityFile root dryRun
  | .annotate entityFile dryRun => annotate entityFile dryRun
  | .initSettings root => initSettings root

/-- A command line at a desk. -/
def run (words : List String) (d : Desk) : Ending × Desk :=
  match Request.of words with
  | .error .help => (.exit 0, d)
  | .error .misuse => (.exit 2, d)
  | .ok request =>
    match (perform request).run d with
    | (.ok code, d) => (.exit code, d)
    | (.error e, d) => (e, d)

end Scaffold.Command
