import Scaffold.Command.Perform

/-! The program: takes the files that a command line concerns into memory, carries the command out there,
and writes down what it changed. -/

namespace Scaffold.Program

open Scaffold.Store (Location Entry Disk)
open Scaffold.Command

/-- The entries at and below a location. Links are passed over. -/
partial def entriesAt (l : Location) : IO (List (Location × Entry)) := do
  let place ← IO.FS.realPath (Store.absolute l)
  if ← place.isDir then
    let mut found := [(l, Entry.directory)]
    for inside in ← place.readDir do
      if (← inside.path.symlinkMetadata).type != .symlink then
        found := found ++ (← entriesAt (l ++ [inside.fileName]))
    return found
  else
    return [(l, .file (← IO.FS.readBinFile place).toList)]

/-- Words that may name files: those of a command line, and what follows their equals signs. -/
def named (words : List String) : List String :=
  words ++ words.filterMap fun w =>
    (splitMark w.toList).2.map fun a => String.ofList a.text

/-- Locations without those that lie below others of them. -/
def outermost (ls : List Location) : List Location :=
  (ls.filter fun l => !ls.any fun m => m != l && (Store.relative? m l).isSome).eraseDups

def above (l : Location) : List Location :=
  (List.range l.length).map l.take |>.filter (!·.isEmpty)

/-- A location whose entries have to be known: a directory, or the one that holds a file. -/
def known? (l : Location) : IO (Option Location) := do
  try
    let place ← IO.FS.realPath (Store.absolute l)
    if ← place.isDir then return some l
    else if ← place.pathExists then return some l.dropLast
    else return none
  catch _ => return none

/-- The part of the disk that a command line concerns. -/
def load (d : Desk) (words : List String) : IO Disk := do
  let places ← (d.here :: (named words).map d.location).filterMapM known?
  let tops := outermost places
  let inside ← tops.mapM entriesAt
  let parents := (tops.flatMap above).eraseDups.map fun l => (l, Entry.directory)
  return { entries := parents ++ inside.flatten }

/-- Writes down the entries that were not there before. -/
def save (before after : Disk) : IO Unit := do
  for (l, e) in after.entries do
    if before.entry? l != some e then
      match e with
      | .directory => IO.FS.createDirAll (Store.absolute l)
      | .file bytes => IO.FS.writeBinFile (Store.absolute l) ⟨bytes.toArray⟩

def showRow (a : Run.Product) : String :=
  "  ".intercalate [a.kind.text, a.name, if a.created then "created" else "kept", a.path]

def print : Shown → IO Unit
  | .line text => IO.println text
  | .table title products => do
    IO.println title
    for a in products do IO.println ("  " ++ showRow a)

def levelName : Level → String
  | .info => "INFO"
  | .warning => "WARNING"
  | .error => "ERROR"

def usage : List String :=
  ["usage: scaffold [-h] [-v] generate [-h] [-v] [--root DIR] [--dry-run] FILE",
   "       scaffold [-h] [-v] annotate [-h] [--dry-run] FILE",
   "       scaffold [-h] [-v] init-config [-h] [--root DIR]"]

def printUsage (words : List String) : IO Unit := do
  match Request.of words with
  | .ok _ => return
  | .error .help => usage.forM IO.println
  | .error .misuse => usage.forM IO.eprintln

def printLog (l : LogLine) : IO Unit := IO.eprintln (levelName l.level ++ " " ++ l.text)

end Scaffold.Program

section

open Scaffold Scaffold.Program

def main (words : List String) : IO UInt32 := do
  let here ← IO.currentDir
  let home := (← IO.getEnv "HOME").getD "/"
  let desk : Command.Desk :=
    { disk := {}, here := Store.parts here.toString, home := Store.parts home }
  let disk ← load desk words
  let (ending, after) := Command.run words { desk with disk }
  printUsage words
  save disk after.disk
  after.log.forM printLog
  after.shown.forM print
  match ending with
  | .exit code => return code.toUInt32
  | .crash _ =>
    IO.eprintln "the source ends where nothing can be said about it"
    return 1

end
