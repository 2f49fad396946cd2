import Scaffold.Command.Desk
import Scaffold.Symbols.Scan

/-! The source roots of a project, wherever below it they are. -/

namespace Scaffold.Command

open Scaffold.Store (Disk Location Entry)

def javaSources : List String := ["src", "main", "java"]

def resources : List String := ["src", "main", "resources"]

def isExcluded (l : Location) : Bool := l.any Symbols.excludedDirs.contains

/-- The directories at and below a location, each before those below it. -/
def dirsFrom (d : Disk) (root : Location) : List Location :=
  let below := d.entries.filterMap fun (l, e) =>
    if e == .directory && l != root && (Store.relative? root l).isSome then some l else none
  root :: below.mergeSort fun a b => !List.lex b a (· < ·)

/-- The directory of some names in a project: right below its root, or in the first directory that has
it and is not excluded. -/
def findRoot? (d : Disk) (root : Location) (names : List String) : Option Location :=
  if d.isDir (root ++ names) then some (root ++ names)
  else ((dirsFrom d root).map (· ++ names)).find? fun l => d.isDir l && !isExcluded l

/-- The source root of some names; without one the project itself, with a warning. -/
def sourceRoot (root : Location) (names : List String) (consequence : String) : Work Location := do
  match findRoot? (← get).disk root names with
  | some l => return l
  | none =>
    warn ("/".intercalate names ++ " not found, " ++ consequence)
    return root

end Scaffold.Command
