import Scaffold.Store.Path
import Scaffold.Text.Quoted
import Scaffold.Entries

/-! A disk: directories and files by location, and what goes wrong when one is not of the kind that an
operation needs. -/

namespace Scaffold.Store

open Scaffold.Text

/-- The names on the way down from the top of a disk. -/
abbrev Location := List String

inductive Entry where
  | directory
  | file (bytes : List UInt8)
  deriving DecidableEq

/-- Entries by location. Every entry but those on top has its directory among them; the top itself
is always there. -/
structure Disk where
  entries : List (Location × Entry) := []

inductive Cause where
  | missing | taken | notDirectory | isDirectory
  deriving DecidableEq

def Cause.text : Cause → String
  | .missing => "[Errno 2] No such file or directory"
  | .taken => "[Errno 17] File exists"
  | .notDirectory => "[Errno 20] Not a directory"
  | .isDirectory => "[Errno 21] Is a directory"

/-- The names in a path; empty ones and single dots go. -/
def parts (path : String) : List String :=
  ((segments '/' path.toList).map String.ofList).filter fun s => s != "" && s != "."

/-- Names as an absolute path. -/
def absolute (names : List String) : String := "/" ++ "/".intercalate names

/-- A path seen from a directory, with the double dots in it. -/
def below (base : Location) (path : String) : List String :=
  if startsWith path "/" then parts path else base ++ parts path

/-- The names that lead from a directory to a location below it. -/
def relative? : Location → Location → Option (List String)
  | [], l => some l
  | _ :: _, [] => none
  | a :: r, b :: l => if a == b then relative? r l else none

/-- Where names lead on paper: double dots take back the name before them. -/
def settle (names : List String) : Location :=
  names.foldl (fun l name => if name == ".." then l.dropLast else l ++ [name]) []

/-- What went wrong, and at which names. -/
structure DiskFault where
  cause : Cause
  names : List String
  deriving DecidableEq

def DiskFault.message (f : DiskFault) : String := f.cause.text ++ ": " ++ quoted (absolute f.names)

namespace Disk

def entry? (d : Disk) (l : Location) : Option Entry :=
  if l.isEmpty then some .directory else d.entries.lookup l

/-- The location that names lead to from a directory. Every name but the last has to be one of a
directory; double dots lead upwards. -/
def walk (d : Disk) (here : Location) : List String → Except Cause Location
  | [] => .ok here
  | [name] => .ok (if name == ".." then here.dropLast else here ++ [name])
  | name :: r =>
    if name == ".." then d.walk here.dropLast r
    else
      match d.entry? (here ++ [name]) with
      | none => .error .missing
      | some (.file _) => .error .notDirectory
      | some .directory => d.walk (here ++ [name]) r

/-- What stands at some names. -/
def look? (d : Disk) (names : List String) : Option Entry :=
  match d.walk [] names with
  | .ok l => d.entry? l
  | .error _ => none

def isDir (d : Disk) (names : List String) : Bool := d.look? names == some .directory

def bytes? (d : Disk) (names : List String) : Option (List UInt8) :=
  match d.look? names with
  | some (.file bytes) => some bytes
  | _ => none

def holds (d : Disk) (names : List String) : Bool := (d.look? names).isSome

def set (d : Disk) (l : Location) (e : Entry) : Disk :=
  { d with entries := Entries.put l e d.entries }

def makeDir (d : Disk) (names : List String) : Except Cause Disk :=
  match d.walk [] names with
  | .error c => .error c
  | .ok l => if (d.entry? l).isSome then .error .taken else .ok (d.set l .directory)

/-- Makes a directory in a directory; one that is there already will do. -/
def ensureDir (d : Disk) (names : List String) : Except DiskFault Unit × Disk :=
  match d.makeDir names with
  | .ok d => (.ok (), d)
  | .error c => (if d.isDir names then .ok () else .error ⟨c, names⟩, d)

/-- Makes a directory at names that are given last first, and those above it that are missing. What was
made before a fault stays. -/
def makeDirsUp (d : Disk) : List String → Except DiskFault Unit × Disk
  | [] => (.ok (), d)
  | name :: above =>
    let names := (name :: above).reverse
    match d.makeDir names with
    | .error .missing =>
      match d.makeDirsUp above with
      | (.ok (), d) => d.ensureDir names
      | failed => failed
    | _ => d.ensureDir names

def makeDirs (d : Disk) (names : List String) : Except DiskFault Unit × Disk :=
  d.makeDirsUp names.reverse

def write (d : Disk) (names : List String) (bytes : List UInt8) : Except DiskFault Disk :=
  match d.walk [] names with
  | .error c => .error ⟨c, names⟩
  | .ok l =>
    if d.entry? l == some .directory then .error ⟨.isDirectory, names⟩
    else .ok (d.set l (.file bytes))

end Disk

end Scaffold.Store
