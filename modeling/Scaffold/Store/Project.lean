import Scaffold.Digest
import Scaffold.Store.Basic
import Scaffold.Store.Manifest
import Scaffold.Store.Memory

/-! The store of a project on a disk. A rehearsal keeps in memory what it would write. -/

namespace Scaffold.Store

/-- A project with its manifest, and what a rehearsal would have written so far. -/
structure Project where
  disk : Disk
  root : Location
  rehearsal : Bool := false
  manifest : Manifest := []
  pendingFiles : List (String × String) := []
  pendingDirs : List String := []

namespace Project

/-- A project as it is found, with the warnings about its manifest. -/
def load (disk : Disk) (root : Location) (rehearsal : Bool) : Project × List LogLine :=
  let (manifest, log) := Manifest.load disk root
  ({ disk, root, rehearsal, manifest }, log)

def names (p : Project) (path : String) : List String := below p.root path

def isDir (p : Project) (path : String) : Bool :=
  p.pendingDirs.contains path || p.disk.isDir (p.names path)

def read (p : Project) (path : String) : Option String :=
  (p.pendingFiles.lookup path).or ((p.disk.bytes? (p.names path)).map Text.Utf8.readText)

def setDisk (disk : Disk) : Effect Project Unit := modify fun p => { p with disk }

/-- Makes a directory on the disk, and those above it. -/
def makeDirs (path : String) (names : List String) (fault : String → DiskFault → Failure) :
    Effect Project Unit := do
  let (made, disk) := (← get).disk.makeDirs names
  setDisk disk
  match made with
  | .ok () => return
  | .error f => throw (fault path f)

def makeDir (path : String) : Effect Project Unit := do
  let p ← get
  if p.rehearsal then set { p with pendingDirs := addDir path p.pendingDirs }
  else makeDirs path (p.names path) .makeDir

def writeBytes (path : String) (content : String) : Effect Project Unit := do
  let p ← get
  makeDirs path (p.names path).dropLast .write
  match (← get).disk.write (p.names path) (Text.Utf8.encode content) with
  | .ok disk => setDisk disk
  | .error f => throw (.write path f)

/-- The manifest takes note of a file before it is written. -/
def write (path content : String) : Effect Project Unit := do
  modify fun p => { p with manifest := Entries.put path (Digest.sha256 content) p.manifest }
  let p ← get
  if p.rehearsal then set { p with pendingFiles := Entries.put path content p.pendingFiles }
  else writeBytes path content

/-- Saves the manifest, unless this is a rehearsal. -/
def save (p : Project) : Project × List LogLine :=
  if p.rehearsal then (p, [])
  else
    let (disk, log) := p.manifest.save p.disk p.root
    ({ p with disk }, log)

def store : Store Project where
  isDir := isDir
  read := read
  makeDir := makeDir
  write := write

end Project

end Scaffold.Store
