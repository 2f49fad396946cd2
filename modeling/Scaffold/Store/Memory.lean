import Scaffold.Store.Basic
import Scaffold.Entries

/-! A store that keeps files and directories in memory. -/

namespace Scaffold.Store

/-- Files with their contents, and the directories that are known. -/
structure Memory where
  files : List (String × String) := []
  dirs : List String := []
  deriving DecidableEq, Inhabited

def addDir (path : String) (dirs : List String) : List String :=
  if dirs.contains path then dirs else dirs ++ [path]

/-- The directories above a path. A path has no more of them than characters. -/
def parentsFrom : Nat → String → List String
  | 0, _ => []
  | n + 1, path =>
    let directory := parent path
    if directory.isEmpty then [] else directory :: parentsFrom n directory

def parents (path : String) : List String := parentsFrom path.length path

namespace Memory

def addParents (path : String) (m : Memory) : Memory :=
  { m with dirs := (parents path).foldl (fun dirs d => addDir d dirs) m.dirs }

/-- Files with all directories above them. -/
def ofFiles (files : List (String × String)) : Memory :=
  files.foldl (fun m (path, _) => m.addParents path) { files }

def isDir (m : Memory) (path : String) : Bool := path == "" || m.dirs.contains path

def read (m : Memory) (path : String) : Option String := m.files.lookup path

def makeDir (path : String) (m : Memory) : Memory :=
  addParents path { m with dirs := addDir path m.dirs }

def write (path content : String) (m : Memory) : Memory :=
  addParents path { m with files := Entries.put path content m.files }

def store : Store Memory where
  isDir := isDir
  read := read
  makeDir path := modify (makeDir path)
  write path content := modify (write path content)

end Memory

end Scaffold.Store
