import Scaffold.Source.Entity
import Scaffold.Store.Disk
import Scaffold.Symbols.Sources
import Scaffold.Log
import Scaffold.Text.Utf8

/-! Registration of all types declared in the source files below a directory. -/

namespace Scaffold.Symbols

open Scaffold.Text
open Scaffold.Store (Disk Location Entry)

/-- Directories in which no sources are looked for, at any depth. -/
def excludedDirs : List String :=
  [".crudslice", ".git", ".idea", ".vscode", "target", "build", "out", ".gradle", "node_modules",
   "__pycache__", ".mvn"]

/-- A file by the names that lead to it, and its content. -/
structure SourceFile where
  names : List String
  bytes : List UInt8

def SourceFile.of? (root : Location) : Location × Entry → Option SourceFile
  | (_, .directory) => none
  | (l, .file bytes) => (Store.relative? root l).map fun names => { names, bytes }

def SourceFile.isScanned (f : SourceFile) : Bool :=
  f.names.dropLast.all (!excludedDirs.contains ·) && endsWith (f.names.getLastD "") ".java"

/-- The source files below a directory, ordered by the names that lead to them. -/
def sourceFiles (d : Disk) (root : Location) : List SourceFile :=
  ((d.entries.filterMap (SourceFile.of? root)).filter SourceFile.isScanned).mergeSort
    fun a b => !List.lex b.names a.names (· < ·)

/-- What a scan has come to: the table, the number of types found, warnings about files that are no
sources, and the fault at which it broke off. -/
structure Scan where
  symbols : Symbols
  count : Nat := 0
  log : List LogLine := []
  stopped : Option Java.SourceFault := none

def skipped (root : Location) (f : SourceFile) (reason : String) : LogLine :=
  ⟨.warning, "Skipping " ++ Store.absolute (root ++ f.names) ++ ": " ++ reason⟩

def scanFiles (root : Location) : List SourceFile → Scan → Scan
  | [], s => s
  | f :: r, s =>
    match s.symbols.registerSource (Utf8.readText f.bytes) (some ("/".intercalate f.names)) with
    | .ok (hs, symbols) => scanFiles root r { s with symbols, count := s.count + hs.length }
    | .error e =>
      match (Source.ReadFault.unreadable e).message? with
      | some reason => scanFiles root r { s with log := s.log ++ [skipped root f reason] }
      | none => { s with stopped := some e }

def scan (symbols : Symbols) (d : Disk) (root : Location) : Scan :=
  scanFiles root (sourceFiles d root) { symbols }

end Scaffold.Symbols
