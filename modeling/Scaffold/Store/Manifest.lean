import Scaffold.Json.Reader
import Scaffold.Log
import Scaffold.Store.Disk
import Scaffold.Text.Utf8

/-! The manifest of a project: a file that gives the digest of every generated file. -/

namespace Scaffold.Store

open Scaffold.Text

/-- Paths with the digests of what was written there. -/
abbrev Manifest := List (String × String)

namespace Manifest

def directory : String := ".crudslice"

/-- The names of the manifest file of a project. -/
def fileOf (root : Location) : List String := root ++ [directory, "manifest.json"]

mutual

/-- A value of another program's manifest as a text. -/
def shown : Json.Value → String
  | .null => "None"
  | .bool b => if b then "True" else "False"
  | .number text => text
  | .string text => quoted text
  | .array items => "[" ++ ", ".intercalate (shownItems items) ++ "]"
  | .object entries => "\x7b" ++ ", ".intercalate (shownEntries entries) ++ "\x7d"

def shownItems : List Json.Value → List String
  | [] => []
  | v :: r => shown v :: shownItems r

def shownEntries : List (String × Json.Value) → List String
  | [] => []
  | (k, v) :: r => (quoted k ++ ": " ++ shown v) :: shownEntries r

end

def textOf : Json.Value → String
  | .string text => text
  | v => shown v

def ofValue : Json.Value → Manifest
  | .object entries => entries.map fun (k, v) => (k, textOf v)
  | _ => []

/-- The manifest in the bytes of a file, or why there is none. -/
def decode (bytes : List UInt8) : Except String Manifest := do
  let text ← (Utf8.readStrict bytes).mapError Utf8.Fault.message
  return ofValue (← Json.read text)

def sorted (m : Manifest) : Manifest := m.mergeSort fun a b => !(b.1 < a.1)

def text (m : Manifest) : String :=
  (Json.Value.object (m.sorted.map fun (k, v) => (k, .string v))).write 0

def encode (m : Manifest) : List UInt8 := Utf8.encode m.text

/-- The manifest of a project. One that cannot be read counts as empty and gives a warning. -/
def load (d : Disk) (root : Location) : Manifest × List LogLine :=
  let names := fileOf root
  let ignored (reason : String) : Manifest × List LogLine :=
    ([], [⟨.warning, "Ignoring unreadable manifest " ++ absolute names ++ ": " ++ reason⟩])
  match d.look? names with
  | none => ([], [])
  | some .directory => ignored (DiskFault.message ⟨.isDirectory, names⟩)
  | some (.file bytes) =>
    match decode bytes with
    | .ok m => (m, [])
    | .error reason => ignored reason

/-- Writes the manifest of a project. If that fails there is a warning. -/
def save (m : Manifest) (d : Disk) (root : Location) : Disk × List LogLine :=
  let names := fileOf root
  let failed (f : DiskFault) : List LogLine :=
    [⟨.warning, "Could not save manifest " ++ absolute names ++ ": " ++ f.message⟩]
  match d.makeDirs names.dropLast with
  | (.error f, d) => (d, failed f)
  | (.ok (), d) =>
    match d.write names m.encode with
    | .ok d => (d, [])
    | .error f => (d, failed f)

end Manifest

end Scaffold.Store
