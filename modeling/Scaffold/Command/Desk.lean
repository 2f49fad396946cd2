import Scaffold.Command.Words
import Scaffold.Java.Parser
import Scaffold.Log
import Scaffold.Run.Context
import Scaffold.Store.Disk
import Scaffold.Text.Utf8

/-! The surroundings of a command: a disk, a working directory, and what is shown and logged. -/

namespace Scaffold.Command

open Scaffold.Store (Disk Location)

/-- What a command shows: a line of text, or a table of artifacts. -/
inductive Shown where
  | line (text : String)
  | table (title : String) (products : List Run.Product)
  deriving DecidableEq, Inhabited

structure Desk where
  disk : Disk
  here : Location
  home : Location := []
  shown : List Shown := []
  log : List LogLine := []

/-- How a command ends: with an exit code, or at a source about which nothing can be said. -/
inductive Ending where
  | exit (code : Nat)
  | crash (f : Java.SourceFault)
  deriving DecidableEq

abbrev Work (α : Type) := ExceptT Ending (StateM Desk) α

def display (s : Shown) : Work Unit := modify fun d => { d with shown := d.shown ++ [s] }

def tell (text : String) : Work Unit := display (.line text)

def tellAll : List String → Work Unit
  | [] => return
  | text :: r => do
    tell text
    tellAll r

def logAll (ls : List LogLine) : Work Unit := modify fun d => { d with log := d.log ++ ls }

def warn (text : String) : Work Unit := logAll [⟨.warning, text⟩]

def inform (text : String) : Work Unit := logAll [⟨.info, text⟩]

def setDisk (disk : Disk) : Work Unit := modify fun d => { d with disk }

/-- Ends a command that cannot go on, and says why. -/
def stop {α : Type} (code : Nat) (text : String) : Work α := do
  tell text
  throw (.exit code)

/-- The location that a word names. A tilde in front stands for the home directory. -/
def Desk.location (d : Desk) (word : String) : Location :=
  let path := stripQuotes word
  match Text.startsWith path "/", Store.parts path with
  | false, "~" :: r => Store.settle (d.home ++ r)
  | _, _ => Store.settle (Store.below d.here path)

def locate (word : String) : Work Location := return (← get).location word

/-- The project that a command works on: the one named, or else the working directory. -/
def projectRoot (word : Option String) : Work Location := do
  let root ← match word.bind Text.nonempty? with
    | some word => locate word
    | none => pure (← get).here
  if !(← get).disk.isDir root then stop 2 ("[ERROR] Folder not found: " ++ Store.absolute root)
  return root

/-- The location and the content of a file that a word names. -/
def fileNamed (word : String) : Work (Location × List UInt8) := do
  let l ← locate word
  match (← get).disk.bytes? l with
  | some bytes => return (l, bytes)
  | none => stop 2 ("[ERROR] File not found: " ++ Store.absolute l)

end Scaffold.Command
