import Scaffold.Symbols.Handle
import Scaffold.Text.Lines

/-! The table of known classes. A simple name has one handle for each package; of these the one that was
registered first, counting the last registration of each package, is found first. -/

namespace Scaffold

open Scaffold.Text

/-- Handles by simple name, in the order in which the names came. -/
structure Symbols where
  buckets : List (String × List Handle) := []

namespace Symbols

/-- A handle goes behind those of other packages and takes the place of one of its own. -/
def enter (h : Handle) (bucket : List Handle) : List Handle :=
  bucket.filter (·.package != h.package) ++ [h]

def registerIn (h : Handle) : List (String × List Handle) → List (String × List Handle)
  | [] => [(h.name, [h])]
  | (name, bucket) :: r =>
    if name == h.name then (name, enter h bucket) :: r else (name, bucket) :: registerIn h r

def register (s : Symbols) (h : Handle) : Symbols := ⟨registerIn h s.buckets⟩

def registerAll (s : Symbols) (hs : List Handle) : Symbols := hs.foldl register s

def ofList (hs : List Handle) : Symbols := registerAll {} hs

def bucket (s : Symbols) (name : String) : List Handle := (s.buckets.lookup name).getD []

/-- A name as it is looked up: the package, if one is given, and the simple name. -/
structure Wanted where
  package : Option String
  name : String
  deriving DecidableEq

/-- Blanks around a name do not count, and a blank name names nothing. -/
def Wanted.of? (text : String) : Option Wanted :=
  let name := trim text
  if name.isEmpty then none else some { package := owner? name, name := lastSegment name }

def Wanted.fits (w : Wanted) (h : Handle) : Bool := w.package.all (· == h.package)

/-- The first handle of that name that satisfies `p`. -/
def findWhere? (s : Symbols) (p : Handle → Bool) (name : String) : Option Handle := do
  let w ← Wanted.of? name
  (s.bucket w.name).find? fun h => w.fits h && p h

def find? (s : Symbols) (name : String) : Option Handle := s.findWhere? (fun _ => true) name

def contains (s : Symbols) (name : String) : Bool := (s.find? name).isSome

def toList (s : Symbols) : List Handle := s.buckets.flatMap (·.2)

def size (s : Symbols) : Nat := s.toList.length

theorem registerAll_append (s : Symbols) (hs ks : List Handle) :
    s.registerAll (hs ++ ks) = (s.registerAll hs).registerAll ks := by
  simp [registerAll]

end Symbols

end Scaffold
