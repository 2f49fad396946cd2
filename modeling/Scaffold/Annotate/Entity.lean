import Scaffold.Annotate.Column
import Scaffold.Annotate.Source
import Scaffold.Source.Entity

/-! Plain classes turned into entities: annotations go above the class and above its fields, and the
imports that they need are added. -/

namespace Scaffold.Annotate

open Scaffold.Text
open Scaffold.Entity (Field)

inductive Change where
  | entity (table : String)
  | id (field : String)
  | column (field : String)
  | imported (name : String)
  deriving DecidableEq, Inhabited

def Change.text : Change → String
  | .entity table => "added @Entity and @Table(" ++ table ++ ")"
  | .id field => "added @Id on " ++ field
  | .column field => "added @Column on " ++ field
  | .imported name => "import " ++ name

structure Outcome where
  source : String
  changes : List Change := []
  deriving DecidableEq, Inhabited

def Outcome.changed (o : Outcome) : Bool := !o.changes.isEmpty

inductive Refusal where
  | unread (f : Source.ReadFault)
  | undeclared (name : String)
  deriving DecidableEq

def Refusal.message? : Refusal → Option String
  | .unread f => f.message?
  | .undeclared name => some ("Declaration of " ++ name ++ " not found")

/-- A field with one of these is left alone. -/
def settled : List String :=
  ["Column", "Id", "Transient", "JoinColumn", "OneToMany", "ManyToOne", "ManyToMany", "OneToOne"]

/-- Lines that go above a line of the class. -/
structure Insertion where
  line : Nat
  added : List String
  change : Change

def columnLine (f : Field) : String :=
  "@Column(name = \"" ++ Name.snake f.name ++ "\", columnDefinition = \"" ++ columnDefinition f
    ++ " comment ''\")"

def idLines : List String := ["@Id", "@GeneratedValue(strategy = GenerationType.IDENTITY)"]

/-- What a field gets, if a line from `start` on declares it and it is not settled yet. -/
def insertion? (lines : List String) (start : Nat) (f : Field) : Option Insertion :=
  if f.annotations.any settled.contains then none
  else
    (fieldLine? lines start f.name).map fun line =>
      let margin := marginOf (lines.getD line "")
      if Name.snake f.name == "id" then
        { line, added := idLines.map (margin ++ ·), change := .id f.name }
      else { line, added := [margin ++ columnLine f], change := .column f.name }

/-- Insertions from the bottom up, so that the lines above keep their places. -/
def bottomUp (is : List Insertion) : List Insertion := is.mergeSort fun a b => b.line ≤ a.line

def insertAll (is : List Insertion) (lines : List String) : List String :=
  is.foldl (fun ls i => insertAt i.line i.added ls) lines

def entityLines (table comment : String) : List String :=
  ["@Entity",
   "@Table(name = \"" ++ table ++ "\")",
   "@org.hibernate.annotations.Table(appliesTo = \"" ++ table ++ "\", comment = \"" ++ comment
     ++ "\")"]

def withoutQuotes (s : String) : String := String.ofList (s.toList.filter (· != '"'))

def Change.needs : Change → List String
  | .entity _ => ["Entity", "Table"]
  | .id _ => ["Id", "GeneratedValue", "GenerationType"]
  | .column _ => ["Column"]
  | .imported _ => []

/-- The classes to import, those of the entity first, then those of ids and of columns. -/
def neededImports (package : String) (changes : List Change) : List String :=
  let of (p : Change → Bool) := ((changes.find? p).map Change.needs).getD []
  let names := Change.needs (.entity "") ++ of (· matches .id _) ++ of (· matches .column _)
  names.map fun name => package ++ "." ++ name

/-- The lines with all imports, and those that were added. -/
def importAll : List String → List String → List String × List String
  | [], lines => (lines, [])
  | name :: r, lines =>
    match ensureImport lines name with
    | none => importAll r lines
    | some more =>
      let (last, added) := importAll r more
      (last, name :: added)

/-- The source with the annotations of a class declared on a given line. -/
def annotateAt (source : String) (lines : List String) (e : Entity) (line : Nat) : Outcome :=
  let table := Name.table e.baseName
  let insertions := bottomUp (e.fields.filterMap (insertion? lines (line + 1)))
  let onFields := (insertions.map Insertion.change).reverse
  let annotated :=
    insertAt line (entityLines table (withoutQuotes (e.comment.getD ""))) (insertAll insertions lines)
  let (final, added) := importAll (neededImports (persistencePackage source) onFields) annotated
  { source := unlines final ++ (if endsWith source "\n" then "\n" else "")
    changes := .entity table :: onFields ++ added.map .imported }

/-- A class that is an entity already stays as it is. -/
def annotate (source : String) : Except Refusal Outcome :=
  match Source.entity source fun _ => none with
  | .error f => .error (.unread f)
  | .ok e =>
    if e.isEntity then .ok { source }
    else
      let ls := lines source
      match classLine? ls e.name with
      | none => .error (.undeclared e.name)
      | some line => .ok (annotateAt source ls e line)

end Scaffold.Annotate
