import Scaffold.Source.Handles

/-! Entities read from sources: the first class of a source, its table and comment, and what it inherits. -/

namespace Scaffold.Source

open Scaffold.Text
open Scaffold.Java

/-- The annotation whose only use here is its comment. -/
def commentTable : String := "org.hibernate.annotations.Table"

/-- The table annotation for comments, and the annotations that can name the table. -/
def tableAnnots (as : List Annot) : List Annot :=
  let first := as.findIdx? (·.name == commentTable)
  (as.zipIdx.filter fun (a, i) => a.simpleName == "Table" && some i != first).map (·.1)

def tableName? (as : List Annot) : Option String :=
  ((tableAnnots as).filterMap (·.value? "name")).getLast?

/-- The comment of the table annotation for comments wins over the one of a comment annotation. -/
def tableComment? (as : List Annot) : Option String :=
  ((as.find? (·.name == commentTable)).bind (·.value? "comment")).or
    ((annotNamed? "Comment" as).bind fun a => (a.value? "value").or (a.value? "entityName"))

/-- The most classes that are followed upwards. -/
def maxDepth : Nat := 16

/-- The classes above a class by simple name, as far as they are found, and the fields of each. A name
that comes again ends the walk. -/
def ancestors (s : Scope) (lookup : Lookup) : Nat → List String → Option String →
    List String × List (List Entity.Field)
  | 0, _, _ => ([], [])
  | _, _, none => ([], [])
  | depth + 1, seen, some name =>
    let simple := lastSegment name
    if name.isEmpty || seen.contains simple then ([], [])
    else
      match lookup (if contains name "." then name else (s.imported? name).getD name) with
      | none => ([simple], [])
      | some h =>
        let (names, layers) := ancestors s lookup depth (simple :: seen) h.superclass
        (simple :: names, h.fields :: layers)

/-- Why a text holds no entity. -/
inductive ReadFault where
  | unreadable (f : SourceFault)
  | noClass
  deriving DecidableEq

/-- The message of a fault; some ends of a text leave nothing to say. -/
def ReadFault.message? : ReadFault → Option String
  | .unreadable (.lexical e) =>
    some ("Java source could not be parsed: LexerError(" ++ quoted e.message ++ ")")
  | .unreadable .grammar => some "Java source could not be parsed: JavaSyntaxError('')"
  | .unreadable _ => none
  | .noClass => some "No class declaration found"

def sortedImports (imports : List (String × String)) : List (String × String) :=
  imports.mergeSort fun a b => !(b.1 < a.1)

def entityOf (u : SourceUnit) (lookup : Lookup) (d : DeclHead) : Entity :=
  let scope := Scope.of u
  let (superclasses, layers) := ancestors scope lookup maxDepth [] (superclassName d)
  let comment := tableComment? d.annots
  { name := d.name
    package := scope.package
    fields := fieldsOf scope lookup d
    inheritedFields := layers.reverse.flatten
    superclasses
    table := (tableName? d.annots).map fun name => { name, comment }
    annotations := annotNames d.annots
    imports := sortedImports scope.imports
    comment }

/-- The entity of a source: its first class on top level. -/
def entity (source : String) (lookup : Lookup) : Except ReadFault Entity :=
  match SourceUnit.read source with
  | .error f => .error (.unreadable f)
  | .ok u =>
    match (u.types.map Decl.head).find? (·.kind == .plain) with
    | some d => .ok (entityOf u lookup d)
    | none => .error .noClass

end Scaffold.Source
