import Scaffold.Text.Lines

/-! Java sources as far as entities are read from them: types, annotations, and declarations with
their fields, methods and nested types. Of a body only the enums in it are kept. -/

namespace Scaffold.Java

mutual

/-- A dotted type name; every segment has its arguments. -/
inductive TypePath where
  | last (name : String) (arguments : TypeArguments)
  | dot (name : String) (arguments : TypeArguments) (rest : TypePath)

/-- Type arguments: unbounded wildcards, and types or bounds with their dimensions. -/
inductive TypeArguments where
  | none
  | wildcard (rest : TypeArguments)
  | type (path : TypePath) (dimensions : Nat) (rest : TypeArguments)

end

structure TypeRef where
  path : TypePath
  dimensions : Nat := 0

namespace TypePath

/-- The name of the last segment. -/
def lastName : TypePath → String
  | last name _ => name
  | dot _ _ rest => rest.lastName

def names : TypePath → List String
  | last name _ => [name]
  | dot name _ rest => name :: rest.names

/-- The dotted name, of a path with more than one segment. -/
def qualified? (p : TypePath) : Option String :=
  match p with
  | last _ _ => none
  | dot .. => some (".".intercalate p.names)

end TypePath

def dimensionText (n : Nat) : String := String.ofList (List.replicate n ['[', ']']).flatten

/-- A name with the texts of its arguments. -/
def withArguments (name : String) (arguments : List String) : String :=
  match arguments with
  | [] => name
  | _ => name ++ "<" ++ ", ".intercalate arguments ++ ">"

mutual

/-- The last segment of a path as it is written. -/
def TypePath.text : TypePath → String
  | .last name arguments => withArguments name arguments.texts
  | .dot _ _ rest => rest.text

def TypeArguments.texts : TypeArguments → List String
  | .none => []
  | .wildcard rest => "?" :: rest.texts
  | .type path dimensions rest => (path.text ++ dimensionText dimensions) :: rest.texts

end

def TypeRef.text (t : TypeRef) : String := t.path.text ++ dimensionText t.dimensions

/-- The value of an annotation element. -/
inductive Value where
  | literal (text : String)
  | name (qualifier : List String) (member : String)
  | binary (operator : String) (left right : Value)
  | emptyArray
  | other
  deriving Inhabited

inductive Element where
  | pairs (values : List (String × Value))
  | single (value : Value)

structure Annot where
  name : String
  element : Option Element := none

def Annot.simpleName (a : Annot) : String := Text.lastSegment a.name

inductive DeclKind where
  | plain | interface | enum | marker
  deriving DecidableEq, Inhabited

/-- A field declaration; it declares one field for each name. -/
structure FieldDecl where
  isStatic : Bool
  annots : List Annot
  type : TypeRef
  names : List String

/-- What a type declaration says of itself. `enums` names the enums anywhere in it, itself included. -/
structure DeclHead where
  kind : DeclKind
  name : String
  annots : List Annot := []
  superclass : Option TypePath := none
  enums : List String := []
  fields : List FieldDecl := []
  methods : List String := []

/-- A type declaration with the types nested in it. -/
inductive Decl where
  | mk (head : DeclHead) (nested : List Decl)

def Decl.head : Decl → DeclHead
  | mk head _ => head

def Decl.nested : Decl → List Decl
  | mk _ nested => nested

structure Import where
  name : String
  isStatic : Bool := false
  onDemand : Bool := false

/-- A compilation unit. -/
structure SourceUnit where
  package : Option String := none
  imports : List Import := []
  types : List Decl := []

def SourceUnit.packageName (u : SourceUnit) : String := u.package.getD ""

end Scaffold.Java
