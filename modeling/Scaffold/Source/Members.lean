import Scaffold.Java.Literal
import Scaffold.Java.Parser
import Scaffold.Symbols.Handle

/-! Fields and methods of declared types, as descriptors. -/

namespace Scaffold.Source

open Scaffold.Text
open Scaffold.Java

/-- How classes outside a source are found by name. -/
abbrev Lookup := String → Option Handle

/-- Names that single-type imports bring in, by simple name. -/
structure Scope where
  package : String
  imports : List (String × String)

def Scope.of (u : SourceUnit) : Scope where
  package := u.packageName
  imports :=
    let single := u.imports.filter fun i => !i.isStatic && !i.onDemand
    Entries.putAll (single.map fun i => (lastSegment i.name, i.name)) []

def Scope.imported? (s : Scope) (name : String) : Option String := s.imports.lookup name

def annotNames (as : List Annot) : List String := as.map (·.simpleName)

/-- The first annotation of a simple name. -/
def annotNamed? (name : String) (as : List Annot) : Option Annot := as.find? (·.simpleName == name)

/-- What is known of the type of a field. -/
structure FieldType where
  qualified : Option String
  isEnum : Bool

/-- Enums of the declaration itself come first; they belong to it. Other types are looked up by the name
that is written or imported. -/
def fieldType (s : Scope) (owner : DeclHead) (lookup : Lookup) (t : TypeRef) : FieldType :=
  let raw := t.path.lastName
  let known := t.path.qualified?.or (s.imported? raw)
  if owner.enums.contains raw then
    { qualified := known.or (some (qualify s.package owner.name ++ "." ++ raw)), isEnum := true }
  else
    match lookup (known.getD raw) with
    | some h => { qualified := known.or (some h.qualifiedName), isEnum := h.isEnum }
    | none => { qualified := known, isEnum := false }

def declaredFields (s : Scope) (owner : DeclHead) (lookup : Lookup) (d : FieldDecl) :
    List Entity.Field :=
  let type := fieldType s owner lookup d.type
  let column := annotNamed? "Column" d.annots
  d.names.map fun name =>
    { name
      typeName := d.type.text
      qualifiedType := type.qualified
      columnDefinition := column.bind (·.value? "columnDefinition")
      columnName := column.bind (·.value? "name")
      isEnum := type.isEnum
      isId := (annotNames d.annots).contains "Id"
      annotations := annotNames d.annots }

/-- The fields of a declaration; static ones do not count. -/
def fieldsOf (s : Scope) (lookup : Lookup) (owner : DeclHead) : List Entity.Field :=
  (owner.fields.filter (!·.isStatic)).flatMap (declaredFields s owner lookup)

end Scaffold.Source
