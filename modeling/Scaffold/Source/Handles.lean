import Scaffold.Source.Members

/-! Handles of the types that a source declares, nested ones behind their owners. -/

namespace Scaffold.Source

open Scaffold.Java

def classKind : DeclKind → ClassKind
  | .plain => .plain
  | .interface => .interface
  | .enum => .enum
  | .marker => .interface

/-- The superclass by the name that is written, with its qualifiers. -/
def superclassName (d : DeclHead) : Option String :=
  d.superclass.map fun p => p.qualified?.getD p.lastName

def handleOf (s : Scope) (lookup : Lookup) (path : Option String) (d : DeclHead) : Handle where
  name := d.name
  package := s.package
  kind := classKind d.kind
  fields := fieldsOf s lookup d
  methods := d.methods
  superclass := superclassName d
  path := path

mutual

/-- A declaration and the declarations nested in it. -/
def heads : Decl → List DeclHead
  | .mk head nested => head :: headsOf nested

def headsOf : List Decl → List DeclHead
  | [] => []
  | d :: r => heads d ++ headsOf r

end

def handlesOf (u : SourceUnit) (lookup : Lookup) (path : Option String) : List Handle :=
  (headsOf u.types).map (handleOf (Scope.of u) lookup path)

/-- The handles of all types in a source. -/
def handles (source : String) (lookup : Lookup) (path : Option String) :
    Except SourceFault (List Handle) :=
  (SourceUnit.read source).map fun u => handlesOf u lookup path

end Scaffold.Source
