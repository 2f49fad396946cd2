import Scaffold.Artifact.Imports
import Scaffold.Artifact.Members

/-! Query classes: what is asked for by id, and the page that is asked for. -/

namespace Scaffold.Artifact

def baseQueryName : String := "BaseQuery"

/-- The paging members, each with its initial value. -/
def pagingMembers : List (Member × Option String) :=
  [(⟨"Integer", "page"⟩, some "1"), (⟨"Integer", "size"⟩, some "10"), (⟨"String", "orderBy"⟩, none)]

def pagingDeclaration : Member × Option String → String
  | (m, some value) => "    private " ++ m.declared ++ " = " ++ value ++ ";"
  | (m, none) => "    private " ++ m.declared ++ ";"

def pagingText (className : String) : String :=
  Text.unlines (pagingMembers.map pagingDeclaration) ++ "\n\n"
    ++ accessors className (pagingMembers.map (·.1))

def baseQueryTemplate (package : String) : Template :=
  javaTemplate .baseQuery baseQueryName package []
    ("public class " ++ baseQueryName ++ " \x7b\n" ++ pagingText baseQueryName ++ "\n\x7d\n")

def queryMembers (e : Entity) : List Member :=
  [⟨"List<" ++ e.idType ++ ">", "ids"⟩, ⟨e.idType, "id"⟩, ⟨e.idType, "idNot"⟩]

def queryImports (e : Entity) (base : Option Handle) : List String :=
  "java.util.List" :: ((e.idField?.bind (·.qualifiedType)).bind Text.nonempty?).toList
    ++ (base.map (·.qualifiedName)).toList

def queryTemplate (e : Entity) (package : String) (base : Option Handle) : Template :=
  let name := e.baseName ++ "Query"
  let heritage := match base with
    | some b => " extends " ++ b.name
    | none => ""
  let paging := if base.isSome then "" else "\n\n" ++ pagingText name
  javaTemplate .query name package (queryImports e base)
    ("public class " ++ name ++ heritage ++ " \x7b\n"
      ++ Text.unlines ((queryMembers e).map fun m => "    private " ++ m.declared ++ ";")
      ++ "\n\n" ++ accessors name (queryMembers e) ++ paging ++ "\n\x7d\n")

end Scaffold.Artifact
