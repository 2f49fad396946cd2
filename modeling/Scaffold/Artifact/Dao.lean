import Scaffold.Artifact.Imports
import Scaffold.Settings

/-! Data access interfaces. -/

namespace Scaffold.Artifact

open Scaffold.Text

def daoImports (e : Entity) (s : Settings) (query : Handle) : List String :=
  [e.qualifiedName, query.qualifiedName] ++
    match s.superDao? with
    | some n => if contains n "." then [n] else []
    | none => ["java.util.List"]

def daoTemplate (e : Entity) (s : Settings) (package : String) (query : Handle) : Template :=
  let name := e.baseName ++ "Dao"
  let body := match s.superDao? with
    | some n => " extends " ++ lastSegment n ++ "<" ++ e.name ++ ", " ++ query.name ++ "> \x7b\n\x7d\n"
    | none =>
      " \x7b\n    List<" ++ e.name ++ "> query(" ++ query.name ++ " query);\n\n"
        ++ "    long count(" ++ query.name ++ " query);\n\n"
        ++ "    List<" ++ e.name ++ "> findAll();\n\n"
        ++ "    void batchAdd(List<" ++ e.name ++ "> list);\n\x7d\n"
  javaTemplate .dao name package (daoImports e s query) ("public interface " ++ name ++ body)

end Scaffold.Artifact
