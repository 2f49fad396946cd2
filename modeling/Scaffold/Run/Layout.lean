import Scaffold.Store.Path

/-! The source roots of a project, and the packages of the directories below them. -/

namespace Scaffold.Run

open Scaffold.Text

/-- Where Java sources, mapping documents and the pages of a project are kept. -/
structure Layout where
  javaRoot : String := ""
  resourcesRoot : String := ""
  projectRoot : String := ""
  deriving DecidableEq, Inhabited

/-- Without a place of their own the mapping documents go to the project root. -/
def Layout.of (javaRoot : String) (resourcesRoot : Option String) (projectRoot : String) : Layout where
  javaRoot := Store.stripSlashes javaRoot
  resourcesRoot := Store.stripSlashes (resourcesRoot.getD projectRoot)
  projectRoot := Store.stripSlashes projectRoot

namespace Layout

/-- A directory as seen from the Java root; one outside it stays as it is. -/
def belowJavaRoot (l : Layout) (directory : String) : String :=
  if l.javaRoot.isEmpty then directory
  else if directory == l.javaRoot then ""
  else
    match after? (l.javaRoot ++ "/").toList directory.toList with
    | some r => String.ofList r
    | none => directory

def dotted (path : String) : String :=
  String.ofList (path.toList.map fun c => if c == '/' then '.' else c)

def packageOf (l : Layout) (directory : String) : String :=
  dotted (Store.stripSlashes (l.belowJavaRoot directory))

/-- The directory above, none at the Java root and at the top. -/
def parent? (l : Layout) (directory : String) : Option String :=
  if directory == l.javaRoot || directory.isEmpty then none else some (Store.parent directory)

end Layout

end Scaffold.Run
