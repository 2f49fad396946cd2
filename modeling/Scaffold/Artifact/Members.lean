import Scaffold.Text.Lines
import Scaffold.Name

/-! Members that several generated classes share: accessors and text in string literals. -/

namespace Scaffold.Artifact

open Scaffold.Text

/-- A typed name: a field, or a parameter. -/
structure Member where
  type : String
  name : String
  deriving DecidableEq, Inhabited

def Member.declared (m : Member) : String := m.type ++ " " ++ m.name

def setterName (name : String) : String := "set" ++ Name.upperFirst name

def getterName (name : String) : String := "get" ++ Name.upperFirst name

/-- Fluent setter, setter and getter of one member. -/
def accessorLines (className : String) (m : Member) : List String :=
  ["    public " ++ className ++ " " ++ m.name ++ "(" ++ m.declared ++ ") \x7b",
   "        this." ++ m.name ++ " = " ++ m.name ++ ";",
   "        return this;",
   "    \x7d",
   "",
   "    public void " ++ setterName m.name ++ "(" ++ m.declared ++ ") \x7b",
   "        this." ++ m.name ++ " = " ++ m.name ++ ";",
   "    \x7d",
   "",
   "    public " ++ m.type ++ " " ++ getterName m.name ++ "() \x7b",
   "        return this." ++ m.name ++ ";",
   "    \x7d"]

/-- Blocks with an empty line between them. -/
def paragraphs (blocks : List String) : String := "\n\n".intercalate blocks

def accessors (className : String) (members : List Member) : String :=
  paragraphs (members.map fun m => unlines (accessorLines className m))

def escapeChar (c : Char) : List Char := if c == '\\' || c == '"' then ['\\', c] else [c]

/-- A text as the inside of a string literal. -/
def stringLiteral (s : String) : String := String.ofList (s.toList.flatMap escapeChar)

end Scaffold.Artifact
