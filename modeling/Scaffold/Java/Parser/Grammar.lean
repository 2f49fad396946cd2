import Scaffold.Java.Parser.Cursor
import Scaffold.Java.Literal

/-! The grammar of Java sources as a record of readers, one for each symbol that can stand inside
itself. The readers of one nesting depth are built from those of the depth below. -/

namespace Scaffold.Java.Parser

/-- What a class body declares: a field, a method, a nested type, or nothing that is kept. -/
inductive Member where
  | field (f : FieldDecl)
  | method (name : String)
  | type (d : Decl)
  | other

structure Grammar where
  path : Parse TypePath
  annot : Parse Annot
  elementValue : Parse Value
  expression : Parse Value
  conditional : Parse Value
  operand : Parse Value
  arrayValue : Parse Unit
  block : Parse Unit
  statement : Parse Unit
  classBody : Parse (List Member)
  declaration : Parse Decl

/-- No readers: every symbol fails. -/
def Grammar.empty : Grammar where
  path := fail
  annot := fail
  elementValue := fail
  expression := fail
  conditional := fail
  operand := fail
  arrayValue := fail
  block := fail
  statement := fail
  classBody := fail
  declaration := fail

end Scaffold.Java.Parser
