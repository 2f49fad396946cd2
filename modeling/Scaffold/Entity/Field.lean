import Scaffold.Entity.ColumnText
import Scaffold.Name

/-! Fields of an entity. -/

namespace Scaffold.Entity

open Scaffold.Text

/-- A field as the generator sees it. `typeName` is the written type without qualifiers, arguments
and dimensions included; `annotations` are simple names. -/
structure Field where
  name : String
  typeName : String
  qualifiedType : Option String := none
  columnDefinition : Option String := none
  columnName : Option String := none
  isEnum : Bool := false
  isId : Bool := false
  annotations : List String := []
  deriving DecidableEq, Inhabited

def dropDimensions : List Char → List Char
  | [] => []
  | '[' :: ']' :: r => dropDimensions r
  | c :: r => c :: dropDimensions r

/-- A type text without dimensions and arguments. -/
def rawOf (typeName : String) : String :=
  let t := dropDimensions (trimChars typeName.toList)
  String.ofList (if t.contains '<' then trimChars (t.takeWhile (· != '<')) else t)

def wrappers : List (String × String) :=
  [("int", "Integer"), ("long", "Long"), ("double", "Double"), ("float", "Float"),
   ("short", "Short"), ("byte", "Byte"), ("boolean", "Boolean"), ("char", "Character")]

/-- The primitive types, by name. -/
def isPrimitive (typeName : String) : Bool := (wrappers.lookup typeName).isSome

def stringTypes : List String := ["String", "CharSequence"]

def booleanTypes : List String := ["boolean", "Boolean"]

def integerTypes : List String :=
  ["int", "Integer", "long", "Long", "short", "Short", "byte", "Byte", "BigInteger"]

namespace Field

def rawType (f : Field) : String := rawOf f.typeName

def wrapperType (f : Field) : String := (wrappers.lookup f.typeName).getD f.typeName

/-- The column that a field names, or its own name in snake case. -/
def column (f : Field) : String := (f.columnName.bind nonempty?).getD (Name.snake f.name)

def comment (f : Field) : Option String := f.columnDefinition.bind ColumnText.comment?

/-- The heading under which a field is shown. -/
def title (f : Field) : String := f.comment.getD f.name

/-- A field that tells rows of different kinds apart: an enum, or a type whose name says so. -/
def isTypeMarker (f : Field) : Bool := f.isEnum || contains (lower f.rawType) "type"

def definitionText (f : Field) : String := f.columnDefinition.getD ""

end Field

end Scaffold.Entity
