import Scaffold.Artifact.Imports
import Scaffold.Artifact.Members

/-! Expressions of generated code that read or set a field of an entity. -/

namespace Scaffold.Artifact

open Scaffold.Entity

def getter (f : Field) : String :=
  (if f.typeName == "boolean" then "is" else "get") ++ Name.upperFirst f.name

def setter (f : Field) : String := setterName f.name

/-- A call of the getter on a variable. -/
def readOf (f : Field) (var : String) : String := var ++ "." ++ getter f ++ "()"

/-- The condition that holds while a variable has no value in the field. -/
def unsetCheck (f : Field) (var : String) : String :=
  readOf f var ++ if isPrimitive f.typeName then " == 0" else " == null"

def nowExpressions : List (String × String) :=
  [("Date", "new Date()"), ("Timestamp", "new Timestamp(System.currentTimeMillis())"),
   ("Long", "System.currentTimeMillis()"), ("long", "System.currentTimeMillis()")]

/-- The present moment as a value of the field's type. -/
def nowExpression (f : Field) : String :=
  (nowExpressions.lookup f.rawType).getD (f.rawType ++ ".now()")

def flagValues : List (String × String) :=
  [("long", "1L"), ("Long", "1L"), ("short", "(short) 1"), ("Short", "(short) 1"),
   ("byte", "(byte) 1"), ("Byte", "(byte) 1")]

/-- The value that marks a row as deleted. -/
def flagValue (f : Field) : String :=
  if booleanTypes.contains f.rawType then "true" else (flagValues.lookup f.rawType).getD "1"

/-- How a deletion flag is tested. -/
inductive FlagTest where
  | plain | boxed | number | objects
  deriving DecidableEq

def flagTest (f : Field) : FlagTest :=
  if f.typeName == "boolean" then .plain
  else if f.typeName == "Boolean" then .boxed
  else if ["int", "long", "short", "byte"].contains f.typeName then .number
  else .objects

/-- The condition that holds when the deletion flag of a variable is set. -/
def isFlagged (f : Field) (var : String) : String :=
  match flagTest f with
  | .plain => readOf f var
  | .boxed => "Boolean.TRUE.equals(" ++ readOf f var ++ ")"
  | .number => readOf f var ++ " == 1"
  | .objects => "Objects.equals(" ++ readOf f var ++ ", " ++ flagValue f ++ ")"

def flagImports (f : Field) : List String :=
  if flagTest f == .objects then ["java.util.Objects"] else []

end Scaffold.Artifact
