import Scaffold.Java.Tree
import Scaffold.Entries

/-! Texts that annotation elements stand for. -/

namespace Scaffold.Java

open Scaffold.Text

/-- Escaped quotes become plain ones; other escapes stay. -/
def unescapeQuotes : List Char → List Char
  | [] => []
  | '\\' :: '"' :: r => '"' :: unescapeQuotes r
  | c :: r => c :: unescapeQuotes r

/-- The inside of a string literal; any other literal as it is written. -/
def literalText (text : String) : String :=
  match text.toList with
  | '"' :: c :: r =>
    if (c :: r).getLast? == some '"' then String.ofList (unescapeQuotes (c :: r).dropLast) else text
  | _ => text

/-- Literals, names and their concatenations have a text; all else has the empty one. -/
def Value.text : Value → String
  | .literal text => literalText text
  | .name qualifier member => ".".intercalate (qualifier ++ [member])
  | .binary operator left right => if operator == "+" then left.text ++ right.text else ""
  | .emptyArray => ""
  | .other => ""

/-- The elements of an annotation by name; a single value is called `value`. -/
def Annot.values (a : Annot) : List (String × String) :=
  match a.element with
  | none => []
  | some (.pairs values) => Entries.putAll (values.map fun (k, v) => (k, v.text)) []
  | some (.single .emptyArray) => []
  | some (.single v) => [("value", v.text)]

/-- The text of an element, when it is not empty. -/
def Annot.value? (a : Annot) (key : String) : Option String :=
  (a.values.lookup key).bind nonempty?

end Scaffold.Java
