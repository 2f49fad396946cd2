import Scaffold.Artifact.Template

/-! Import lists of generated classes: which classes a field's type needs, and the block of import
lines that a list of names becomes. -/

namespace Scaffold.Artifact

open Scaffold.Text
open Scaffold.Entity (Field)

def timeTypes : List String :=
  ["LocalDate", "LocalDateTime", "LocalTime", "Instant", "OffsetDateTime", "ZonedDateTime"]

def knownTypes : List (String × String) :=
  [("BigDecimal", "java.math.BigDecimal"), ("BigInteger", "java.math.BigInteger"),
   ("UUID", "java.util.UUID"), ("Date", "java.util.Date"), ("List", "java.util.List"),
   ("Set", "java.util.Set"), ("Map", "java.util.Map")]

/-- The import of a library class that is known by its simple name. -/
def libraryImport? (simple : String) : Option String :=
  if timeTypes.contains simple then some ("java.time." ++ simple) else knownTypes.lookup simple

def startsAsciiName (c : Char) : Bool := isAsciiLetter c || c == '_'

def inAsciiName (c : Char) : Bool := startsAsciiName c || isAsciiDigit c

/-- The ASCII names in a text, `name` being the one under way, last character first. -/
def asciiNamesFrom (name : List Char) : List Char → List String
  | [] => if name.isEmpty then [] else [String.ofList name.reverse]
  | c :: r =>
    if name.isEmpty then asciiNamesFrom (if startsAsciiName c then [c] else []) r
    else if inAsciiName c then asciiNamesFrom (c :: name) r
    else String.ofList name.reverse :: asciiNamesFrom [] r

/-- The names inside the type arguments of a type text. -/
def argumentNames (typeName : String) : List String :=
  asciiNamesFrom [] (typeName.toList.dropWhile (· != '<'))

/-- The imports of the type itself: the qualified name when there is one outside `java.lang`. -/
def outerImports (f : Field) : List String :=
  match f.qualifiedType.bind nonempty? with
  | some q => if startsWith q "java.lang." then (libraryImport? f.rawType).toList else [q]
  | none => (libraryImport? f.rawType).toList

/-- The imports that a member of the field's type needs. -/
def typeImports (f : Field) : List String :=
  outerImports f ++ (argumentNames f.typeName).filterMap libraryImport?

/-- The name that an item imports: a qualified name, or an import line with or without semicolon. -/
def importedName (item : String) : String :=
  let s := trimChars item.toList
  let s := match after? "import".toList s with
    | some (c :: r) => if isBlank c then dropBlanks r else s
    | _ => s
  String.ofList (trimChars (s.reverse.dropWhile (· == ';')).reverse)

/-- The import line of an item, unless it names no package, this package or `java.lang`. -/
def importLine? (package item : String) : Option String :=
  let name := importedName item
  match owner? name with
  | some owner =>
    if owner == package || owner == "java.lang" then none else some ("import " ++ name ++ ";")
  | none => none

/-- Puts a text where it belongs among sorted ones, unless it is there. -/
def insertSorted (x : String) : List String → List String
  | [] => [x]
  | y :: r => if x == y then y :: r else if x < y then x :: y :: r else y :: insertSorted x r

/-- Sorted by code points, each text once. -/
def sortedSet (xs : List String) : List String := xs.foldr insertSorted []

def importLines (package : String) (items : List String) : List String :=
  sortedSet (items.filterMap (importLine? package))

/-- The import lines, each with a line break; the empty block is the empty text. -/
def importBlock (package : String) (items : List String) : String :=
  String.join ((importLines package items).map (· ++ "\n"))

/-- A source file: package line, import block and the trimmed body, with an empty line between. -/
def sourceFile (package : String) (imports : List String) (body : String) : String :=
  let head := if package.isEmpty then "" else "package " ++ package ++ ";\n\n"
  let block := importBlock package imports
  let head := if block.isEmpty then head else head ++ block ++ "\n"
  head ++ trim body ++ "\n"

/-- The template of a Java class. -/
def javaTemplate (kind : ArtifactKind) (name package : String) (imports : List String)
    (body : String) : Template where
  kind := kind
  name := name
  fileName := name ++ ".java"
  content := sourceFile package imports body
  package := some package

end Scaffold.Artifact
