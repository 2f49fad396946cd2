import Scaffold.Entity.Field
import Scaffold.Text.Lines

/-! Places in the lines of a source file: where a class or a field is declared, what is imported, and
where an import line goes. -/

namespace Scaffold.Annotate

open Scaffold.Text

/-- A text from every line start on; lines end at line feeds here. -/
def lineStartsFrom : List Char → List (List Char)
  | [] => []
  | c :: r => if c == '\n' then r :: lineStartsFrom r else lineStartsFrom r

def lineStarts (s : List Char) : List (List Char) := s :: lineStartsFrom s

/-- Whether `k` accepts what is left after some number of blanks. -/
def afterBlanks (k : List Char → Bool) : List Char → Bool
  | [] => k []
  | c :: r => k (c :: r) || (isBlank c && afterBlanks k r)

/-- Whether `k` accepts what is left after one or more blanks. -/
def afterSomeBlanks (k : List Char → Bool) : List Char → Bool
  | [] => false
  | c :: r => isBlank c && afterBlanks k r

/-- Whether `k` accepts what follows a given text. -/
def afterText (p : List Char) (k : List Char → Bool) (s : List Char) : Bool := (after? p s).any k

def atLineEnd : List Char → Bool
  | [] => true
  | c :: _ => c == '\n'

/-- A line that imports the given name, nothing else on it. -/
def importHere (name : List Char) : List Char → Bool :=
  afterBlanks <| afterText "import".toList <| afterSomeBlanks <| afterText name <|
    afterBlanks <| afterText [';'] <| afterBlanks atLineEnd

def imports (lines : List String) (name : String) : Bool :=
  (lineStarts (unlines lines).toList).any (importHere name.toList)

/-- A line that imports something below the given name. -/
def importBelowHere (name : List Char) : List Char → Bool :=
  afterBlanks <| afterText "import".toList <| afterSomeBlanks <| afterText name fun _ => true

/-- The package of the persistence annotations that a source uses. -/
def persistencePackage (source : String) : String :=
  if (lineStarts source.toList).any (importBelowHere "jakarta.persistence.".toList) then
    "jakarta.persistence"
  else "javax.persistence"

def opensWith (word line : String) : Bool := startsWith (trim line) word

/-- Where a new import line goes. -/
inductive ImportPlace where
  | after (line : Nat)
  | afterPackage (line : Nat)
  | top
  deriving DecidableEq

def lastIdx? {α : Type} (p : α → Bool) (xs : List α) : Option Nat :=
  (xs.reverse.findIdx? p).map fun i => xs.length - 1 - i

def importPlace (lines : List String) : ImportPlace :=
  let package? := lines.findIdx? (opensWith "package ")
  match lastIdx? (opensWith "import ") lines, package? with
  | some i, _ => .after i
  | none, some i => .afterPackage i
  | none, none => .top

def insertAt {α : Type} (i : Nat) (new xs : List α) : List α := xs.take i ++ new ++ xs.drop i

def importLine (name : String) : String := "import " ++ name ++ ";"

def addImport (lines : List String) (name : String) : List String :=
  match importPlace lines with
  | .after i => insertAt (i + 1) [importLine name] lines
  | .afterPackage i => insertAt (i + 1) ["", importLine name] lines
  | .top => importLine name :: "" :: lines

/-- The lines with an import that the name needs, unless it or its whole package is imported. -/
def ensureImport (lines : List String) (name : String) : Option (List String) :=
  if imports lines name || imports lines ((owner? name).getD name ++ ".*") then none
  else some (addImport lines name)

/-- A word ends between two characters of which exactly one belongs to words. -/
def boundary (before after : Option Char) : Bool := before.any isWord != after.any isWord

/-- A text that opens with `class` and a name. -/
def classHere (name : List Char) (before : Option Char) (s : List Char) : Bool :=
  !before.any isWord &&
    afterText "class".toList (afterSomeBlanks <| afterText name fun r =>
      boundary name.getLast? r.head?) s

def classWithin (name : List Char) : Option Char → List Char → Bool
  | before, [] => classHere name before []
  | before, c :: r => classHere name before (c :: r) || classWithin name (some c) r

def classLine? (lines : List String) (name : String) : Option Nat :=
  lines.findIdx? fun l => classWithin name.toList none l.toList

/-- The characters of modifiers and types, blanks between them included. -/
def inType (c : Char) : Bool := isWord c || ".$<>[],?".toList.contains c || isBlank c

/-- Whether `k` accepts what is left after one or more characters of a type. -/
def afterType (k : List Char → Bool) : List Char → Bool
  | [] => false
  | c :: r => inType c && (k r || afterType k r)

/-- Nothing more than a value up to a semicolon. -/
def endsDeclaration (s : List Char) : Bool :=
  match dropBlanks s with
  | ';' :: _ => true
  | '=' :: r => r.contains ';'
  | _ => false

def opensStatement (s : List Char) : Bool :=
  ["return".toList, "throw".toList].any fun w => afterText w (fun r => !r.head?.any isWord) s

/-- A line that declares a field: some type, blanks, the name, perhaps a value, and a semicolon. -/
def declaresField (name : List Char) : List Char → Bool :=
  afterBlanks fun s =>
    !opensStatement s && afterType (afterSomeBlanks (afterText name endsDeclaration)) s

/-- The first line from a given one on that declares a field. -/
def fieldLine? (lines : List String) (start : Nat) (name : String) : Option Nat :=
  ((lines.drop start).findIdx? fun l => declaresField name.toList l.toList).map (start + ·)

def marginOf (line : String) : String := String.ofList (line.toList.takeWhile isBlank)

end Scaffold.Annotate
