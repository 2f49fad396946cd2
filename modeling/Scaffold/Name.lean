import Scaffold.Text.Letters

/-! Names of artifacts, columns and addresses, derived from identifiers. An identifier is cut into
words where the kind of character changes; the last capital of a run opens the word of the small
letters behind it. -/

namespace Scaffold.Name

open Scaffold.Text

inductive Kind where
  | upper | lower | digit | other
  deriving DecidableEq, Repr

def Kind.ofChar (c : Char) : Kind :=
  if isUpper c then .upper
  else if isLower c then .lower
  else if isDigit c then .digit
  else .other

/-- Maximal runs of one kind. -/
def runs (kind : Char → Kind) (s : List Char) : List (List Char) :=
  s.splitBy fun a b => kind a == kind b

def runKind (kind : Char → Kind) : List Char → Kind
  | [] => .other
  | c :: _ => kind c

/-- A run of capitals gives its last one to the small letters that follow. -/
def lend (kind : Char → Kind) : List (List Char) → List (List Char)
  | [] => []
  | [w] => [w]
  | u :: w :: rest =>
    if runKind kind u == .upper && runKind kind w == .lower then
      match u.dropLast, u.getLast? with
      | [], _ => (u ++ w) :: lend kind rest
      | v, some c => v :: (c :: w) :: lend kind rest
      | v, none => v :: w :: lend kind rest
    else u :: lend kind (w :: rest)

/-- The words of a text under a given classification of its characters. -/
def wordsBy (kind : Char → Kind) (s : List Char) : List (List Char) :=
  (lend kind (runs kind s)).filter fun w => runKind kind w != .other

def words (s : String) : List String :=
  if allBlank s then [] else (wordsBy Kind.ofChar s.toList).map String.ofList

def entitySuffix : String := "Entity"

/-- The name without blanks around it and without the word `Entity` at its end. -/
def base (name : String) : String :=
  let s := trimChars name.toList
  let n := s.length - entitySuffix.length
  if s.drop n = entitySuffix.toList then String.ofList (s.take n) else String.ofList s

def mapFirst (f : Char → List Char) : List Char → List Char
  | [] => []
  | c :: r => f c ++ r

def lowerFirst (s : String) : String :=
  if allBlank s then "" else String.ofList (mapFirst (fun c => lowerChars [c]) s.toList)

def upperFirst (s : String) : String :=
  if allBlank s then "" else String.ofList (mapFirst upperForm s.toList)

def snake (s : String) : String := "_".intercalate ((words s).map lower)

def kebab (s : String) : String := lowerFirst ("-".intercalate ((words s).map lower))

/-- The table of an entity that names none. -/
def table (base : String) : String := "t_" ++ snake base

end Scaffold.Name
