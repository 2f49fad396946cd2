import Scaffold.Text.Lines
import Scaffold.Text.Letters

/-! What a column definition says: its comment, its length and whether it admits null. Key words are
read in any case. -/

namespace Scaffold.Entity.ColumnText

open Scaffold.Text

/-- The two ASCII forms of a letter are one key letter. -/
def sameLetter (a b : Char) : Bool := a == lowerAscii b
where
  lowerAscii (c : Char) : Char := if 'A' ≤ c && c ≤ 'Z' then Char.ofNat (c.toNat + 32) else c

/-- What follows a text that starts with a small-letter word in any case. -/
def afterWord? : List Char → List Char → Option (List Char)
  | [], s => some s
  | _ :: _, [] => none
  | p :: ps, c :: s => if sameLetter p c then afterWord? ps s else none

/-- What follows one or more blanks. -/
def afterBlanks? : List Char → Option (List Char)
  | [] => none
  | c :: r => if isBlank c then some (dropBlanks r) else none

def afterChar? (p : Char) : List Char → Option (List Char)
  | [] => none
  | c :: r => if c == p then some r else none

/-- The text up to the closing quote. A backslash takes any character but a line feed with it. -/
def quotedBody? : List Char → Option (List Char)
  | [] => none
  | '\'' :: _ => some []
  | '\\' :: c :: r => if c == '\n' then none else (quotedBody? r).map fun b => '\\' :: c :: b
  | ['\\'] => none
  | c :: r => (quotedBody? r).map (c :: ·)

/-- A comment clause at the start of a text. -/
def commentHere? (s : List Char) : Option (List Char) := do
  quotedBody? (← afterChar? '\'' (← afterBlanks? (← afterWord? "comment".toList s)))

/-- The answer at the first place of a text that has one. The reader also sees the character
before the place. -/
def firstMatch {α : Type} (f : Option Char → List Char → Option α) :
    Option Char → List Char → Option α
  | before, [] => f before []
  | before, c :: r =>
    match f before (c :: r) with
    | some a => some a
    | none => firstMatch f (some c) r

/-- The comment of a column; one of blanks only is none. -/
def comment? (definition : String) : Option String :=
  match firstMatch (fun _ s => commentHere? s) none definition.toList with
  | some body => nonempty? (String.ofList (trimChars body))
  | none => none

/-- A place is free on its left when no word runs into it. -/
def freeLeft (before : Option Char) : Bool := !before.any isWord

def freeRight (s : List Char) : Bool := !s.head?.any isWord

def decimalsValue (ds : List Char) : Nat := ds.foldl (fun n c => 10 * n + (decimal? c).getD 0) 0

/-- A length clause `char(n)` or `varchar(n)` at the start of a text. -/
def lengthHere? (before : Option Char) (s : List Char) : Option Nat := do
  guard (freeLeft before)
  let s := (afterWord? "var".toList s).getD s
  let s := dropBlanks (← afterChar? '(' (dropBlanks (← afterWord? "char".toList s)))
  let ds := s.takeWhile isDecimal
  guard !ds.isEmpty
  let _ ← afterChar? ')' (dropBlanks (s.dropWhile isDecimal))
  return decimalsValue ds

/-- The length that the first length clause states, or zero. -/
def maxLength (definition : String) : Nat :=
  (firstMatch lengthHere? none definition.toList).getD 0

/-- The words `not null` at the start of a text. -/
def notNullHere? (before : Option Char) (s : List Char) : Option Unit := do
  guard (freeLeft before)
  let s ← afterWord? "null".toList (← afterBlanks? (← afterWord? "not".toList s))
  guard (freeRight s)

def notNull (definition : String) : Bool :=
  (firstMatch notNullHere? none definition.toList).isSome

end Scaffold.Entity.ColumnText
