import Scaffold.Java.Token
import Scaffold.Java.Escapes
import Scaffold.Text.Quoted

/-! From a source to its tokens, or to the first place where there is none. -/

namespace Scaffold.Java

open Scaffold.Text

inductive Problem where
  | unknown | unicodeEscape | escape | openLiteral | openComment | hexFloat
  deriving DecidableEq

def Problem.text : Problem → String
  | .unknown => "Could not process token"
  | .unicodeEscape => "Invalid unicode escape"
  | .escape => "Illegal escape character"
  | .openLiteral => "Unterminated character/string literal"
  | .openComment => "Unterminated block comment"
  | .hexFloat => "Invalid hex float literal"

/-- A place without a token: what is wrong, the characters that show it, and the line around. -/
structure LexError where
  problem : Problem
  shown : String
  line : Nat
  context : String
  deriving DecidableEq

def LexError.message (e : LexError) : String :=
  e.problem.text ++ " at \"" ++ e.shown ++ "\", line " ++ toString e.line ++ ": " ++ e.context

inductive LexFault where
  | error (e : LexError)
  /-- A number at the end of the source whose digits are missing. -/
  | openNumber
  deriving DecidableEq

/-- A place in a source: what lies behind it, nearest first, what lies ahead, what followed the last
token, and the number of the line. Line ends inside literals do not count. -/
structure Place where
  behind : List Char
  ahead : List Char
  afterLast : List Char
  line : Nat

namespace Place

def start (source : List Char) : Place := ⟨[], source, source, 1⟩

/-- The line around a place. Of a last line without a line feed the last character is missing. -/
def context (p : Place) : String :=
  let tail :=
    if p.ahead.contains '\n' then p.ahead.takeWhile (· != '\n') else p.ahead.dropLast
  String.ofList (trimChars ((p.behind.takeWhile (· != '\n')).reverse ++ tail))

def error {α : Type} (p : Place) (problem : Problem) (shown : List Char) : Except LexFault α :=
  .error (.error { problem, shown := String.ofList shown, line := p.line, context := p.context })

/-- Past `n` characters that form a token. -/
def pass (p : Place) (n : Nat) : Place where
  behind := (p.ahead.take n).reverse ++ p.behind
  ahead := p.ahead.drop n
  afterLast := p.ahead.drop n
  line := p.line

/-- Past `n` characters between tokens. -/
def skip (p : Place) (n : Nat) : Place where
  behind := (p.ahead.take n).reverse ++ p.behind
  ahead := p.ahead.drop n
  afterLast := p.afterLast
  line := p.line + (p.ahead.take n).count '\n'

end Place

def startsIdentifier (c : Char) : Bool :=
  if c.toNat < 128 then isAsciiLetter c || c == '_' || c == '$'
  else within Table.letters c.toNat || within Table.letterNumbers c.toNat
    || within Table.connectors c.toNat || within Table.currencies c.toNat

def inIdentifier (c : Char) : Bool :=
  startsIdentifier c || isAsciiDigit c
    || (128 ≤ c.toNat && (within Table.marks c.toNat || within Table.decimals c.toNat))

/-- The length of a run of digits, low lines between them included, and the character it stops at. -/
def digitRun (isDigit : Char → Bool) (lows count : Nat) : List Char → Nat × Option Char
  | [] => (count, none)
  | c :: r =>
    if isDigit c then digitRun isDigit 0 (count + lows + 1) r
    else if c == '_' then digitRun isDigit (lows + 1) count r
    else (count, some c)

/-- The length of a run of digits and a mark for a long number behind it. -/
def digitsLength (isDigit : Char → Bool) (s : List Char) : Except LexFault Nat :=
  if s.isEmpty then .error .openNumber
  else
    match digitRun isDigit 0 0 s with
    | (n, some c) => .ok (if c == 'l' || c == 'L' then n + 1 else n)
    | (n, none) => .ok n

def isHexDigit (c : Char) : Bool := (Json.hexValue? c).isSome

def isOctalDigit (c : Char) : Bool := '0' ≤ c && c ≤ '7'

def opens (cs : List Char) : List Char → Bool
  | [] => false
  | c :: _ => cs.contains c

def suffixLength (s : List Char) : Nat := if opens ['f', 'F', 'd', 'D'] s then 1 else 0

def signLength (s : List Char) : Nat := if opens ['-', '+'] s then 1 else 0

def exponentLength (s : List Char) : Except LexFault Nat :=
  if opens ['e', 'E'] s then do
    let n := 1 + signLength (s.drop 1)
    return n + (← digitsLength isAsciiDigit (s.drop n))
  else .ok 0

/-- The length of a decimal number. -/
def decimalLength (s : List Char) : Except LexFault Nat := do
  let n ← digitsLength isAsciiDigit s
  let r := s.drop n
  if !opens ['.', 'e', 'E', 'f', 'F', 'd', 'D'] r then return n
  let n ← if opens ['.'] r then do pure (n + 1 + (← digitsLength isAsciiDigit (r.drop 1))) else pure n
  let n := n + (← exponentLength (s.drop n))
  return n + suffixLength (s.drop n)

/-- The length of a hexadecimal number. One with a point has to have an exponent. -/
def hexLength (p : Place) : Except LexFault Nat := do
  let s := p.ahead
  let n := 2 + (← digitsLength isHexDigit (s.drop 2))
  let r := s.drop n
  if !opens ['.', 'p', 'P'] r then return n
  let n ← if opens ['.'] r then do pure (n + 1 + (← digitsLength isHexDigit (r.drop 1))) else pure n
  match s.drop n with
  | [] => .error .openNumber
  | c :: r =>
    if c == 'p' || c == 'P' then
      let n := n + 1 + signLength r
      let n := n + (← digitsLength isAsciiDigit (s.drop n))
      return n + suffixLength (s.drop n)
    else p.error .hexFloat [c]

def numberLength (p : Place) : Except LexFault Nat :=
  match p.ahead with
  | ['0'] => .error .openNumber
  | '0' :: c :: r =>
    if c == 'x' || c == 'X' then hexLength p
    else if c == 'b' || c == 'B' then
      (digitsLength (fun d => d == '0' || d == '1') r).map (2 + ·)
    else if isOctalDigit c then (digitsLength isOctalDigit (c :: r)).map (1 + ·)
    else decimalLength p.ahead
  | s => decimalLength s

def escapable (c : Char) : Bool := "btnfru\"'\\01234567".toList.contains c

/-- What is found looking for the end of a literal. -/
inductive LiteralEnd where
  | closed (length : Nat)
  | badEscape (c : Char)
  | missing

def literalEnd (delimiter : Char) (n : Nat) : List Char → LiteralEnd
  | [] => .missing
  | ['\\'] => .missing
  | '\\' :: c :: r => if escapable c then literalEnd delimiter (n + 2) r else .badEscape c
  | c :: r => if c == delimiter then .closed (n + 1) else literalEnd delimiter (n + 1) r

/-- The number of characters before the end of a block comment, its end included. -/
def commentLength? (n : Nat) : List Char → Option Nat
  | [] => none
  | '*' :: '/' :: _ => some (n + 2)
  | _ :: r => commentLength? (n + 1) r

/-- What stands at a place: something to skip, or a token, by its length. -/
inductive Piece where
  | gap (length : Nat)
  | token (kind : TokenKind) (length : Nat)

def operatorLength? (s : List Char) : Option Nat :=
  (operators.find? fun o => (after? o.toList s).isSome).map (·.length)

def Place.showLast (p : Place) : List Char := p.afterLast.take 1

/-- The piece at a place with the character `c` and then `r` ahead. -/
def pieceAt (p : Place) (c : Char) (r : List Char) : Except LexFault Piece :=
  if isBlank c then .ok (.gap (1 + (r.takeWhile isBlank).length))
  else if c == '/' && opens ['/'] r then
    let n := (r.takeWhile (· != '\n')).length
    .ok (.gap (1 + if n < r.length then n + 1 else n))
  else if c == '/' && opens ['*'] r then
    match commentLength? 2 (r.drop 1) with
    | some n => .ok (.gap n)
    | none => p.error .openComment p.showLast
  else if (after? "...".toList (c :: r)).isSome then .ok (.token .operator 3)
  else if c == '@' then .ok (.token .at 1)
  else if c == '.' && r.head?.any isDigit then (decimalLength (c :: r)).map (.token .literal)
  else if separators.contains c then .ok (.token .separator 1)
  else if c == '\'' || c == '"' then
    match literalEnd c 1 r with
    | .closed n => .ok (.token .literal n)
    | .badEscape e => p.error .escape [e]
    | .missing => p.error .openLiteral p.showLast
  else if isAsciiDigit c then (numberLength p).map (.token .literal)
  else if startsIdentifier c then
    let word := c :: r.takeWhile inIdentifier
    .ok (.token (wordKind (String.ofList word)) word.length)
  else
    match operatorLength? (c :: r) with
    | some n => .ok (.token .operator n)
    | none => p.error .unknown [c]

/-- The tokens from a place on; every piece is at least one character long. -/
def tokensFrom : Nat → Place → Except LexFault (List Token)
  | 0, _ => .ok []
  | fuel + 1, p =>
    match p.ahead with
    | [] => .ok []
    | c :: r => do
      match ← pieceAt p c r with
      | .gap n => tokensFrom fuel (p.skip (max n 1))
      | .token kind n =>
        let rest ← tokensFrom fuel (p.pass (max n 1))
        return { kind, text := String.ofList (p.ahead.take n) } :: rest

def tokens (source : String) : Except LexFault (List Token) :=
  let raw := source.toList
  match Escapes.decode raw with
  | .error shown => (Place.start raw).error .unicodeEscape shown
  | .ok decoded => tokensFrom (decoded.length + 1) (Place.start decoded)

end Scaffold.Java
