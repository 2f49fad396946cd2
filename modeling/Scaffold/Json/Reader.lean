import Scaffold.Entries
import Scaffold.Json.Value
import Scaffold.Decimal.Shortest

/-! JSON values read from a text, and where a text that holds none is at fault. A place is given by
the number of characters left behind it. -/

namespace Scaffold.Json

open Scaffold.Text

inductive Reason where
  | value | propertyName | colon | comma | unterminated | control | escape | unicodeEscape
  | extraData | byteOrderMark
  deriving DecidableEq

def Reason.text : Reason → String
  | .value => "Expecting value"
  | .propertyName => "Expecting property name enclosed in double quotes"
  | .colon => "Expecting ':' delimiter"
  | .comma => "Expecting ',' delimiter"
  | .unterminated => "Unterminated string starting at"
  | .control => "Invalid control character at"
  | .escape => "Invalid \\escape"
  | .unicodeEscape => "Invalid \\uXXXX escape"
  | .extraData => "Extra data"
  | .byteOrderMark => "Unexpected UTF-8 BOM (decode using utf-8-sig)"

structure Fault where
  reason : Reason
  left : Nat
  deriving DecidableEq

abbrev Read (α : Type) := Except Fault (α × List Char)

def fail {α : Type} (reason : Reason) (left : Nat) : Except Fault α := .error { reason, left }

def isSpace (c : Char) : Bool := c == ' ' || c == '\t' || c == '\n' || c == '\r'

def skip (s : List Char) : List Char := s.dropWhile isSpace

def hexValue? (c : Char) : Option Nat :=
  if isAsciiDigit c then some (c.toNat - 48)
  else if 'a' ≤ c && c ≤ 'f' then some (c.toNat - 87)
  else if 'A' ≤ c && c ≤ 'F' then some (c.toNat - 55)
  else none

def hexUnit? (a b c d : Char) : Option Nat := do
  return (((← hexValue? a) * 16 + (← hexValue? b)) * 16 + (← hexValue? c)) * 16 + (← hexValue? d)

/-- A code unit as a character; half a pair has none. -/
def ofUnit (n : Nat) : Char := if 0xd800 ≤ n && n < 0xe000 then '\ufffd' else Char.ofNat n

def joined? (high low : Nat) : Option Char :=
  if 0xd800 ≤ high && high < 0xdc00 && 0xdc00 ≤ low && low < 0xe000 then
    some (Char.ofNat (0x10000 + (high - 0xd800) * 0x400 + (low - 0xdc00)))
  else none

def simpleEscape? (c : Char) : Option Char :=
  match c with
  | '"' => some '"'
  | '\\' => some '\\'
  | '/' => some '/'
  | 'b' => some '\x08'
  | 'f' => some '\x0c'
  | 'n' => some '\n'
  | 'r' => some '\r'
  | 't' => some '\t'
  | _ => none

/-- A code unit that opens a pair and is followed by another escape. -/
def opensPair (n : Nat) (s : List Char) : Bool :=
  0xd800 ≤ n && n < 0xdc00 && 6 < s.length && (after? ['\\', 'u'] s).isSome

/-- The rest of a string; `opened` is what is left from its first quote on. `high` holds the first half
of a pair while the second is being read. -/
def stringFrom (opened : Nat) (high : Option Nat) : List Char → Read (List Char)
  | [] => fail .unterminated opened
  | '"' :: r => .ok ([], r)
  | ['\\'] => fail .unterminated opened
  | '\\' :: 'u' :: a :: b :: c :: d :: r =>
    let left := r.length + 5
    if r.isEmpty then fail .unicodeEscape left
    else
      match hexUnit? a b c d with
      | none => fail .unicodeEscape left
      | some n =>
        match high with
        | some h =>
          match joined? h n with
          | some c => prepend [c] (stringFrom opened none r)
          | none =>
            if opensPair n r then prepend [ofUnit h] (stringFrom opened (some n) r)
            else prepend [ofUnit h, ofUnit n] (stringFrom opened none r)
        | none =>
          if opensPair n r then stringFrom opened (some n) r
          else prepend [ofUnit n] (stringFrom opened none r)
  | '\\' :: 'u' :: r => fail .unicodeEscape (r.length + 1)
  | '\\' :: c :: r =>
    match simpleEscape? c with
    | some e => prepend [e] (stringFrom opened none r)
    | none => fail .escape (r.length + 2)
  | c :: r =>
    if c.toNat < 0x20 then fail .control (r.length + 1) else prepend [c] (stringFrom opened none r)
where
  prepend (cs : List Char) : Read (List Char) → Read (List Char)
    | .ok (s, r) => .ok (cs ++ s, r)
    | .error e => .error e

def readString (s : List Char) : Read String :=
  (stringFrom (s.length + 1) none s).map fun (cs, r) => (String.ofList cs, r)

def digitsOf (s : List Char) : List Char × List Char :=
  (s.takeWhile isAsciiDigit, s.dropWhile isAsciiDigit)

def natOf (ds : List Char) : Nat := ds.foldl (fun n c => 10 * n + (c.toNat - 48)) 0

/-- The digits behind a point, when there are some. -/
def fraction : List Char → List Char × List Char
  | '.' :: r =>
    match digitsOf r with
    | ([], _) => ([], '.' :: r)
    | found => found
  | s => ([], s)

/-- The power of ten behind an `e`, when there is one. -/
def power? (s : List Char) : Option (Int × List Char) :=
  match s with
  | c :: r =>
    if c == 'e' || c == 'E' then
      let (negative, r) := match r with
        | '-' :: r => (true, r)
        | '+' :: r => (false, r)
        | r => (false, r)
      match digitsOf r with
      | ([], _) => none
      | (ds, r) => some (if negative then -(natOf ds : Int) else natOf ds, r)
    else none
  | [] => none

def whole? : List Char → Option (List Char × List Char)
  | '0' :: r => some (['0'], r)
  | s =>
    match digitsOf s with
    | ([], _) => none
    | found => some found

/-- A number: whole ones keep their digits, others are shown as the nearest binary fraction. -/
def number? (s : List Char) : Option (String × List Char) := do
  let (negative, s) := match s with
    | '-' :: r => (true, r)
    | s => (false, s)
  let (ds, s) ← whole? s
  let (fs, s) := fraction s
  match power? s, fs with
  | some (e, r), _ => some (Decimal.textOf negative (natOf (ds ++ fs)) (e - fs.length), r)
  | none, [] =>
    let sign := if negative && ds != ['0'] then "-" else ""
    some (sign ++ String.ofList ds, s)
  | none, _ => some (Decimal.textOf negative (natOf (ds ++ fs)) (-(fs.length : Int)), s)

/-- The values that are written as a word. -/
def words : List (String × Value) :=
  [("null", .null), ("true", .bool true), ("false", .bool false), ("NaN", .number "nan"),
   ("Infinity", .number "inf"), ("-Infinity", .number "-inf")]

def word? (s : List Char) : Option (Value × List Char) :=
  words.findSome? fun (w, v) => (after? w.toList s).map fun r => (v, r)

mutual

/-- A value at the start of a text. The fuel bounds the nesting. -/
def readValue : Nat → List Char → Except Fault (Value × List Char)
  | 0, s => fail .value s.length
  | fuel + 1, s =>
    match s with
    | '"' :: r => (readString r).map fun (t, r) => (.string t, r)
    | '\x7b' :: r =>
      match skip r with
      | '\x7d' :: r => .ok (.object [], r)
      | r => readEntries fuel [] r
    | '[' :: r =>
      match skip r with
      | ']' :: r => .ok (.array [], r)
      | r => readItems fuel r
    | s =>
      match (word? s).orElse fun _ => (number? s).map fun (t, r) => (.number t, r) with
      | some found => .ok found
      | none => fail .value s.length

/-- The items of an array from one on. -/
def readItems : Nat → List Char → Except Fault (Value × List Char)
  | 0, s => fail .value s.length
  | fuel + 1, s => do
    let (v, r) ← readValue fuel s
    match skip r with
    | ']' :: r => return (.array [v], r)
    | ',' :: r =>
      match ← readItems fuel (skip r) with
      | (.array vs, r) => return (.array (v :: vs), r)
      | other => return other
    | r => fail .comma r.length

/-- The entries of an object from one on, behind those already read. -/
def readEntries : Nat → List (String × Value) → List Char → Except Fault (Value × List Char)
  | 0, _, s => fail .propertyName s.length
  | fuel + 1, done, s => do
    match s with
    | '"' :: r =>
      let (k, r) ← readString r
      match skip r with
      | ':' :: r =>
        let (v, r) ← readValue fuel (skip r)
        match skip r with
        | '\x7d' :: r => return (.object (Entries.put k v done), r)
        | ',' :: r => readEntries fuel (Entries.put k v done) (skip r)
        | r => fail .comma r.length
      | r => fail .colon r.length
    | s => fail .propertyName s.length

end

def document (s : List Char) : Except Fault Value := do
  match s with
  | '\ufeff' :: _ => fail .byteOrderMark s.length
  | s =>
    let (v, r) ← readValue (2 * s.length + 2) (skip s)
    match skip r with
    | [] => return v
    | r => fail .extraData r.length

/-- Reason, line, column and place of a fault in a text. -/
def Fault.message (f : Fault) (s : List Char) : String :=
  let before := s.take (s.length - f.left)
  let line := before.count '\n' + 1
  let column := (before.reverse.takeWhile (· != '\n')).length + 1
  f.reason.text ++ ": line " ++ toString line ++ " column " ++ toString column ++ " (char "
    ++ toString before.length ++ ")"

def read (text : String) : Except String Value :=
  (document text.toList).mapError (·.message text.toList)

end Scaffold.Json
