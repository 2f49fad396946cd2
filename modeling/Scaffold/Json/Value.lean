import Scaffold.Text.Quoted
import Scaffold.Text.Lines

/-! JSON values and their written form, two spaces for each level. -/

namespace Scaffold.Json

open Scaffold.Text

/-- A value. A number is kept as the text that shows it. -/
inductive Value where
  | null
  | bool (b : Bool)
  | number (text : String)
  | string (text : String)
  | array (items : List Value)
  | object (entries : List (String × Value))

/-- Whether characters from U+0080 up are written as they are. -/
inductive Charset where
  | ascii | unicode
  deriving DecidableEq

/-- An escape of one code unit. -/
def unit (n : Nat) : List Char := '\\' :: 'u' :: hexDigits 4 n

/-- A character by its code units: two of them from U+10000 up. -/
def units (c : Char) : List Char :=
  let n := c.toNat
  if n < 0x10000 then unit n
  else unit (0xd800 + (n - 0x10000) / 0x400) ++ unit (0xdc00 + (n - 0x10000) % 0x400)

def escape (charset : Charset) (c : Char) : List Char :=
  if c == '"' then ['\\', '"']
  else if c == '\\' then ['\\', '\\']
  else if c == '\n' then ['\\', 'n']
  else if c == '\r' then ['\\', 'r']
  else if c == '\t' then ['\\', 't']
  else if c == '\x08' then ['\\', 'b']
  else if c == '\x0c' then ['\\', 'f']
  else if c.toNat < 0x20 then unit c.toNat
  else if 0x80 ≤ c.toNat && charset == .ascii then units c
  else [c]

def stringText (charset : Charset) (s : String) : String :=
  String.ofList ('"' :: s.toList.flatMap (escape charset) ++ ['"'])

def margin (depth : Nat) : String := "\n" ++ spaces (2 * depth)

/-- Written items between brackets, one a line. -/
def bracketed (opening closing : String) (depth : Nat) (items : List String) : String :=
  match items with
  | [] => opening ++ closing
  | _ =>
    opening ++ margin (depth + 1) ++ ("," ++ margin (depth + 1)).intercalate items ++ margin depth
      ++ closing

mutual

def Value.write (depth : Nat) : Value → String
  | .null => "null"
  | .bool b => if b then "true" else "false"
  | .number text => text
  | .string text => stringText .unicode text
  | .array items => bracketed "[" "]" depth (writeItems (depth + 1) items)
  | .object entries => bracketed "\x7b" "\x7d" depth (writeEntries (depth + 1) entries)

def writeItems (depth : Nat) : List Value → List String
  | [] => []
  | v :: r => v.write depth :: writeItems depth r

def writeEntries (depth : Nat) : List (String × Value) → List String
  | [] => []
  | (k, v) :: r => (stringText .unicode k ++ ": " ++ v.write depth) :: writeEntries depth r

end

end Scaffold.Json
