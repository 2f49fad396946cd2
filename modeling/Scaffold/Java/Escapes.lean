import Scaffold.Text.Letters
import Scaffold.Text.Lines
import Scaffold.Json.Reader

/-! Unicode escapes in a source: a backslash, some `u` and four hexadecimal digits stand for a code
unit, wherever they are. -/

namespace Scaffold.Java.Escapes

open Scaffold.Text

/-- The value of a hexadecimal digit; decimal digits of every script count. -/
def digit? (c : Char) : Option Nat := (Json.hexValue? c).orElse fun _ => decimal? c

/-- Digits, single low lines between them allowed. -/
def digits? : Nat → List Char → Option Nat
  | n, [c] => (digit? c).map (16 * n + ·)
  | n, c :: '_' :: r => do digits? (16 * n + (← digit? c)) r
  | n, c :: r => do digits? (16 * n + (← digit? c)) r
  | _, [] => none

def unsigned? : List Char → Option Nat
  | '0' :: x :: r =>
    if x == 'x' || x == 'X' then digits? 0 (match r with | '_' :: r => r | r => r)
    else digits? 0 ('0' :: x :: r)
  | s => digits? 0 s

/-- The code unit that the characters behind the `u` name. Blanks around the digits, a plus sign and
the mark of a hexadecimal number are let pass. -/
def codeUnit? (s : List Char) : Option Nat :=
  match trimChars s with
  | '+' :: r => unsigned? r
  | s => unsigned? s

/-- Code units as characters: a pair becomes one, half a pair the replacement character. -/
def assemble : List Nat → List Char
  | [] => []
  | [n] => [Json.ofUnit n]
  | n :: m :: r =>
    match Json.joined? n m with
    | some c => c :: assemble r
    | none => Json.ofUnit n :: assemble (m :: r)

/-- The code units of a source, and the characters of the first escape that names none. `stretch`
holds what was read since the last escape, last character first. -/
def unitsFrom : Nat → List Nat → List Char → Except (List Char) (List Nat)
  | 0, stretch, _ => .ok stretch.reverse
  | _, stretch, [] => .ok stretch.reverse
  | fuel + 1, stretch, '\\' :: 'u' :: r =>
    match r.dropWhile (· == 'u') with
    | [] => .ok (stretch.reverse ++ stretch.reverse ++ ('\\' :: 'u' :: r).map Char.toNat)
    | s =>
      match codeUnit? (s.take 4) with
      | none => .error (s.take 4)
      | some n => do return stretch.reverse ++ n :: (← unitsFrom fuel [] (s.drop 4))
  | fuel + 1, stretch, '\\' :: c :: r => unitsFrom fuel (c.toNat :: 92 :: stretch) r
  | fuel + 1, stretch, c :: r => unitsFrom fuel (c.toNat :: stretch) r

/-- A source with its unicode escapes replaced, or the characters of one that is none. -/
def decode (source : List Char) : Except (List Char) (List Char) :=
  if source.contains '\\' then (unitsFrom (source.length + 1) [] source).map assemble else .ok source

end Scaffold.Java.Escapes
