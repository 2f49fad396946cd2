import Scaffold.Text.Lines
import Scaffold.Text.Quoted

/-! Texts as bytes in UTF-8, and the faults of bytes that are none. -/

namespace Scaffold.Text.Utf8

def encode (s : String) : List UInt8 := s.toList.flatMap String.utf8EncodeChar

inductive Reason where
  | badStart | badContinuation | cut
  deriving DecidableEq

def Reason.text : Reason → String
  | .badStart => "invalid start byte"
  | .badContinuation => "invalid continuation byte"
  | .cut => "unexpected end of data"

/-- What a stretch of bytes stands for: a character, or a fault that spans some bytes, the first of
them given. -/
inductive Piece where
  | char (c : Char)
  | fault (reason : Reason) (first length : Nat)
  deriving DecidableEq

/-- A character under way: its first byte, the bits so far, how many bytes are read and missing, and
the bounds of the next byte. -/
structure Partial where
  first : Nat
  value : Nat
  taken : Nat
  missing : Nat
  low : Nat
  high : Nat

def opened (b value missing low high : Nat) : Sum Piece Partial :=
  .inr { first := b, value, taken := 1, missing, low, high }

/-- The first byte of a character. Its bounds for the second byte rule out overlong forms, surrogates
and numbers past the last character. -/
def start (b : Nat) : Sum Piece Partial :=
  if b < 0x80 then .inl (.char (Char.ofNat b))
  else if b < 0xc2 then .inl (.fault .badStart b 1)
  else if b < 0xe0 then opened b (b - 0xc0) 1 0x80 0xbf
  else if b = 0xe0 then opened b 0 2 0xa0 0xbf
  else if b = 0xed then opened b (b - 0xe0) 2 0x80 0x9f
  else if b < 0xf0 then opened b (b - 0xe0) 2 0x80 0xbf
  else if b = 0xf0 then opened b 0 3 0x90 0xbf
  else if b < 0xf4 then opened b (b - 0xf0) 3 0x80 0xbf
  else if b = 0xf4 then opened b (b - 0xf0) 3 0x80 0x8f
  else .inl (.fault .badStart b 1)

def piecesFrom : Option Partial → List UInt8 → List Piece
  | none, [] => []
  | some p, [] => [.fault .cut p.first p.taken]
  | none, b :: r =>
    match start b.toNat with
    | .inl piece => piece :: piecesFrom none r
    | .inr p => piecesFrom (some p) r
  | some p, b :: r =>
    let n := b.toNat
    if p.low ≤ n && n ≤ p.high then
      let value := p.value * 64 + (n - 0x80)
      if p.missing ≤ 1 then .char (Char.ofNat value) :: piecesFrom none r
      else
        let q : Partial :=
          { p with value, taken := p.taken + 1, missing := p.missing - 1, low := 0x80, high := 0xbf }
        piecesFrom (some q) r
    else
      .fault .badContinuation p.first p.taken ::
        match start n with
        | .inl piece => piece :: piecesFrom none r
        | .inr q => piecesFrom (some q) r

def pieces (bytes : List UInt8) : List Piece := piecesFrom none bytes

def Piece.lossy : Piece → Char
  | .char c => c
  | .fault .. => '\ufffd'

/-- Every fault becomes one replacement character. -/
def decodeLossy (bytes : List UInt8) : String :=
  String.ofList ((pieces bytes).map Piece.lossy)

/-- A text as readers see it: faults replaced, and every line end one line feed. -/
def readText (bytes : List UInt8) : String :=
  String.ofList (newlinesToLf ((pieces bytes).map Piece.lossy))

/-- The place and extent of the first fault. -/
structure Fault where
  reason : Reason
  first : Nat
  position : Nat
  length : Nat
  deriving DecidableEq

def firstFault? (position : Nat) : List Piece → Option Fault
  | [] => none
  | .char c :: r => firstFault? (position + c.utf8Size) r
  | .fault reason first length :: _ => some { reason, first, position, length }

def Fault.message (f : Fault) : String :=
  if f.length == 1 then
    "'utf-8' codec can't decode byte 0x" ++ hex 2 f.first ++ " in position "
      ++ toString f.position ++ ": " ++ f.reason.text
  else
    "'utf-8' codec can't decode bytes in position " ++ toString f.position ++ "-"
      ++ toString (f.position + f.length - 1) ++ ": " ++ f.reason.text

/-- The text of bytes without faults, every line end one line feed. -/
def readStrict (bytes : List UInt8) : Except Fault String :=
  match firstFault? 0 (pieces bytes) with
  | some f => .error f
  | none => .ok (readText bytes)

end Scaffold.Text.Utf8
