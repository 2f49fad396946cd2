/-! Binary fractions of 53 bits: the one nearest to a decimal number, and the shortest decimal number
that reads back as a given one. -/

namespace Scaffold.Decimal

/-- The positive number `mantissa * 2 ^ exponent`. -/
structure Binary where
  mantissa : Nat
  exponent : Int
  deriving DecidableEq

/-- A positive number `num / den`. -/
structure Ratio where
  num : Nat
  den : Nat

def Ratio.scale (base : Nat) (r : Ratio) (e : Int) : Ratio :=
  if 0 ≤ e then ⟨r.num * base.pow e.toNat, r.den⟩ else ⟨r.num, r.den * base.pow (-e).toNat⟩

/-- The nearest whole number; a half goes to the even neighbour. -/
def Ratio.round (r : Ratio) : Nat :=
  let q := r.num / r.den
  let twice := 2 * (r.num % r.den)
  if twice < r.den then q else if r.den < twice then q + 1 else q + q % 2

def Ratio.le (a b : Ratio) : Bool := a.num * b.den ≤ b.num * a.den

def Ratio.lt (a b : Ratio) : Bool := a.num * b.den < b.num * a.den

/-- The exponent that gives the whole part 53 bits, but no smaller one than the format has. -/
def binaryExponent (r : Ratio) : Int :=
  let guess : Int := (Nat.log2 r.num : Int) - Nat.log2 r.den - 52
  let e := if (r.scale 2 (-guess)).num / (r.scale 2 (-guess)).den < Nat.pow 2 52 then guess - 1 else guess
  max e (-1074)

/-- The nearest binary fraction, none when it is past the largest. -/
def nearest? (r : Ratio) : Option Binary :=
  let e := binaryExponent r
  let m := (r.scale 2 (-e)).round
  let b : Binary := if m = Nat.pow 2 53 then ⟨Nat.pow 2 52, e + 1⟩ else ⟨m, e⟩
  if 971 < b.exponent then none else some b

/-- A quarter of the distance to a neighbour, as the unit for the bounds of rounding. -/
def Binary.quarter (b : Binary) (n : Nat) : Ratio := Ratio.scale 2 ⟨n, 1⟩ (b.exponent - 2)

def Binary.value (b : Binary) : Ratio := b.quarter (4 * b.mantissa)

/-- Whether a number rounds to `b`. Below a power of two the neighbours are closer. -/
def Binary.holds (b : Binary) (r : Ratio) : Bool :=
  let below := if b.mantissa = Nat.pow 2 52 && -1074 < b.exponent then 1 else 2
  let low := b.quarter (4 * b.mantissa - below)
  let high := b.quarter (4 * b.mantissa + 2)
  if b.mantissa % 2 = 0 then low.le r && r.le high else low.lt r && r.lt high

/-- The number of digits before the point, counted below zero after it. -/
def Ratio.point (r : Ratio) : Int :=
  let rec climb : Nat → Int → Int
    | 0, k => k
    | n + 1, k => if (Ratio.scale 10 ⟨1, 1⟩ k).le r then climb n (k + 1) else k
  climb 700 (-330)

/-- Digits and the place of the point before which they stand. -/
structure Digits where
  digits : Nat
  point : Int
  deriving DecidableEq

/-- The nearer of the two neighbours on a decimal grid that round to `b`. -/
def gridHit? (b : Binary) (step : Int) : Option Nat :=
  let onGrid := b.value.scale 10 (-step)
  let low := onGrid.num / onGrid.den
  let hit (n : Nat) : Bool := b.holds (Ratio.scale 10 ⟨n, 1⟩ step)
  match hit low, hit (low + 1) with
  | true, true => some onGrid.round
  | true, false => some low
  | false, true => some (low + 1)
  | false, false => none

def dropZeros : Nat → Nat → Nat
  | 0, n => n
  | fuel + 1, n => if n % 10 = 0 && n ≠ 0 then dropZeros fuel (n / 10) else n

/-- The shortest decimal that rounds to `b`, of several the nearest. -/
def shortest (b : Binary) : Digits :=
  let point := b.value.point
  let hit := (List.range 17).findSome? fun (i : Nat) =>
    (gridHit? b (point - (i + 1 : Nat))).map fun n => (i + 1, n)
  match hit with
  | some (count, n) =>
    ⟨dropZeros 20 n, if n = Nat.pow 10 count then point + 1 else point⟩
  | none => ⟨0, 0⟩

/-- Where a number is written with a power of ten, and how. -/
structure Format where
  lowest : Int
  highest : Int

/-- Plain notation from 0.0001 to below 10 ^ 16. -/
def plain : Format := ⟨-3, 16⟩

def zeros (n : Nat) : String := String.ofList (List.replicate n '0')

def powerText (e : Int) : String :=
  let digits := toString e.natAbs
  (if e < 0 then "e-" else "e+") ++ zeros (2 - digits.length) ++ digits

def Digits.text (f : Format) (d : Digits) : String :=
  let s := toString d.digits
  let count : Int := s.length
  if d.point < f.lowest || f.highest < d.point then
    let tail := s.drop 1
    (s.take 1).toString ++ (if tail.isEmpty then "" else "." ++ tail.toString) ++ powerText (d.point - 1)
  else if d.point ≤ 0 then "0." ++ zeros (-d.point).toNat ++ s
  else if count ≤ d.point then s ++ zeros (d.point - count).toNat ++ ".0"
  else (s.take d.point.toNat).toString ++ "." ++ (s.drop d.point.toNat).toString

/-- The text of the fraction nearest to `digits * 10 ^ exponent`. -/
def textOf (negative : Bool) (digits : Nat) (exponent : Int) : String :=
  let sign := if negative then "-" else ""
  let size : Int := (toString digits).length + exponent
  if digits = 0 || size < -400 then sign ++ "0.0"
  else if 400 < size then sign ++ "inf"
  else
    match nearest? (Ratio.scale 10 ⟨digits, 1⟩ exponent) with
    | none => sign ++ "inf"
    | some b => if b.mantissa = 0 then sign ++ "0.0" else sign ++ (shortest b).text plain

end Scaffold.Decimal
