import Scaffold.Text.Blank
import Scaffold.Text.Table.Category
import Scaffold.Text.Table.Case
import Scaffold.Text.Table.Printable

/-! Character classes and letter case. Below U+0080 each class is written out; above it comes from
the tables of Unicode 14. -/

namespace Scaffold.Text

/-- Whether `n` is met by counting from `first` to `last` in steps. -/
def onStretch : Nat × Nat × Nat → Nat → Bool
  | (first, last, step), n => first ≤ n && n ≤ last && (n - first) % step == 0

def isUpper (c : Char) : Bool :=
  if c.toNat < 128 then 'A' ≤ c && c ≤ 'Z' else Table.uppercase.any (onStretch · c.toNat)

def isLower (c : Char) : Bool :=
  if c.toNat < 128 then 'a' ≤ c && c ≤ 'z' else Table.lowercase.any (onStretch · c.toNat)

def isAsciiDigit (c : Char) : Bool := '0' ≤ c && c ≤ '9'

/-- Characters with a digit value, superscripts and the like included. -/
def isDigit (c : Char) : Bool :=
  if c.toNat < 128 then isAsciiDigit c else within Table.digits c.toNat

/-- The value of a decimal digit of any script. -/
def decimal? (c : Char) : Option Nat :=
  if c.toNat < 128 then
    if isAsciiDigit c then some (c.toNat - 48) else none
  else
    (Table.decimals.find? fun (first, last) => first ≤ c.toNat && c.toNat ≤ last).map
      fun (first, _) => (c.toNat - first) % 10

def isDecimal (c : Char) : Bool := (decimal? c).isSome

def isAsciiLetter (c : Char) : Bool := ('A' ≤ c && c ≤ 'Z') || ('a' ≤ c && c ≤ 'z')

/-- Letters, numbers of every kind and the low line. -/
def isWord (c : Char) : Bool :=
  if c.toNat < 128 then isAsciiLetter c || isAsciiDigit c || c == '_'
  else within Table.letters c.toNat || within Table.numbers c.toNat

def isPrintable (c : Char) : Bool :=
  if c.toNat < 128 then ' ' ≤ c && c ≤ '~' else within Table.printable c.toNat

def lowerChar (c : Char) : Char :=
  if c.toNat < 128 then
    if isUpper c then Char.ofNat (c.toNat + 32) else c
  else
    match Table.toLowercase.find? fun (first, last, step, _) => onStretch (first, last, step) c.toNat with
    | some (first, _, _, image) => Char.ofNat (c.toNat - first + image)
    | none => c

def upperChar (c : Char) : Char :=
  if c.toNat < 128 then
    if isLower c then Char.ofNat (c.toNat - 32) else c
  else
    match Table.toUppercase.find? fun (first, last, step, _) => onStretch (first, last, step) c.toNat with
    | some (first, _, _, image) => Char.ofNat (c.toNat - first + image)
    | none => c

/-- The uppercase form of one character, which may have several characters. -/
def upperForm (c : Char) : List Char :=
  match Table.toUppercaseMany.find? (·.1 == c.toNat) with
  | some (_, image) => image.map Char.ofNat
  | none => [upperChar c]

def isCased (c : Char) : Bool :=
  if c.toNat < 128 then isAsciiLetter c else within Table.cased c.toNat

def isCaseIgnorable (c : Char) : Bool :=
  if c.toNat < 128 then c == '\'' || c == '.' || c == ':' || c == '^' || c.toNat == 96
  else within Table.caseIgnorable c.toNat

/-- Whether the next character that counts for case is a cased one. -/
def meetsCased (s : List Char) : Bool :=
  match s.dropWhile isCaseIgnorable with
  | c :: _ => isCased c
  | [] => false

/-- The lowercase form of one character between the characters before it, nearest first, and those
after it: a sigma that ends a word has its own form, and `İ` keeps its dot. -/
def lowerForm (before : List Char) (c : Char) (after : List Char) : List Char :=
  if c == 'Σ' then [if meetsCased before && !meetsCased after then 'ς' else 'σ']
  else if c == 'İ' then ['i', '\u0307']
  else [lowerChar c]

def lowerFrom (before : List Char) : List Char → List Char
  | [] => []
  | c :: r => lowerForm before c r ++ lowerFrom (c :: before) r

def lowerChars (s : List Char) : List Char := lowerFrom [] s

def lower (s : String) : String := String.ofList (lowerChars s.toList)

end Scaffold.Text
