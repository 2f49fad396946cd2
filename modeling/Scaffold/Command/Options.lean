import Scaffold.Text.Letters
import Scaffold.Text.Lines

/-! Words of a command line as options and operands. -/

namespace Scaffold.Command

open Scaffold.Text

inductive OptionKey where
  | help | verbose | root | dryRun
  deriving DecidableEq, Inhabited

/-- Options by all their names. No option with one dash takes a value. -/
abbrev Options := List (String × OptionKey)

def OptionKey.takesValue (k : OptionKey) : Bool := k == .root

/-- A text that is attached to the name of an option, with or without an equals sign between. -/
structure Attached where
  text : List Char
  marked : Bool
  deriving DecidableEq

inductive Word where
  | plain
  | divider
  | option (key : OptionKey) (name : String) (attached : Option Attached)
  | unknown
  deriving DecidableEq

def opensLong (name : String) : Bool := startsWith name "--"

/-- The parts of a word around its first equals sign. -/
def splitMark (word : List Char) : List Char × Option Attached :=
  match word.dropWhile (· != '=') with
  | [] => (word, none)
  | _ :: r => (word.takeWhile (· != '='), some ⟨r, true⟩)

/-- Options that a word with two dashes can stand for: those whose names it begins. -/
def longCandidates (options : Options) (word : List Char) : List Word :=
  let (name, attached) := splitMark word
  (options.filter fun o => startsWith o.1 (String.ofList name)).map fun (n, k) => .option k n attached

/-- Options that a word with one dash can stand for: one character long, with more behind it, or those
whose names it begins. -/
def shortCandidates (options : Options) (word : List Char) : List Word :=
  options.filterMap fun (n, k) =>
    if n.toList == word.take 2 then some (.option k n (some ⟨word.drop 2, false⟩))
    else if startsWith n (String.ofList word) then some (.option k n none)
    else none

def isNumber (s : List Char) : Bool :=
  let whole := s.dropWhile isDecimal
  (whole.isEmpty && !s.isEmpty) ||
    match whole with
    | '.' :: r => !r.isEmpty && r.all isDecimal
    | _ => false

/-- What a word with a dash is that is no option: negative numbers and words with a space stand for
themselves. -/
def otherWord (word : List Char) : Word :=
  if isNumber (word.drop 1) || word.contains ' ' then .plain else .unknown

/-- What a word is; nothing, if it can be more than one option. -/
def classify? (options : Options) (word : String) : Option Word :=
  match word.toList with
  | '-' :: c :: r =>
    let chars := '-' :: c :: r
    let (name, attached) := splitMark chars
    match options.lookup word, (attached.isSome, options.lookup (String.ofList name)) with
    | some k, _ => some (.option k word none)
    | none, (true, some k) => some (.option k (String.ofList name) attached)
    | none, _ =>
      match if c == '-' then longCandidates options chars else shortCandidates options chars with
      | [] => some (otherWord chars)
      | [w] => some w
      | _ => none
  | _ => some .plain

/-- Words with what they are. Behind a divider all are plain. -/
def classifyAll? (options : Options) : List String → Option (List (String × Word))
  | [] => some []
  | word :: r =>
    if word == "--" then some ((word, .divider) :: r.map fun w => (w, .plain))
    else do return (word, ← classify? options word) :: (← classifyAll? options r)

/-- Options with one dash that share a word, and whether the word ends with something that is none. -/
def cluster? (options : Options) : OptionKey → List Char → Option (List OptionKey × Bool)
  | _, [] => none
  | key, c :: r =>
    if c == '-' then none
    else
      match options.lookup (String.ofList ['-', c]) with
      | none => some ([key], true)
      | some next =>
        match r with
        | [] => some ([key, next], false)
        | '=' :: _ => none
        | r => (cluster? options next r).map fun (keys, stray) => (key :: keys, stray)

end Scaffold.Command
