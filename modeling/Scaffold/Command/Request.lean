import Scaffold.Command.Options

/-! Command lines as requests. -/

namespace Scaffold.Command

/-- What a command line asks for. -/
inductive Request where
  | generate (entityFile : String) (root : Option String) (dryRun : Bool)
  | annotate (entityFile : String) (dryRun : Bool)
  | initSettings (root : Option String)
  deriving DecidableEq, Inhabited

/-- Why there is no request: help is wanted, or the words make none. -/
inductive Refusal where
  | help | misuse
  deriving DecidableEq, Inhabited

/-- What has been read: values of options, an operand, and whether a word was left over. -/
structure Reading where
  root : Option String := none
  dryRun : Bool := false
  operand : Option String := none
  stray : Bool := false

def Reading.take (r : Reading) : OptionKey → Except Refusal Reading
  | .help => .error .help
  | .verbose => .ok r
  | .root => .ok r
  | .dryRun => .ok { r with dryRun := true }

def Reading.takeAll (r : Reading) (keys : List OptionKey) : Except Refusal Reading :=
  keys.foldlM Reading.take r

/-- An option that takes no value, with what is attached to its name. -/
def Reading.flag (options : Options) (r : Reading) (key : OptionKey) (name : String) :
    Option Attached → Except Refusal Reading
  | none => r.take key
  | some a =>
    if opensLong name || a.marked then .error .misuse
    else
      match cluster? options key a.text with
      | none => .error .misuse
      | some (keys, stray) => do
        let r ← r.takeAll keys
        return { r with stray := r.stray || stray }

/-- Reads the words behind a command. `wanted` says whether it has an operand. A divider counts for
nothing right before and right behind the operand. -/
def readWords (options : Options) (wanted : Bool) :
    Reading → List (String × Word) → Except Refusal Reading
  | r, [] => .ok r
  | r, (text, .plain) :: rest =>
    if wanted && r.operand.isNone then
      match rest with
      | (_, .divider) :: more =>
        readWords options wanted { r with operand := some text } more
      | rest => readWords options wanted { r with operand := some text } rest
    else readWords options wanted { r with stray := true } rest
  | r, (_, .divider) :: rest =>
    if wanted && r.operand.isNone then readWords options wanted r rest
    else readWords options wanted { r with stray := true } rest
  | r, (_, .unknown) :: rest => readWords options wanted { r with stray := true } rest
  | r, (_, .option key name attached) :: rest =>
    if key.takesValue then
      match attached, rest with
      | some a, rest => readWords options wanted { r with root := some (String.ofList a.text) } rest
      | none, (text, .plain) :: rest => readWords options wanted { r with root := some text } rest
      | none, _ => .error .misuse
    else
      match r.flag options key name attached with
      | .error e => .error e
      | .ok r => readWords options wanted r rest

def helpOptions : Options := [("-h", .help), ("--help", .help)]

def verboseOptions : Options := [("--verbose", .verbose), ("-v", .verbose)]

def mainOptions : Options := helpOptions ++ verboseOptions

/-- The words behind a command. -/
def readCommand (options : Options) (wanted : Bool) (words : List String) :
    Except Refusal Reading := do
  match classifyAll? options words with
  | none => throw .misuse
  | some words =>
    let r ← readWords options wanted {} words
    if r.stray || (wanted && r.operand.isNone) then throw .misuse
    return r

def requestOf (command : String) (words : List String) : Except Refusal Request :=
  match command with
  | "generate" => do
    let options := helpOptions ++ [("--root", .root), ("--dry-run", .dryRun)] ++ verboseOptions
    let r ← readCommand options true words
    return .generate (r.operand.getD "") r.root r.dryRun
  | "annotate" => do
    let r ← readCommand (helpOptions ++ [("--dry-run", .dryRun)]) true words
    return .annotate (r.operand.getD "") r.dryRun
  | "init-config" => do
    let r ← readCommand (helpOptions ++ [("--root", .root)]) false words
    return .initSettings r.root
  | _ => .error .misuse

/-- The options in front of a command, then the command. -/
def readMain : Reading → List (String × Word) → Except Refusal Request
  | _, [] => .error .misuse
  | r, (command, .plain) :: rest => do
    let request ← requestOf command (rest.map (·.1))
    if r.stray then throw .misuse
    return request
  | _, (_, .divider) :: _ => .error .misuse
  | r, (_, .unknown) :: rest => readMain { r with stray := true } rest
  | r, (_, .option key name attached) :: rest =>
    match r.flag mainOptions key name attached with
    | .error e => .error e
    | .ok r => readMain r rest

/-- The request of a command line. -/
def Request.of (words : List String) : Except Refusal Request :=
  match classifyAll? mainOptions words with
  | none => .error .misuse
  | some words => readMain {} words

end Scaffold.Command
