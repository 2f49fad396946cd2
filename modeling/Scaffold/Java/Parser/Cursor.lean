import Scaffold.Java.Token

/-! Reading tokens: a cursor, the ways in which reading fails, and reading on trial. -/

namespace Scaffold.Java.Parser

/-- Why tokens form no source: one does not fit, the end comes where a clause goes on, or it comes
right behind an expression. -/
inductive Fault where
  | unexpected
  | cutShort
  | cutInExpression
  deriving DecidableEq

/-- The tokens ahead, the place to which the trial under way goes back, and the enums met so far. -/
structure Cursor where
  ahead : List Token
  anchor : List Token
  enums : List String := []

abbrev Parse (α : Type) := ExceptT Fault (StateM Cursor) α

def fail {α : Type} : Parse α := throw .unexpected

def look (i : Nat := 0) : Parse (Option Token) := do return (← get).ahead[i]?

/-- Whether the token at some distance has the given text. -/
def sees (text : String) (i : Nat := 0) : Parse Bool := do return (← look i).any (·.text == text)

def seesAny (texts : List String) : Parse Bool := do
  return (← look).any fun t => texts.contains t.text

def seesKind (kind : TokenKind) (i : Nat := 0) : Parse Bool := do
  return (← look i).any (·.kind == kind)

/-- An identifier followed by a given token. -/
def seesNamed (text : String) : Parse Bool := do
  return (← seesKind .identifier) && (← sees text 1)

def atEnd : Parse Bool := do return (← get).ahead.isEmpty

def next : Parse Token := do
  let c ← get
  match c.ahead with
  | [] => throw .cutShort
  | t :: r =>
    set { c with ahead := r }
    return t

def expect (text : String) : Parse Unit := do
  if (← next).text != text then fail

def expectKind (kind : TokenKind) : Parse String := do
  let t ← next
  if t.kind == kind then return t.text else fail

def identifier : Parse String := expectKind .identifier

/-- Passes a token with the given text, if it comes next. -/
def accept (text : String) : Parse Bool := do
  if ← sees text then
    let _ ← next
    return true
  else return false

/-- Passes two tokens with the given texts, if they come next. -/
def acceptPair (first second : String) : Parse Bool := do
  if (← sees first) && (← sees second 1) then
    let _ ← next
    let _ ← next
    return true
  else return false

/-- Reads on trial. A trial that finds an unexpected token is undone and leaves nothing. The trial
around one that succeeds goes back no further than to where the inner one began. -/
def attempt {α : Type} (p : Parse α) : Parse (Option α) := fun c =>
  match p { c with anchor := c.ahead } with
  | (.error .unexpected, d) => (.ok none, { c with ahead := d.anchor })
  | (.error e, d) => (.error e, d)
  | (.ok a, d) => (.ok (some a), d)

/-- Repeats until nothing is found. The fuel is the number of tokens ahead. -/
def repeatFrom {α : Type} (p : Parse (Option α)) : Nat → Parse (List α)
  | 0 => return []
  | n + 1 => do
    match ← p with
    | some a => return a :: (← repeatFrom p n)
    | none => return []

def repeatWhile {α : Type} (p : Parse (Option α)) : Parse (List α) := do
  repeatFrom p ((← get).ahead.length + 1)

/-- One or more, with a separator between them. -/
def separated {α : Type} (separator : String) (p : Parse α) : Parse (List α) := do
  let first ← p
  let rest ← repeatWhile do if ← accept separator then return some (← p) else return none
  return first :: rest

/-- Everything up to a closing token, which is passed. -/
def upTo {α : Type} (closing : String) (p : Parse α) : Parse (List α) := do
  let found ← repeatWhile do if ← sees closing then return none else return some (← p)
  expect closing
  return found

def qualifiedName : Parse (List String) := separated "." identifier

end Scaffold.Java.Parser
