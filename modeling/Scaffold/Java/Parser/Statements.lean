import Scaffold.Java.Parser.Expressions

/-! Readers of statements. Nothing of a statement is kept but the enums declared in it. -/

namespace Scaffold.Java.Parser

/-- What the tokens in front of a block statement say about it. -/
inductive Opening where
  | typeDeclaration
  | variable
  | statement
  | unclear
  deriving DecidableEq

/-- Behind the parenthesis that closes `depth` open ones. -/
def afterParentheses : Nat → List Token → List Token
  | _, [] => []
  | depth, t :: r =>
    if t.text == "(" then afterParentheses (depth + 1) r
    else if t.text == ")" then if depth ≤ 1 then r else afterParentheses (depth - 1) r
    else afterParentheses depth r

def afterDotted : List Token → List Token
  | dot :: name :: r => if dot.text == "." then afterDotted r else dot :: name :: r
  | ts => ts

/-- Behind the name and the elements of an annotation. -/
def afterAnnot (ts : List Token) : List Token :=
  match afterDotted ts with
  | t :: r => if t.text == "(" then afterParentheses 1 r else t :: r
  | [] => []

/-- Judges by the first token that is neither `final` nor part of an annotation. -/
def openingOf (annotated : Bool) : List Token → Opening
  | [] => if annotated then .variable else .statement
  | t :: _ =>
    if ["class", "enum", "interface", "@"].contains t.text then .typeDeclaration
    else if annotated || t.kind == .basicType then .variable
    else if t.kind == .identifier then .unclear
    else .statement

def opening (annotated : Bool) : Nat → List Token → Opening
  | 0, ts => openingOf annotated ts
  | fuel + 1, ts =>
    match ts with
    | t :: u :: r =>
      if t.kind == .modifier then
        if t.text == "final" then opening annotated fuel (u :: r) else .typeDeclaration
      else if t.kind == .at && u.text != "interface" then opening true fuel (afterAnnot r)
      else openingOf annotated ts
    | ts => openingOf annotated ts

namespace Grammar

/-- What may stand behind the name of a variable: dimensions and a value. -/
def variableRest (g : Grammar) : Parse Unit := do
  let _ ← dimensions
  if ← accept "=" then g.initialValue

def declarator (g : Grammar) : Parse String := do
  let name ← identifier
  g.variableRest
  return name

def localVariables (g : Grammar) : Parse Unit := do
  g.variableMarks
  let _ ← g.type
  let _ ← separated "," g.declarator
  expect ";"

def expressions (g : Grammar) : Parse Unit := do
  let _ ← separated "," g.expression

/-- The condition and the update of a loop, behind its first semicolon. -/
def forRest (g : Grammar) : Parse Unit := do
  if !(← sees ";") then
    let _ ← g.expression
  expect ";"
  if !(← sees ")") then g.expressions

/-- A loop over declared variables, or over the elements of a value. -/
def forVariables (g : Grammar) : Parse Unit := do
  g.variableMarks
  let _ ← g.type
  let _ ← identifier
  let _ ← dimensions
  if ← accept ":" then
    let _ ← g.expression
  else
    if !(← sees ";") then
      if ← accept "=" then g.initialValue
      let _ ← repeatWhile do if ← accept "," then return some (← g.declarator) else return none
    expect ";"
    g.forRest

def forControl (g : Grammar) : Parse Unit := do
  if let some _ ← attempt g.forVariables then return
  if !(← sees ";") then g.expressions
  expect ";"
  g.forRest

def caseLabel (g : Grammar) : Parse Unit := do
  let t ← next
  if t.text == "case" then
    if ← seesNamed ":" then
      let _ ← next
    else
      let _ ← g.expression
  else if t.text != "default" then fail
  expect ":"

def catchClause (g : Grammar) : Parse Unit := do
  expect "catch"
  expect "("
  g.variableMarks
  let _ ← separated "|" qualifiedName
  let _ ← identifier
  expect ")"
  g.block

def catchClauses (g : Grammar) : Parse Bool := do
  let found ← repeatWhile do if ← sees "catch" then return some (← g.catchClause) else return none
  return !found.isEmpty

def finallyClause (g : Grammar) : Parse Bool := do
  if ← accept "finally" then
    g.block
    return true
  else return false

def resource (g : Grammar) : Parse Unit := do
  g.variableMarks
  let _ ← g.path
  let _ ← dimensions
  let _ ← identifier
  let _ ← dimensions
  expect "="
  let _ ← g.expression

def resources (g : Grammar) : Parse Unit := do
  expect "("
  g.resource
  let _ ← repeatWhile do
    if (← sees ";") && !(← sees ")" 1) then
      expect ";"
      return some (← g.resource)
    else return none
  let _ ← accept ";"
  expect ")"

/-- Without resources something has to follow the block. -/
def tryRest (g : Grammar) : Parse Unit := do
  if ← sees "\x7b" then
    g.block
    let caught ← g.catchClauses
    let finished ← g.finallyClause
    if !caught && !finished then fail
  else
    g.resources
    g.block
    let _ ← g.catchClauses
    let _ ← g.finallyClause

/-- Something that may name a label, up to the semicolon. -/
def jump : Parse Unit := do
  if ← seesKind .identifier then
    let _ ← next
  expect ";"

def blockStatement (g : Grammar) : Parse Unit := do
  if (← seesNamed ":") || (← sees "synchronized") then g.statement
  else
    let ahead := (← get).ahead
    match opening false ahead.length ahead with
    | .typeDeclaration =>
      let _ ← g.declaration
    | .variable => g.localVariables
    | .statement => g.statement
    | .unclear => if (← attempt g.localVariables).isNone then g.statement

/-- The labels of a group, and the statements behind them. -/
def switchGroup (g : Grammar) : Parse Unit := do
  g.caseLabel
  let _ ← repeatWhile do
    if ← seesAny ["case", "default"] then return some (← g.caseLabel) else return none
  let _ ← repeatWhile do
    if ← seesAny ["case", "default", "\x7d"] then return none else return some (← g.blockStatement)

def switchRest (g : Grammar) : Parse Unit := do
  let _ ← g.parenthesized
  expect "\x7b"
  let _ ← repeatWhile do
    if ← seesAny ["case", "default"] then return some (← g.switchGroup) else return none
  expect "\x7d"

def readBlock (g : Grammar) : Parse Unit := do
  expect "\x7b"
  let _ ← upTo "\x7d" g.blockStatement

def valueThen (g : Grammar) (closing : String) : Parse Unit := do
  let _ ← g.expression
  expect closing

def readStatement (g : Grammar) : Parse Unit := do
  if ← sees "\x7b" then g.block
  else if ← accept ";" then return
  else if ← seesNamed ":" then
    let _ ← next
    expect ":"
    g.statement
  else if ← accept "if" then
    let _ ← g.parenthesized
    g.statement
    if ← accept "else" then g.statement
  else if ← accept "assert" then
    let _ ← g.expression
    if ← accept ":" then
      let _ ← g.expression
    expect ";"
  else if ← accept "switch" then g.switchRest
  else if ← accept "while" then
    let _ ← g.parenthesized
    g.statement
  else if ← accept "do" then
    g.statement
    expect "while"
    let _ ← g.parenthesized
    expect ";"
  else if ← accept "for" then
    expect "("
    g.forControl
    expect ")"
    g.statement
  else if ← accept "break" then jump
  else if ← accept "continue" then jump
  else if ← accept "return" then
    if ← sees ";" then expect ";" else g.valueThen ";"
  else if ← accept "throw" then g.valueThen ";"
  else if ← accept "synchronized" then
    let _ ← g.parenthesized
    g.block
  else if ← accept "try" then g.tryRest
  else g.valueThen ";"

end Grammar

end Scaffold.Java.Parser
