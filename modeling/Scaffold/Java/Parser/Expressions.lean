import Scaffold.Java.Parser.Annotations

/-! Readers of expressions. The value of an expression is kept as far as annotations need it: literals,
names and binary operations; operators in front of and selectors behind an operand leave it as it is. -/

namespace Scaffold.Java.Parser

def assignments : List String :=
  ["=", "+=", "-=", "*=", "/=", "&=", "|=", "^=", "%=", "<<=", ">>=", ">>>="]

def prefixOperators : List String := ["++", "--", "!", "~", "+", "-"]

def postfixOperators : List String := ["++", "--"]

/-- Binary operators, those that bind least first. -/
def precedence : List (List String) :=
  [["||"], ["&&"], ["|"], ["^"], ["&"], ["==", "!="], ["<", ">", ">=", "<=", "instanceof"],
   ["<<", ">>", ">>>"], ["+", "-"], ["*", "/", "%"]]

/-- Operands behind their operators, cut in front of every operator of one level. -/
def cut (level : List String) : List (String × Value) →
    List (String × Value) × List (String × Value × List (String × Value))
  | [] => ([], [])
  | (operator, v) :: r =>
    let (own, later) := cut level r
    if level.contains operator then ([], (operator, v, own) :: later) else ((operator, v) :: own, later)

/-- A sequence of operands as one value: levels bind one tighter than the other, each from the left. -/
def group : List (List String) → Value → List (String × Value) → Value
  | [], first, _ => first
  | level :: levels, first, rest =>
    let (own, later) := cut level rest
    later.foldl (fun left (operator, v, more) => .binary operator left (group levels v more))
      (group levels first own)

def binaryOperators : List String := precedence.flatten

/-- A right shift is written with two or three tokens. -/
def shift : Parse String := do
  if ← accept ">" then
    if ← accept ">" then return ">>>" else return ">>"
  else return ">"

namespace Grammar

def parenthesized (g : Grammar) : Parse Value := do
  expect "("
  let v ← g.expression
  expect ")"
  return v

def arguments (g : Grammar) : Parse Unit := do
  expect "("
  if ← accept ")" then return
  let _ ← separated "," g.expression
  expect ")"

def parameter (g : Grammar) : Parse Bool := do
  g.variableMarks
  let _ ← g.type
  let variadic ← accept "..."
  let _ ← identifier
  let _ ← dimensions
  return variadic

/-- Parameters up to one that takes any number of arguments. -/
def parametersFrom (g : Grammar) : Nat → Parse Unit
  | 0 => return
  | n + 1 => do
    if ← g.parameter then return
    if ← accept "," then g.parametersFrom n

def parameters (g : Grammar) : Parse Unit := do
  expect "("
  if ← accept ")" then return
  g.parametersFrom (← get).ahead.length
  expect ")"

def lambdaBody (g : Grammar) : Parse Unit := do
  expect "->"
  if ← sees "\x7b" then g.block
  else
    let _ ← g.expression

def lambda (g : Grammar) : Parse Value := do
  if (← sees "(") && (← seesKind .identifier 1) && (← sees "," 2) then
    expect "("
    let _ ← upTo ")" do
      let _ ← identifier
      let _ ← accept ","
  else g.parameters
  g.lambdaBody
  return .other

def cast (g : Grammar) : Parse Value := do
  expect "("
  let _ ← g.type
  expect ")"
  let _ ← g.operand
  return .other

def classCreator (g : Grammar) : Parse Unit := do
  g.arguments
  if ← sees "\x7b" then
    let _ ← g.classBody

/-- Array values in braces, or an expression. -/
def initialValue (g : Grammar) : Parse Unit := do
  if ← sees "\x7b" then g.arrayValue
  else
    let _ ← g.expression

def readArrayValue (g : Grammar) : Parse Unit := do
  expect "\x7b"
  if ← accept "," then expect "\x7d"
  else if ← accept "\x7d" then return
  else
    g.initialValue
    let _ ← repeatWhile do
      if (← sees ",") && !(← sees "\x7d" 1) then
        expect ","
        return some (← g.initialValue)
      else return none
    let _ ← accept ","
    expect "\x7d"

def arrayCreator (g : Grammar) : Parse Unit := do
  if (← sees "[") && (← sees "]" 1) then
    let _ ← dimensions
    g.arrayValue
  else
    let _ ← repeatWhile do
      if (← sees "[") && !(← sees "]" 1) then
        expect "["
        let _ ← g.expression
        return some (← expect "]")
      else return none
    let _ ← dimensions

def creator (g : Grammar) : Parse Unit := do
  if ← seesKind .basicType then
    let _ ← next
    g.arrayCreator
  else
    let generic ← sees "<"
    g.concreteArgumentsIfAny
    g.createdName
    if ← sees "[" then
      if generic then fail
      g.arrayCreator
    else g.classCreator

def innerCreator (g : Grammar) : Parse Unit := do
  g.concreteArgumentsIfAny
  let _ ← identifier
  if ← sees "<" then
    if !(← acceptPair "<" ">") then g.concreteArguments
  g.classCreator

def superSuffix (g : Grammar) : Parse Unit := do
  if ← accept "." then
    g.concreteArgumentsIfAny
    let _ ← identifier
    if ← sees "(" then g.arguments
  else g.arguments

def genericCall (g : Grammar) : Parse Unit := do
  g.concreteArguments
  if ← accept "super" then g.superSuffix
  else
    let _ ← identifier
    g.arguments

def classLiteral : Parse Unit := do
  expect "."
  expect "class"

/-- What stands behind a name; true when the name stands for itself. -/
def nameSuffix (g : Grammar) : Parse Bool := do
  if ← acceptPair "[" "]" then
    let _ ← dimensions
    classLiteral
    return false
  else if ← sees "(" then
    g.arguments
    return false
  else if ← acceptPair "." "class" then return false
  else if ← acceptPair "." "this" then return false
  else if (← sees ".") && (← sees "<" 1) then
    expect "."
    g.genericCall
    return false
  else if ← acceptPair "." "new" then
    g.innerCreator
    return false
  else if (← sees ".") && (← sees "super" 1) && (← sees "(" 2) then
    expect "."
    expect "super"
    g.arguments
    return false
  else return true

def name (g : Grammar) : Parse Value := do
  let first ← identifier
  let more ← repeatWhile do
    if (← sees ".") && (← seesKind .identifier 1) then
      expect "."
      return some (← identifier)
    else return none
  let path := first :: more
  if ← g.nameSuffix then return .name path.dropLast (path.getLastD first) else return .other

def primary (g : Grammar) : Parse Value := do
  if ← seesKind .literal then return .literal (← next).text
  else if ← sees "(" then g.parenthesized
  else if ← accept "this" then
    if ← sees "(" then g.arguments
    return .other
  else if ← accept "super" then
    if !(← sees "::") then g.superSuffix
    return .other
  else if ← accept "new" then
    g.creator
    return .other
  else if ← sees "<" then
    g.concreteArguments
    if ← accept "this" then g.arguments
    else if ← accept "super" then g.superSuffix
    else
      let _ ← identifier
      g.arguments
    return .other
  else if ← seesKind .identifier then g.name
  else if ← seesKind .basicType then
    let _ ← next
    let _ ← dimensions
    classLiteral
    return .other
  else if ← accept "void" then
    classLiteral
    return .other
  else fail

def selector (g : Grammar) : Parse Unit := do
  if ← accept "[" then
    let _ ← g.expression
    expect "]"
  else
    expect "."
    if ← seesKind .identifier then
      let _ ← next
      if ← sees "(" then g.arguments
    else if (← sees "super") && (← sees "::" 1) then expect "super"
    else if ← sees "<" then g.genericCall
    else if ← accept "this" then return
    else if ← accept "super" then g.superSuffix
    else if ← accept "new" then g.innerCreator
    else fail

/-- A selector, if one comes next. The source may not end where one could stand. -/
def selector? (g : Grammar) : Parse (Option Unit) := do
  if ← atEnd then throw .cutInExpression
  if ← seesAny ["[", "."] then return some (← g.selector) else return none

def skipAny (operators : List String) : Parse Unit := do
  let _ ← repeatWhile do
    if ← seesAny operators then
      let _ ← next
      return some ()
    else return none

def selectedPrimary (g : Grammar) : Parse Value := do
  let v ← g.primary
  let _ ← repeatWhile g.selector?
  skipAny postfixOperators
  return v

def readOperand (g : Grammar) : Parse Value := do
  skipAny prefixOperators
  if !(← sees "(") then g.selectedPrimary
  else if let some v ← attempt g.lambda then return v
  else if let some v ← attempt g.cast then return v
  else g.selectedPrimary

def operation? (g : Grammar) : Parse (Option (String × Value)) := do
  if ← accept "instanceof" then
    let _ ← g.type
    return some ("instanceof", .other)
  else if ← seesAny binaryOperators then
    let t ← next
    let operator ← if t.text == ">" then shift else pure t.text
    return some (operator, ← g.operand)
  else return none

def operations (g : Grammar) : Parse Value := do
  let first ← g.operand
  let rest ← repeatWhile g.operation?
  return group precedence first rest

def methodReference (g : Grammar) : Parse Unit := do
  g.concreteArgumentsIfAny
  if !(← accept "new") then
    let _ ← g.expression

def readConditional (g : Grammar) : Parse Value := do
  let v ← g.operations
  if ← accept "?" then
    let _ ← g.expression
    expect ":"
    let _ ← g.conditional
    return .other
  else if ← sees "->" then
    g.lambdaBody
    return .other
  else if ← accept "::" then
    g.methodReference
    return .other
  else return v

def readExpression (g : Grammar) : Parse Value := do
  let v ← g.conditional
  if ← seesAny assignments then
    let _ ← next
    let _ ← g.expression
    return .other
  else return v

end Grammar

end Scaffold.Java.Parser
