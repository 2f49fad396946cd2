import Scaffold.Java.Parser.Grammar

/-! Readers of types, their arguments and parameters. -/

namespace Scaffold.Java.Parser

def dimensions : Parse Nat := do
  return (← repeatWhile do if ← acceptPair "[" "]" then return some () else return none).length

/-- One or more dimensions. -/
def someDimensions : Parse Nat := do
  expect "["
  expect "]"
  return 1 + (← dimensions)

namespace Grammar

/-- A reference type, or an array of a basic type. -/
def boundType (g : Grammar) : Parse TypeRef := do
  if ← seesKind .basicType then
    let t ← next
    return ⟨.last t.text .none, ← someDimensions⟩
  else
    let path ← g.path
    return ⟨path, ← dimensions⟩

/-- A type argument, by what it puts in front of the arguments behind it. -/
def typeArgument (g : Grammar) : Parse (TypeArguments → TypeArguments) := do
  if ← accept "?" then
    if !(← seesAny ["extends", "super"]) then return .wildcard
    let _ ← next
  let t ← g.boundType
  return .type t.path t.dimensions

def typeArguments (g : Grammar) : Parse TypeArguments := do
  expect "<"
  let arguments ← separated "," g.typeArgument
  expect ">"
  return arguments.foldr (fun f rest => f rest) .none

def readPath (g : Grammar) : Parse TypePath := do
  let name ← identifier
  let arguments ← if ← sees "<" then g.typeArguments else pure .none
  if ← accept "." then return .dot name arguments (← g.path) else return .last name arguments

def type (g : Grammar) : Parse TypeRef := do
  if ← seesKind .basicType then
    let t ← next
    return ⟨.last t.text .none, ← dimensions⟩
  else if ← seesKind .identifier then
    let path ← g.path
    return ⟨path, ← dimensions⟩
  else fail

def typeList (g : Grammar) : Parse Unit := do
  let _ ← separated "," g.boundType

def concreteArguments (g : Grammar) : Parse Unit := do
  expect "<"
  g.typeList
  expect ">"

def concreteArgumentsIfAny (g : Grammar) : Parse Unit := do
  if ← sees "<" then g.concreteArguments

def typeParameter (g : Grammar) : Parse Unit := do
  let _ ← identifier
  if ← accept "extends" then
    let _ ← separated "&" g.path

def typeParameters (g : Grammar) : Parse Unit := do
  expect "<"
  let _ ← separated "," g.typeParameter
  expect ">"

def typeParametersIfAny (g : Grammar) : Parse Unit := do
  if ← sees "<" then g.typeParameters

/-- The name of a created class; its arguments may be left open. -/
def createdName (g : Grammar) : Parse Unit := do
  let _ ← separated "." do
    let _ ← identifier
    if ← sees "<" then
      if !(← acceptPair "<" ">") then
        let _ ← g.typeArguments

end Grammar

end Scaffold.Java.Parser
