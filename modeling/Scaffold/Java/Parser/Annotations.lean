import Scaffold.Java.Parser.Types

/-! Readers of annotations and modifiers. -/

namespace Scaffold.Java.Parser

/-- An annotation, as opposed to the declaration of one. -/
def seesAnnot : Parse Bool := do return (← seesKind .at) && !(← sees "interface" 1)

def seesMarkerDecl : Parse Bool := do return (← seesKind .at) && (← sees "interface" 1)

namespace Grammar

def elementPair (g : Grammar) : Parse (String × Value) := do
  let name ← identifier
  expect "="
  return (name, ← g.elementValue)

def element (g : Grammar) : Parse Element := do
  if ← seesNamed "=" then return .pairs (← separated "," g.elementPair)
  else return .single (← g.elementValue)

def readAnnot (g : Grammar) : Parse Annot := do
  expect "@"
  let name := ".".intercalate (← qualifiedName)
  if ← accept "(" then
    if ← accept ")" then return { name }
    let element ← g.element
    expect ")"
    return { name, element := some element }
  else return { name }

/-- Values in braces; a comma may stand behind the last one. -/
def elementArray (g : Grammar) : Parse Value := do
  expect "\x7b"
  if ← accept "\x7d" then return .emptyArray
  let _ ← g.elementValue
  let _ ← repeatWhile do
    if (← sees ",") && !(← sees "\x7d" 1) then
      expect ","
      return some (← g.elementValue)
    else return none
  let _ ← accept ","
  expect "\x7d"
  return .other

def readElementValue (g : Grammar) : Parse Value := do
  if ← seesAnnot then
    let _ ← g.annot
    return .other
  else if ← sees "\x7b" then g.elementArray
  else g.conditional

/-- A modifier or an annotation. -/
def mark? (g : Grammar) : Parse (Option (String ⊕ Annot)) := do
  if ← seesAnnot then return some (.inr (← g.annot))
  else if ← seesKind .modifier then return some (.inl (← next).text)
  else return none

def marks (g : Grammar) : Parse (List String × List Annot) := do
  let found ← repeatWhile g.mark?
  return (found.filterMap Sum.getLeft?, found.filterMap Sum.getRight?)

/-- The modifiers of a variable: `final`, and annotations. -/
def variableMarks (g : Grammar) : Parse Unit := do
  let _ ← repeatWhile do
    if ← accept "final" then return some ()
    else if ← seesAnnot then
      let _ ← g.annot
      return some ()
    else return none

end Grammar

end Scaffold.Java.Parser
