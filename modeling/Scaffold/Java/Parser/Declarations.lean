import Scaffold.Java.Parser.Statements

/-! Readers of type declarations and their members. -/

namespace Scaffold.Java.Parser

/-- Notes the enums that a reader meets, also for the reader around it. -/
def collectingEnums {α : Type} (p : Parse α) : Parse (α × List String) := do
  let outer := (← get).enums
  modify fun c => { c with enums := [] }
  let a ← p
  let inner := (← get).enums
  modify fun c => { c with enums := outer ++ inner }
  return (a, inner)

def noteEnum (name : String) : Parse Unit :=
  modify fun c => { c with enums := c.enums ++ [name] }

/-- The kinds of body, by the members they admit. -/
inductive BodyKind where
  | ofClass | ofInterface | ofMarker
  deriving DecidableEq

def fieldsOf (members : List Member) : List FieldDecl :=
  members.filterMap fun | .field f => some f | _ => none

def methodsOf (members : List Member) : List String :=
  members.filterMap fun | .method name => some name | _ => none

def nestedOf (members : List Member) : List Decl :=
  members.filterMap fun | .type d => some d | _ => none

/-- A declaration with the members of its body. -/
def declOf (head : DeclHead) (members : List Member) : Decl :=
  .mk { head with fields := fieldsOf members, methods := methodsOf members } (nestedOf members)

def withEnums (enums : List String) : Decl → Decl
  | .mk head nested => .mk { head with enums } nested

def Member.withEnums (enums : List String) : Member → Member
  | .type d => .type (Parser.withEnums enums d)
  | m => m

namespace Grammar

def throwsClause : Parse Unit := do
  if ← accept "throws" then
    let _ ← separated "," qualifiedName

/-- Parameters, dimensions of the result, exceptions, and a body or a semicolon. -/
def methodRest (g : Grammar) : Parse Unit := do
  g.parameters
  let _ ← dimensions
  throwsClause
  if ← sees "\x7b" then g.block else expect ";"

def constructorRest (g : Grammar) : Parse Unit := do
  g.parameters
  throwsClause
  g.block

def moreVariables (g : Grammar) : Parse (List String) :=
  repeatWhile do if ← accept "," then return some (← g.declarator) else return none

/-- What may stand behind the name of a constant: dimensions, and a value for sure. -/
def constantRest (g : Grammar) : Parse Unit := do
  let _ ← dimensions
  expect "="
  g.initialValue

def moreConstants (g : Grammar) : Parse (List String) :=
  repeatWhile do
    if ← accept "," then
      let name ← identifier
      g.constantRest
      return some name
    else return none

/-- A field or, in interfaces, a constant; its type and first name are read already. -/
def fieldRest (g : Grammar) (kind : BodyKind) (modifiers : List String) (annots : List Annot)
    (type : TypeRef) (name : String) : Parse Member := do
  let more ← if kind == .ofClass then do
      g.variableRest
      g.moreVariables
    else do
      g.constantRest
      g.moreConstants
  expect ";"
  return .field { isStatic := modifiers.contains "static", annots, type, names := name :: more }

/-- The element of an annotation declaration, behind its opening parenthesis. -/
def markerElementRest (g : Grammar) : Parse Unit := do
  expect ")"
  let _ ← dimensions
  if ← accept "default" then
    let _ ← g.elementValue
  expect ";"

def typedMember (g : Grammar) (kind : BodyKind) (modifiers : List String) (annots : List Annot) :
    Parse Member := do
  let type ← g.type
  let name ← identifier
  if ← sees "(" then
    if kind == .ofMarker then
      expect "("
      g.markerElementRest
      return .other
    else
      g.methodRest
      return .method name
  else g.fieldRest kind modifiers annots type name

/-- A member behind type parameters of its own. -/
def genericMember (g : Grammar) (kind : BodyKind) : Parse Member := do
  g.typeParameters
  if kind == .ofClass && (← seesNamed "(") then
    let _ ← next
    g.constructorRest
    return .other
  else
    if !(← accept "void") then
      let _ ← g.type
    let name ← identifier
    g.methodRest
    return .method name

def superPath? (g : Grammar) : Parse (Option TypePath) := do
  if ← accept "extends" then return some (← g.type).path else return none

def interfacesIfAny (g : Grammar) (word : String) : Parse Unit := do
  if ← accept word then g.typeList

/-- A constant of an enum, perhaps with arguments and a body of its own. -/
def enumConstant (g : Grammar) : Parse Unit := do
  let _ ← repeatWhile do if ← seesAnnot then return some (← g.annot) else return none
  let _ ← identifier
  if ← sees "(" then g.arguments
  if ← sees "\x7b" then
    let _ ← g.classBody

def enumConstants (g : Grammar) : Parse Unit := do
  if ← accept "," then return
  if ← seesAny [";", "\x7d"] then return
  g.enumConstant
  let _ ← repeatWhile do
    if (← sees ",") && !(← sees ";" 1) && !(← sees "\x7d" 1) then
      expect ","
      return some (← g.enumConstant)
    else return none
  let _ ← accept ","

mutual

/-- The declarations of a body up to its closing brace. The fuel bounds the nesting of bodies. -/
def members (g : Grammar) : Nat → BodyKind → Parse (List Member)
  | 0, _ => fail
  | fuel + 1, kind => do
    let found ← upTo "\x7d" do
      if kind != .ofMarker && (← sees ";") then
        expect ";"
        return Member.other
      else if kind == .ofClass && (← sees "\x7b") then
        g.block
        return .other
      else if kind == .ofClass && (← sees "static") && (← sees "\x7b" 1) then
        expect "static"
        g.block
        return .other
      else
        let (m, enums) ← collectingEnums do
          let (modifiers, annots) ← g.marks
          g.member fuel kind modifiers annots
        return m.withEnums enums
    return found

def member (g : Grammar) : Nat → BodyKind → List String → List Annot → Parse Member
  | 0, _, _, _ => fail
  | fuel + 1, kind, modifiers, annots => do
    if let some d ← g.typeDecl? fuel annots then return .type d
    else if kind != .ofMarker && (← sees "void") then
      expect "void"
      let name ← identifier
      g.methodRest
      return .method name
    else if kind != .ofMarker && (← sees "<") then g.genericMember kind
    else if kind == .ofClass && (← seesNamed "(") then
      let _ ← next
      g.constructorRest
      return .other
    else g.typedMember kind modifiers annots

/-- A type declaration behind its modifiers, if one comes next. -/
def typeDecl? (g : Grammar) : Nat → List Annot → Parse (Option Decl)
  | 0, _ => fail
  | fuel + 1, annots => do
    if ← accept "class" then
      let name ← identifier
      g.typeParametersIfAny
      let superclass ← g.superPath?
      g.interfacesIfAny "implements"
      expect "\x7b"
      return some (declOf { kind := .plain, name, annots, superclass } (← g.members fuel .ofClass))
    else if ← accept "enum" then
      let name ← identifier
      noteEnum name
      g.interfacesIfAny "implements"
      expect "\x7b"
      g.enumConstants
      let found ← if ← accept ";" then g.members fuel .ofClass else do
        expect "\x7d"
        pure []
      return some (declOf { kind := .enum, name, annots } found)
    else if ← accept "interface" then
      let name ← identifier
      g.typeParametersIfAny
      g.interfacesIfAny "extends"
      expect "\x7b"
      return some (declOf { kind := .interface, name, annots } (← g.members fuel .ofInterface))
    else if ← seesMarkerDecl then
      expect "@"
      expect "interface"
      let name ← identifier
      expect "\x7b"
      return some (declOf { kind := .marker, name, annots } (← g.members fuel .ofMarker))
    else return none

end

def readClassBody (g : Grammar) : Parse (List Member) := do
  expect "\x7b"
  g.members ((← get).ahead.length * 3 + 3) .ofClass

def readDeclaration (g : Grammar) : Parse Decl := do
  let (d, enums) ← collectingEnums do
    let (_, annots) ← g.marks
    match ← g.typeDecl? ((← get).ahead.length * 3 + 3) annots with
    | some d => return d
    | none => fail
  return withEnums enums d

end Grammar

end Scaffold.Java.Parser
