import Scaffold.Java.Lexer
import Scaffold.Java.Parser.Declarations

/-! Sources as compilation units, and the ways in which a text is none. -/

namespace Scaffold.Java

/-- Why a text is no source. At some ends of a text nothing can be said about the cause. -/
inductive SourceFault where
  | lexical (e : LexError)
  | grammar
  | openNumber
  | openHeader
  | openExpression
  deriving DecidableEq

namespace Parser

/-- The readers for symbols that nest at most so deep. -/
def Grammar.ofDepth : Nat → Grammar
  | 0 => .empty
  | n + 1 =>
    let g := Grammar.ofDepth n
    { path := g.readPath
      annot := g.readAnnot
      elementValue := g.readElementValue
      expression := g.readExpression
      conditional := g.readConditional
      operand := g.readOperand
      arrayValue := g.readArrayValue
      block := g.readBlock
      statement := g.readStatement
      classBody := g.readClassBody
      declaration := g.readDeclaration }

def importRest : Parse Import := do
  let isStatic ← accept "static"
  let first ← identifier
  let more ← repeatWhile do
    if (← sees ".") && !(← sees "*" 1) then
      expect "."
      return some (← identifier)
    else return none
  let onDemand ← acceptPair "." "*"
  expect ";"
  return { name := ".".intercalate (first :: more), isStatic, onDemand }

def import? : Parse (Option Import) := do
  if ← accept "import" then return some (← importRest) else return none

namespace Grammar

def annots (g : Grammar) : Parse Unit := do
  let _ ← repeatWhile do if ← seesAnnot then return some (← g.annot) else return none

/-- The package clause; annotations may stand in front of it. Without the clause everything is read
again from the place that the last trial began at. -/
def package? (g : Grammar) : Parse (Option String) := do
  modify fun c => { c with anchor := c.ahead }
  g.annots
  if ← accept "package" then
    let name := ".".intercalate (← qualifiedName)
    expect ";"
    return some name
  else
    modify fun c => { c with ahead := c.anchor, enums := [] }
    return none

/-- A text must not end inside a type declaration. -/
def topDeclaration (g : Grammar) : Parse Decl :=
  tryCatch g.declaration fun e => throw (if e = .cutShort then .unexpected else e)

def types (g : Grammar) : Parse (List Decl) := do
  let found ← repeatWhile do
    if ← atEnd then return none
    else if ← accept ";" then return some none
    else return some (some (← g.topDeclaration))
  return found.filterMap id

def sourceUnit (g : Grammar) : Parse SourceUnit := do
  let package ← g.package?
  let imports ← repeatWhile import?
  return { package, imports, types := ← g.types }

end Grammar

end Parser

namespace SourceUnit

open Scaffold.Java.Parser

/-- The unit that tokens form. No symbol nests deeper than a few times the number of tokens. -/
def ofTokens (tokens : List Token) : Except Fault SourceUnit :=
  ((Grammar.ofDepth (4 * tokens.length + 4)).sourceUnit.run ⟨tokens, tokens, []⟩).1

def read (source : String) : Except SourceFault SourceUnit :=
  match Java.tokens source with
  | .error (.error e) => .error (.lexical e)
  | .error .openNumber => .error .openNumber
  | .ok tokens =>
    match ofTokens tokens with
    | .ok u => .ok u
    | .error .unexpected => .error .grammar
    | .error .cutShort => .error .openHeader
    | .error .cutInExpression => .error .openExpression

end SourceUnit

end Scaffold.Java
