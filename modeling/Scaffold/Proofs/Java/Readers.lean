import Scaffold.Proofs.Java.Respected

/-! A relation that is respected by the ways to put readers together is respected by all readers of the grammar, at
every nesting depth. -/

namespace Scaffold.Java.Parser

-- A reader is one search for instances, with an instance for each step of it.
set_option synthInstance.maxSize 2000

variable (R : ∀ α : Type, Parse α → Parse α → Prop) [Respected R] (g h : Grammar) [Grammar.Related R g h]

section Types

instance : Related R dimensions dimensions := by unfold dimensions; infer_instance
instance : Related R someDimensions someDimensions := by unfold someDimensions; infer_instance
instance : Related R g.boundType h.boundType := by unfold Grammar.boundType; infer_instance
instance : Related R g.typeArgument h.typeArgument := by unfold Grammar.typeArgument; infer_instance
instance : Related R g.typeArguments h.typeArguments := by unfold Grammar.typeArguments; infer_instance
instance : Related R g.readPath h.readPath := by unfold Grammar.readPath; infer_instance
instance : Related R g.type h.type := by unfold Grammar.type; infer_instance
instance : Related R g.typeList h.typeList := by unfold Grammar.typeList; infer_instance
instance : Related R g.concreteArguments h.concreteArguments := by unfold Grammar.concreteArguments; infer_instance
instance : Related R g.concreteArgumentsIfAny h.concreteArgumentsIfAny := by
  unfold Grammar.concreteArgumentsIfAny
  infer_instance
instance : Related R g.typeParameter h.typeParameter := by unfold Grammar.typeParameter; infer_instance
instance : Related R g.typeParameters h.typeParameters := by unfold Grammar.typeParameters; infer_instance
instance : Related R g.typeParametersIfAny h.typeParametersIfAny := by
  unfold Grammar.typeParametersIfAny
  infer_instance
instance : Related R g.createdName h.createdName := by unfold Grammar.createdName; infer_instance

end Types

section Annotations

instance : Related R seesAnnot seesAnnot := by unfold seesAnnot; infer_instance
instance : Related R seesMarkerDecl seesMarkerDecl := by unfold seesMarkerDecl; infer_instance
instance : Related R g.elementPair h.elementPair := by unfold Grammar.elementPair; infer_instance
instance : Related R g.element h.element := by unfold Grammar.element; infer_instance
instance : Related R g.readAnnot h.readAnnot := by unfold Grammar.readAnnot; infer_instance
instance : Related R g.elementArray h.elementArray := by unfold Grammar.elementArray; infer_instance
instance : Related R g.readElementValue h.readElementValue := by unfold Grammar.readElementValue; infer_instance
instance : Related R g.mark? h.mark? := by unfold Grammar.mark?; infer_instance
instance : Related R g.marks h.marks := by unfold Grammar.marks; infer_instance
instance : Related R g.variableMarks h.variableMarks := by unfold Grammar.variableMarks; infer_instance

end Annotations

section Expressions

instance : Related R shift shift := by unfold shift; infer_instance
instance : Related R g.parenthesized h.parenthesized := by unfold Grammar.parenthesized; infer_instance
instance : Related R g.arguments h.arguments := by unfold Grammar.arguments; infer_instance
instance : Related R g.parameter h.parameter := by unfold Grammar.parameter; infer_instance

instance (n : Nat) : Related R (g.parametersFrom n) (h.parametersFrom n) := by
  induction n with
  | zero => exact inferInstanceAs (Related R (pure ()) (pure ()))
  | succ n ih => unfold Grammar.parametersFrom; infer_instance

instance : Related R g.parameters h.parameters := by unfold Grammar.parameters; infer_instance
instance : Related R g.lambdaBody h.lambdaBody := by unfold Grammar.lambdaBody; infer_instance
instance : Related R g.lambda h.lambda := by unfold Grammar.lambda; infer_instance
instance : Related R g.cast h.cast := by unfold Grammar.cast; infer_instance
instance : Related R g.classCreator h.classCreator := by unfold Grammar.classCreator; infer_instance
instance : Related R g.initialValue h.initialValue := by unfold Grammar.initialValue; infer_instance
instance : Related R g.readArrayValue h.readArrayValue := by unfold Grammar.readArrayValue; infer_instance
instance : Related R g.arrayCreator h.arrayCreator := by unfold Grammar.arrayCreator; infer_instance
instance : Related R g.creator h.creator := by unfold Grammar.creator; infer_instance
instance : Related R g.innerCreator h.innerCreator := by unfold Grammar.innerCreator; infer_instance
instance : Related R g.superSuffix h.superSuffix := by unfold Grammar.superSuffix; infer_instance
instance : Related R g.genericCall h.genericCall := by unfold Grammar.genericCall; infer_instance
instance : Related R Grammar.classLiteral Grammar.classLiteral := by unfold Grammar.classLiteral; infer_instance
instance : Related R g.nameSuffix h.nameSuffix := by unfold Grammar.nameSuffix; infer_instance
instance : Related R g.name h.name := by unfold Grammar.name; infer_instance
instance : Related R g.primary h.primary := by unfold Grammar.primary; infer_instance
instance : Related R g.selector h.selector := by unfold Grammar.selector; infer_instance
instance : Related R g.selector? h.selector? := by unfold Grammar.selector?; infer_instance
instance (operators : List String) : Related R (Grammar.skipAny operators) (Grammar.skipAny operators) := by
  unfold Grammar.skipAny
  infer_instance
instance : Related R g.selectedPrimary h.selectedPrimary := by unfold Grammar.selectedPrimary; infer_instance
instance : Related R g.readOperand h.readOperand := by unfold Grammar.readOperand; infer_instance
instance : Related R g.operation? h.operation? := by unfold Grammar.operation?; infer_instance
instance : Related R g.operations h.operations := by unfold Grammar.operations; infer_instance
instance : Related R g.methodReference h.methodReference := by unfold Grammar.methodReference; infer_instance
instance : Related R g.readConditional h.readConditional := by unfold Grammar.readConditional; infer_instance
instance : Related R g.readExpression h.readExpression := by unfold Grammar.readExpression; infer_instance

end Expressions

section Statements

instance : Related R g.variableRest h.variableRest := by unfold Grammar.variableRest; infer_instance
instance : Related R g.declarator h.declarator := by unfold Grammar.declarator; infer_instance
instance : Related R g.localVariables h.localVariables := by unfold Grammar.localVariables; infer_instance
instance : Related R g.expressions h.expressions := by unfold Grammar.expressions; infer_instance
instance : Related R g.forRest h.forRest := by unfold Grammar.forRest; infer_instance
instance : Related R g.forVariables h.forVariables := by unfold Grammar.forVariables; infer_instance
instance : Related R g.forControl h.forControl := by unfold Grammar.forControl; infer_instance
instance : Related R g.caseLabel h.caseLabel := by unfold Grammar.caseLabel; infer_instance
instance : Related R g.catchClause h.catchClause := by unfold Grammar.catchClause; infer_instance
instance : Related R g.catchClauses h.catchClauses := by unfold Grammar.catchClauses; infer_instance
instance : Related R g.finallyClause h.finallyClause := by unfold Grammar.finallyClause; infer_instance
instance : Related R g.resource h.resource := by unfold Grammar.resource; infer_instance
instance : Related R g.resources h.resources := by unfold Grammar.resources; infer_instance
instance : Related R g.tryRest h.tryRest := by unfold Grammar.tryRest; infer_instance
instance : Related R Grammar.jump Grammar.jump := by unfold Grammar.jump; infer_instance

instance : Related R g.blockStatement h.blockStatement := by
  have hopening : ∀ o : Opening, Related R (match o with
      | .typeDeclaration => do let _ ← g.declaration
      | .variable => g.localVariables
      | .statement => g.statement
      | .unclear => do if (← attempt g.localVariables).isNone then g.statement) (match o with
      | .typeDeclaration => do let _ ← h.declaration
      | .variable => h.localVariables
      | .statement => h.statement
      | .unclear => do if (← attempt h.localVariables).isNone then h.statement) := by
    intro o
    cases o <;> infer_instance
  unfold Grammar.blockStatement
  infer_instance

instance : Related R g.switchGroup h.switchGroup := by unfold Grammar.switchGroup; infer_instance
instance : Related R g.switchRest h.switchRest := by unfold Grammar.switchRest; infer_instance
instance : Related R g.readBlock h.readBlock := by unfold Grammar.readBlock; infer_instance
instance (closing : String) : Related R (g.valueThen closing) (h.valueThen closing) := by
  unfold Grammar.valueThen
  infer_instance
instance : Related R g.readStatement h.readStatement := by unfold Grammar.readStatement; infer_instance

end Statements

section Declarations

instance : Related R Grammar.throwsClause Grammar.throwsClause := by unfold Grammar.throwsClause; infer_instance
instance : Related R g.methodRest h.methodRest := by unfold Grammar.methodRest; infer_instance
instance : Related R g.constructorRest h.constructorRest := by unfold Grammar.constructorRest; infer_instance
instance : Related R g.moreVariables h.moreVariables := by unfold Grammar.moreVariables; infer_instance
instance : Related R g.constantRest h.constantRest := by unfold Grammar.constantRest; infer_instance
instance : Related R g.moreConstants h.moreConstants := by unfold Grammar.moreConstants; infer_instance

instance (kind : BodyKind) (modifiers : List String) (annots : List Annot) (type : TypeRef) (name : String) :
    Related R (g.fieldRest kind modifiers annots type name) (h.fieldRest kind modifiers annots type name) := by
  unfold Grammar.fieldRest
  infer_instance

instance : Related R g.markerElementRest h.markerElementRest := by unfold Grammar.markerElementRest; infer_instance

instance (kind : BodyKind) (modifiers : List String) (annots : List Annot) :
    Related R (g.typedMember kind modifiers annots) (h.typedMember kind modifiers annots) := by
  unfold Grammar.typedMember
  infer_instance

instance (kind : BodyKind) : Related R (g.genericMember kind) (h.genericMember kind) := by
  unfold Grammar.genericMember
  infer_instance
instance : Related R g.superPath? h.superPath? := by unfold Grammar.superPath?; infer_instance
instance (word : String) : Related R (g.interfacesIfAny word) (h.interfacesIfAny word) := by
  unfold Grammar.interfacesIfAny
  infer_instance
instance : Related R g.enumConstant h.enumConstant := by unfold Grammar.enumConstant; infer_instance
instance : Related R g.enumConstants h.enumConstants := by unfold Grammar.enumConstants; infer_instance

/-- The readers of bodies call each other, so they are judged together. -/
theorem related_bodies (fuel : Nat) :
    (∀ kind, Related R (g.members fuel kind) (h.members fuel kind)) ∧
      (∀ kind modifiers annots,
        Related R (g.member fuel kind modifiers annots) (h.member fuel kind modifiers annots)) ∧
      ∀ annots, Related R (g.typeDecl? fuel annots) (h.typeDecl? fuel annots) := by
  induction fuel with
  | zero =>
    exact ⟨fun _ => inferInstanceAs (Related R fail fail), fun _ _ _ => inferInstanceAs (Related R fail fail),
      fun _ => inferInstanceAs (Related R fail fail)⟩
  | succ fuel ih =>
    -- The three hypotheses serve as instances below.
    obtain ⟨hmembers, hmember, htype⟩ := ih
    refine ⟨fun kind => ?_, fun kind modifiers annots => ?_, fun annots => ?_⟩
    · unfold Grammar.members
      infer_instance
    · unfold Grammar.member
      infer_instance
    · unfold Grammar.typeDecl?
      infer_instance

instance (fuel : Nat) (kind : BodyKind) : Related R (g.members fuel kind) (h.members fuel kind) :=
  (related_bodies R g h fuel).1 kind

instance (fuel : Nat) (kind : BodyKind) (modifiers : List String) (annots : List Annot) :
    Related R (g.member fuel kind modifiers annots) (h.member fuel kind modifiers annots) :=
  (related_bodies R g h fuel).2.1 kind modifiers annots

instance (fuel : Nat) (annots : List Annot) : Related R (g.typeDecl? fuel annots) (h.typeDecl? fuel annots) :=
  (related_bodies R g h fuel).2.2 annots

instance : Related R g.readClassBody h.readClassBody := by unfold Grammar.readClassBody; infer_instance
instance : Related R g.readDeclaration h.readDeclaration := by unfold Grammar.readDeclaration; infer_instance

end Declarations

section Unit

instance : Related R importRest importRest := by unfold importRest; infer_instance
instance : Related R import? import? := by unfold import?; infer_instance
instance : Related R g.annots h.annots := by unfold Grammar.annots; infer_instance
instance : Related R g.topDeclaration h.topDeclaration := by unfold Grammar.topDeclaration; infer_instance
instance : Related R g.types h.types := by unfold Grammar.types; infer_instance

end Unit

section Depth

/-- A grammar some nesting depths above another one. -/
def Grammar.over : Nat → Grammar → Grammar
  | 0, g => g
  | n + 1, base =>
    let g := Grammar.over n base
    { path := g.readPath
      annot := g.readAnnot
      elementValue := g.readElementValue
      expression := g.readExpression
      conditional := g.readConditional
      operand := g.readOperand
      arrayValue := g.readArrayValue
      block := g.readBlock
      statement := g.readStatement
      classBody := g.readClassBody
      declaration := g.readDeclaration }

theorem Grammar.over_ofDepth (k n : Nat) : Grammar.over k (Grammar.ofDepth n) = Grammar.ofDepth (n + k) := by
  induction k with
  | zero => rfl
  | succ k ih =>
    rw [Grammar.over, ih]
    rfl

instance (n : Nat) : Grammar.Related R (Grammar.over n g) (Grammar.over n h) := by
  induction n with
  | zero => assumption
  | succ n ih =>
    rw [Grammar.over, Grammar.over]
    constructor <;> dsimp only <;> infer_instance

end Depth

end Scaffold.Java.Parser
