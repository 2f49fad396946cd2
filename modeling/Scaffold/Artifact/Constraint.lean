import Scaffold.Entity.Field

/-! Constraints on a generated field, derived from the column definition and the type. -/

namespace Scaffold.Artifact

open Scaffold.Text
open Scaffold.Entity

inductive Constraint where
  | length (max : Nat)
  | notBlank
  | notNull
  | dateFormat (pattern : String)
  deriving DecidableEq

def Constraint.text : Constraint → String
  | .length max => "@Length(max = " ++ toString max ++ ")"
  | .notBlank => "@NotBlank"
  | .notNull => "@NotNull"
  | .dateFormat pattern => "@JsonFormat(pattern = \"" ++ pattern ++ "\")"

def Constraint.importName : Constraint → String
  | .length _ => "org.hibernate.validator.constraints.Length"
  | .notBlank => "javax.validation.constraints.NotBlank"
  | .notNull => "javax.validation.constraints.NotNull"
  | .dateFormat _ => "com.fasterxml.jackson.annotation.JsonFormat"

def datePatterns : List (String × String) :=
  [("localdate", "yyyy-MM-dd"), ("localdatetime", "yyyy-MM-dd HH:mm:ss")]

def holdsText (f : Field) : Bool := stringTypes.contains f.rawType

def lengthConstraint (f : Field) : List Constraint :=
  let max := ColumnText.maxLength f.definitionText
  if holdsText f && 0 < max then [.length max] else []

/-- A column without null asks for a value, of a text also for a non-blank one. -/
def presenceConstraint (f : Field) : List Constraint :=
  if ColumnText.notNull f.definitionText && !f.isTypeMarker then
    [if holdsText f then .notBlank else .notNull]
  else []

def formatConstraint (f : Field) : List Constraint :=
  ((datePatterns.lookup (lower f.rawType)).map Constraint.dateFormat).toList

def constraints (f : Field) : List Constraint :=
  lengthConstraint f ++ presenceConstraint f ++ formatConstraint f

end Scaffold.Artifact
