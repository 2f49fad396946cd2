import Scaffold.Entity.Field

/-! Entities: what a generation run knows about the class it starts from. -/

namespace Scaffold

open Scaffold.Entity (Field)

/-- Name and package joined by a dot; without a package the name alone. -/
def qualify (package name : String) : String :=
  if package.isEmpty then name else package ++ "." ++ name

structure TableInfo where
  name : String
  comment : Option String := none
  deriving DecidableEq, Inhabited

/-- What special fields an entity has. -/
structure EntityFlags where
  hasDeleted : Bool := false
  hasCreateTime : Bool := false
  hasUserId : Bool := false
  deriving DecidableEq, Inhabited

structure Entity where
  name : String
  package : String
  fields : List Field := []
  inheritedFields : List Field := []
  superclasses : List String := []
  table : Option TableInfo := none
  annotations : List String := []
  imports : List (String × String) := []
  comment : Option String := none
  deriving DecidableEq, Inhabited

namespace Entity

def baseName (e : Entity) : String := Name.base e.name

def qualifiedName (e : Entity) : String := qualify e.package e.name

def isEntity (e : Entity) : Bool := e.annotations.contains "Entity"

/-- The inherited fields that no own field hides, then the own fields. -/
def allFields (e : Entity) : List Field :=
  (e.inheritedFields.filter fun f => !e.fields.any (·.name == f.name)) ++ e.fields

/-- The position of the id among all fields: the first marked one, else the first named `id`. -/
def idIndex? (e : Entity) : Option Nat :=
  (e.allFields.findIdx? (·.isId)).or (e.allFields.findIdx? (·.name == "id"))

def idField? (e : Entity) : Option Field := e.idIndex?.bind fun i => e.allFields[i]?

def idName (e : Entity) : String := (e.idField?.map (·.name)).getD "id"

def idType (e : Entity) : String := (e.idField?.map (·.wrapperType)).getD "Long"

def findField? (e : Entity) (name : String) : Option Field := e.allFields.find? (·.name == name)

def hasField (e : Entity) (name : String) : Bool := e.allFields.any (·.name == name)

def flags (e : Entity) : EntityFlags where
  hasDeleted := e.hasField "deleted"
  hasCreateTime := e.hasField "createTime"
  hasUserId := e.hasField "userId"

theorem findField?_isSome (e : Entity) (name : String) :
    (e.findField? name).isSome = e.hasField name := by
  rw [Bool.eq_iff_iff]
  simp [findField?, hasField]

end Entity

end Scaffold
