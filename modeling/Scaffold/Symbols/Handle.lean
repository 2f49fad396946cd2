import Scaffold.Entity

/-! Handles: the identity of a class that generated code can refer to, and its members. -/

namespace Scaffold

open Scaffold.Entity (Field)

inductive ClassKind where
  | plain | interface | enum
  deriving DecidableEq, Inhabited

def ClassKind.text : ClassKind → String
  | .plain => "class"
  | .interface => "interface"
  | .enum => "enum"

structure Handle where
  name : String
  package : String
  kind : ClassKind := .plain
  fields : List Field := []
  methods : List String := []
  superclass : Option String := none
  path : Option String := none
  deriving DecidableEq, Inhabited

namespace Handle

def qualifiedName (h : Handle) : String := qualify h.package h.name

def isEnum (h : Handle) : Bool := h.kind == .enum

def hasField (h : Handle) (name : String) : Bool := h.fields.any (·.name == name)

def hasMethod (h : Handle) (name : String) : Bool := h.methods.contains name

end Handle

end Scaffold
