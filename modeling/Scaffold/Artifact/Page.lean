import Scaffold.Artifact.Template
import Scaffold.Json.Value

/-! Frontend pages: a component that shows the rows of an entity in a table. -/

namespace Scaffold.Artifact

open Scaffold.Entity
open Scaffold.Text

inductive ColumnType where
  | checkbox | number | text
  deriving DecidableEq

def ColumnType.label : ColumnType → String
  | .checkbox => "checkbox"
  | .number => "number"
  | .text => "text"

def ColumnType.width : ColumnType → Nat
  | .checkbox => 80
  | .number => 100
  | .text => 120

def columnType (f : Field) : ColumnType :=
  if booleanTypes.contains f.rawType then .checkbox
  else if integerTypes.contains f.rawType then .number
  else .text

/-- A column of the table on a page. -/
structure PageColumn where
  field : String
  type : ColumnType
  title : String
  deriving DecidableEq

namespace PageColumn

def ofField (f : Field) : PageColumn := ⟨f.name, columnType f, f.title⟩

def value (c : PageColumn) : Json.Value :=
  .object [("field", .string c.field), ("type", .string c.type.label), ("title", .string c.title),
    ("width", .number (toString c.type.width))]

end PageColumn

/-- Lines behind the first one move right. -/
def hang (n : Nat) (s : String) : String :=
  match lines s with
  | [] => ""
  | l :: ls => unlines (l :: ls.map (spaces n ++ ·))

def columnsText (columns : List PageColumn) : String :=
  (Json.Value.array (columns.map PageColumn.value)).write 0

def pageText (base url : String) (columns : List PageColumn) : String :=
  unlines
    ["<template>",
     "  <crud-page :url=\"url\" :columns=\"columns\"/>",
     "</template>",
     "",
     "<script>",
     "export default \x7b",
     "  name: \"" ++ base ++ "Page\",",
     "  data() \x7b",
     "    return \x7b",
     "      url: " ++ Json.stringText .ascii url ++ ",",
     "      columns: " ++ hang 6 (columnsText columns),
     "    \x7d",
     "  \x7d",
     "\x7d",
     "</script>"] ++ "\n"

def pageTemplate (e : Entity) (fields : List Field) (url : String) : Template :=
  let name := Name.kebab e.baseName ++ ".vue"
  { kind := .page, name, fileName := name
    content := pageText e.baseName url (fields.map PageColumn.ofField) }

end Scaffold.Artifact
