import Scaffold.Entity.Field

/-! Column definitions for fields that have none yet. -/

namespace Scaffold.Annotate

open Scaffold.Text
open Scaffold.Entity

def mentionsAny (words : List String) (typeName : String) : Bool := words.any (contains typeName)

def isTime (typeName : String) : Bool := mentionsAny ["LocalDateTime", "Date", "Instant"] typeName

/-- The definition that the type of a field asks for; times of an update follow the row. -/
def columnDefinition (f : Field) : String :=
  let t := f.typeName
  if mentionsAny ["String", "Char", "char"] t then "varchar(255)"
  else if mentionsAny ["Float", "float", "Double", "double", "BigDecimal"] t then "numeric(24, 4)"
  else if isTime t then
    if contains (lower f.name) "update" then
      "timestamp not null default current_timestamp on update current_timestamp"
    else "timestamp not null default current_timestamp"
  else if contains t "Long" || t == "long" then "bigint"
  else if f.isEnum || lower t == "boolean" then "int(1) default 0"
  else "integer"

end Scaffold.Annotate
