import Scaffold.Entity
import Scaffold.Entries
import Scaffold.Text.Lines

/-! Settings of a project, and the property lines they are read from. -/

namespace Scaffold

open Scaffold.Text

structure Settings where
  excel : Bool := false
  withSuper : Bool := false
  superService : Option String := none
  superController : Option String := none
  superDao : Option String := none
  controllerPath : String := "/api"
  withPage : Bool := false
  withInterface : Bool := false
  withDeleted : Bool := false
  withCreateTime : Bool := false
  withUserId : Bool := false
  deriving DecidableEq, Inhabited

namespace Settings

/-- The settings with the flags of an entity in place of their own. -/
def forEntity (s : Settings) (e : Entity) : Settings :=
  { s with
    withDeleted := e.flags.hasDeleted
    withCreateTime := e.flags.hasCreateTime
    withUserId := e.flags.hasUserId }

/-- A configured super class that is in use. -/
def enabledSuper? (s : Settings) (name : Option String) : Option String :=
  if s.withSuper then name.bind nonempty? else none

def superService? (s : Settings) : Option String := s.enabledSuper? s.superService

def superController? (s : Settings) : Option String := s.enabledSuper? s.superController

def superDao? (s : Settings) : Option String := s.enabledSuper? s.superDao

def fileName : String := "codeGenerator.properties"

/-- The lines of a new settings file. -/
def defaultLines : List String :=
  ["# Generate Excel import/export handlers",
   "common.func.excel=false",
   "# Generate the service as interface + implementation",
   "service.interface=false",
   "# Controller path prefix",
   "controller.prefix=/api",
   "# Extend the configured super classes",
   "common.super=false",
   "common.super.service=",
   "common.super.controller=",
   "common.super.dao=",
   "# Generate a frontend page",
   "ui.enable=false"]

def defaultText : String := unlines defaultLines ++ "\n"

def parseBool (value : String) : Bool := lower (trim value) == "true"

/-- Whether a character ends the key of a property line. -/
def endsKey (c : Char) : Bool := c == '=' || c == ':' || isBlank c

/-- The key and the value of a property line; comments and lines without a separator have none. -/
def property? (line : String) : Option (String × String) :=
  let s := trimChars line.toList
  match s with
  | '#' :: _ => none
  | '!' :: _ => none
  | _ =>
    let key := s.takeWhile (!endsKey ·)
    match key, dropBlanks (s.dropWhile (!endsKey ·)) with
    | _ :: _, '=' :: value => some (String.ofList key, String.ofList (trimChars value))
    | _ :: _, ':' :: value => some (String.ofList key, String.ofList (trimChars value))
    | _, _ => none

def properties (text : String) : List (String × String) :=
  Entries.putAll ((lines text).filterMap property?) []

/-- One property takes effect; unknown keys have none. -/
def assign (s : Settings) (key value : String) : Settings :=
  match key with
  | "common.func.excel" => { s with excel := parseBool value }
  | "service.interface" => { s with withInterface := parseBool value }
  | "controller.prefix" => { s with controllerPath := (nonempty? (trim value)).getD "/api" }
  | "common.super" => { s with withSuper := parseBool value }
  | "common.super.service" => { s with superService := nonempty? (trim value) }
  | "common.super.controller" => { s with superController := nonempty? (trim value) }
  | "common.super.dao" => { s with superDao := nonempty? (trim value) }
  | "ui.enable" => { s with withPage := parseBool value }
  | _ => s

def ofProperties (ps : List (String × String)) : Settings :=
  ps.foldl (fun s (k, v) => s.assign k v) {}

def ofText (text : String) : Settings := ofProperties (properties text)

end Settings

end Scaffold
