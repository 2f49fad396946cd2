import Scaffold.Command.Desk
import Scaffold.Settings

/-! The settings file of a project. -/

namespace Scaffold.Command

open Scaffold.Store (Location DiskFault)

/-- Writes a settings file with the default settings; false, with a warning, if that fails. -/
def writeDefaults (names : Location) : Work Bool := do
  match (← get).disk.write names (Text.Utf8.encode Settings.defaultText) with
  | .ok disk =>
    setDisk disk
    return true
  | .error f =>
    warn ("Could not create " ++ Store.absolute names ++ ": " ++ f.message)
    return false

/-- The settings of a project. A project without a settings file gets one. -/
def loadSettings (root : Location) : Work Settings := do
  let names := root ++ [Settings.fileName]
  match (← get).disk.look? names with
  | some (.file bytes) => return Settings.ofText (Text.Utf8.readText bytes)
  | some .directory =>
    warn ("Could not read " ++ Store.absolute names ++ ": "
      ++ DiskFault.message ⟨.isDirectory, names⟩)
    return {}
  | none =>
    if ← writeDefaults names then
      inform ("Created " ++ Store.absolute names ++ " with default settings")
    return {}

end Scaffold.Command
