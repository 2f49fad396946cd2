import Scaffold.Artifact.Template
import Scaffold.Java.Parser
import Scaffold.Store.Disk

/-! The ways in which work on a project ends early. -/

namespace Scaffold

inductive Failure where
  | makeDir (path : String) (f : Store.DiskFault)
  | write (path : String) (f : Store.DiskFault)
  | refused (reason : String)
  | notGenerated (kind : ArtifactKind)
  | notCreated (name : String)
  | inProgress
  | unread (f : Java.SourceFault)

namespace Failure

/-- Whose failure it is: the store's, that of a stage, that of a second run at the same time, or
that of a source that cannot be read at all. -/
inductive Origin where
  | store | stage | guard | source
  deriving DecidableEq

def origin : Failure → Origin
  | makeDir .. | write .. | refused _ => .store
  | notGenerated _ | notCreated _ => .stage
  | inProgress => .guard
  | unread _ => .source

/-- Whether a run ends with this failure and still has a result. -/
def abortsRun (f : Failure) : Bool := f.origin == .store || f.origin == .stage

def message : Failure → String
  | makeDir path f => "Cannot create directory " ++ path ++ ": " ++ f.message
  | write path f => "Cannot write " ++ path ++ ": " ++ f.message
  | refused reason => reason
  | notGenerated kind => kind.text ++ " has not been generated yet"
  | notCreated name => name ++ " could not be created"
  | inProgress => "A generation run is already in progress"
  | unread _ => ""

end Failure

end Scaffold
