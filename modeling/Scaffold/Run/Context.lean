import Scaffold.Artifact.Template
import Scaffold.Run.Layout
import Scaffold.Settings

/-! What a run knows and has produced so far. -/

namespace Scaffold.Run

/-- The directories of a run; empty ones were not reached. -/
structure Directories where
  layout : Layout := {}
  container : String := ""
  repository : String := ""
  service : String := ""
  dto : String := ""
  mapper : String := ""
  query : String := ""
  dao : String := ""
  serviceImpl : String := ""
  controller : String := ""
  mappers : String := ""
  pages : String := ""
  deriving DecidableEq, Inhabited

/-- An artifact in its place; one that was there before is not created. -/
structure Product where
  kind : ArtifactKind
  name : String
  path : String
  content : String
  created : Bool
  deriving DecidableEq, Inhabited

structure Context where
  entity : Entity
  settings : Settings
  dirs : Directories
  handles : List (ArtifactKind × Handle) := []
  products : List Product := []
  mappingPath : Option String := none
  pagePath : Option String := none
  deriving DecidableEq, Inhabited

namespace Context

def handle? (c : Context) (kind : ArtifactKind) : Option Handle := c.handles.lookup kind

def kept (c : Context) : List Product := c.products.filter (!·.created)

end Context

end Scaffold.Run
