import Scaffold.Symbols.Handle

/-! Artifacts before they are placed: what they are, what they are called and what they hold. -/

namespace Scaffold

inductive ArtifactKind where
  | dto | dtoAdd | dtoUpdate | mapper | entityMapper | repository | query | dao | daoXml
  | service | serviceImpl | controller | page | baseRepository | baseQuery
  deriving DecidableEq, Inhabited

def ArtifactKind.text : ArtifactKind → String
  | .dto => "DTO"
  | .dtoAdd => "DTO_ADD"
  | .dtoUpdate => "DTO_UPDATE"
  | .mapper => "MAPPER"
  | .entityMapper => "ENTITY_MAPPER"
  | .repository => "REPOSITORY"
  | .query => "QUERY"
  | .dao => "DAO"
  | .daoXml => "DAO_XML"
  | .service => "SERVICE"
  | .serviceImpl => "SERVICE_IMPL"
  | .controller => "CONTROLLER"
  | .page => "PAGE"
  | .baseRepository => "BASE_REPOSITORY"
  | .baseQuery => "BASE_QUERY"

/-- A rendered artifact that has no directory yet. Only Java artifacts have a package. -/
structure Template where
  kind : ArtifactKind
  name : String
  fileName : String
  content : String
  package : Option String := none
  deriving DecidableEq, Inhabited

end Scaffold
