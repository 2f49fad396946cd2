import Scaffold.Artifact.Controller
import Scaffold.Artifact.Dao
import Scaffold.Artifact.Dto
import Scaffold.Artifact.Mapping
import Scaffold.Artifact.Page
import Scaffold.Artifact.Persistence
import Scaffold.Artifact.Query
import Scaffold.Artifact.Service
import Scaffold.Run.Planner

/-! The stages of a run. Each places its artifacts before the next one starts, so that later artifacts
refer to classes by the names that they really have. -/

namespace Scaffold.Run

inductive Stage where
  | validateEntity | repository | dto | mapper | query | dao | service | controller | page
  deriving DecidableEq, Inhabited

def Stage.text : Stage → String
  | .validateEntity => "validate_entity"
  | .repository => "repository"
  | .dto => "dto"
  | .mapper => "mapper"
  | .query => "query"
  | .dao => "dao"
  | .service => "service"
  | .controller => "controller"
  | .page => "page"

/-- The stages behind validation; only projects with pages have the last one. -/
def stages (s : Settings) : List Stage :=
  [.repository, .dto, .mapper, .query, .dao, .service, .controller] ++
    if s.withPage then [.page] else []

namespace Planner

variable {σ : Type} (p : Planner σ)

def isOfKind (kind : ClassKind) (h : Handle) : Bool := h.kind == kind

def repositoryStage : Step σ Unit := do
  let directory ← p.besideContainer "repository"
  setDirs fun d => { d with repository := directory }
  let base ← p.findOrPlace (isOfKind .interface) .baseRepository Artifact.baseRepositoryName directory
    Artifact.baseRepositoryTemplate
  let c ← context
  let _ ← p.place (Artifact.repositoryTemplate c.entity (p.layout.packageOf directory) base) directory

def placeAll (directory : String) : List Template → Step σ Unit
  | [] => return
  | t :: r => do
    let _ ← p.place t directory
    placeAll directory r

def dtoStage : Step σ Unit := do
  let directory ← p.belowService "dto"
  setDirs fun d => { d with dto := directory }
  let base ← class? Artifact.baseDtoName
  let c ← context
  p.placeAll directory
    (Artifact.dtoTemplates c.entity c.settings (p.layout.packageOf directory) base)

def mapperStage : Step σ Unit := do
  let directory ← p.belowService "mapper"
  setDirs fun d => { d with mapper := directory }
  let entityMapper ← p.findOrPlace (isOfKind .interface) .entityMapper Artifact.entityMapperName
    directory Artifact.entityMapperTemplate
  let dto ← require .dto
  let c ← context
  let package := p.layout.packageOf directory
  let _ ← p.place (Artifact.mapperTemplate c.entity package dto entityMapper) directory

/-- The base of queries: a known class, or in projects with super classes a new one. -/
def baseQuery? (directory : String) : Step σ (Option Handle) := do
  match ← classWhere? (isOfKind .plain) Artifact.baseQueryName with
  | some h =>
    setHandle .baseQuery h
    return some h
  | none =>
    if (← context).settings.withSuper then
      return some (← p.findOrPlace (fun _ => true) .baseQuery Artifact.baseQueryName directory
        Artifact.baseQueryTemplate)
    else return none

def queryStage : Step σ Unit := do
  let directory ← p.belowService "query"
  setDirs fun d => { d with query := directory }
  let base ← p.baseQuery? directory
  let c ← context
  let _ ← p.place (Artifact.queryTemplate c.entity (p.layout.packageOf directory) base) directory

def daoStage : Step σ Unit := do
  let directory ← p.besideContainer "dao"
  setDirs fun d => { d with dao := directory }
  let query ← require .query
  let c ← context
  let package := p.layout.packageOf directory
  let _ ← p.place (Artifact.daoTemplate c.entity c.settings package query) directory
  let dao ← require .dao
  let mappers ← p.subdir p.layout.resourcesRoot "mappers"
  setDirs fun d => { d with mappers }
  let c ← context
  let path ← p.placeFile
    (Artifact.Mapping.template { entity := c.entity, dao, softDelete := c.settings.withDeleted }) mappers
  setContext fun c => { c with mappingPath := some path }

def serviceDeps : Step σ Artifact.ServiceDeps := do
  let dto ← require .dto
  let query ← require .query
  let mapper ← require .mapper
  let repository ← require .repository
  return { dto, query, mapper, repository, dao := ← require .dao }

def serviceStage : Step σ Unit := do
  let directory ← p.serviceDir
  let deps ← serviceDeps
  let c ← context
  let plan : Artifact.ServicePlan := { entity := c.entity, settings := c.settings, deps }
  let package := p.layout.packageOf directory
  if c.settings.withInterface then
    let interface ← p.placeClass (Artifact.serviceInterfaceTemplate plan package) directory
    let below ← p.subdir directory "impl"
    setDirs fun d => { d with serviceImpl := below }
    let _ ← p.place (Artifact.serviceImplTemplate plan (p.layout.packageOf below) interface) below
  else
    let _ ← p.place (Artifact.serviceTemplate plan package) directory

def controllerDeps : Step σ Artifact.ControllerDeps := do
  let service ← require .service
  let dto ← require .dto
  let query ← require .query
  let c ← context
  return { service, dto, query, dtoAdd := c.handle? .dtoAdd, dtoUpdate := c.handle? .dtoUpdate }

/-- How a project writes its controllers: on a base class, which also decides how they are called, with
or without documentation, and with a helper for the user. -/
def controllerOptions (s : Symbols) : Artifact.ControllerOptions :=
  let base := s.find? Artifact.baseControllerName
  let resource := s.find? Artifact.baseResourceName
  { suffix := if base.isNone && resource.isSome then "Resource" else "Controller"
    base := base.or resource
    swagger := s.contains Artifact.documentationName
    security := s.find? Artifact.securityName }

def controllerStage : Step σ Unit := do
  let directory ← p.controllerDir
  setDirs fun d => { d with controller := directory }
  let options := controllerOptions (← get).symbols
  let deps ← controllerDeps
  let c ← context
  let controller : Artifact.Controller := { entity := c.entity, settings := c.settings, deps, options }
  let _ ← p.place (controller.template (p.layout.packageOf directory)) directory

def pageStage : Step σ Unit := do
  let views ← p.subdir (← p.subdir p.layout.projectRoot "ui") "views"
  setDirs fun d => { d with pages := views }
  let c ← context
  let url := Artifact.controllerPath c.settings.controllerPath c.entity.baseName
  let path ← p.placeFile
    (Artifact.pageTemplate c.entity (Artifact.dtoFields c.entity none) url) views
  setContext fun c => { c with pagePath := some path }

def perform : Stage → Step σ Unit
  | .validateEntity => return
  | .repository => p.repositoryStage
  | .dto => p.dtoStage
  | .mapper => p.mapperStage
  | .query => p.queryStage
  | .dao => p.daoStage
  | .service => p.serviceStage
  | .controller => p.controllerStage
  | .page => p.pageStage

end Planner

end Scaffold.Run
