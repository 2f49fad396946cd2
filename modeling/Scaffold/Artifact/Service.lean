import Scaffold.Artifact.Accessor
import Scaffold.Settings

/-! Services: one class, or an interface with its implementation. A soft-delete flag, a creation time
and an owner change what the methods do; a super service supplies those that nothing changes. -/

namespace Scaffold.Artifact

open Scaffold.Entity (Field)
open Scaffold.Text

/-- The classes that a service works with. -/
structure ServiceDeps where
  dto : Handle
  query : Handle
  mapper : Handle
  repository : Handle
  dao : Handle

inductive Operation where
  | save | saveAll | delete | findOne | findAll | query | pageQuery | count
  | ownerAdd | ownerUpdate | ownerDelete | checkOwner
  deriving DecidableEq

/-- The operations that guard the rows of an owner. -/
def Operation.owned : Operation → Bool
  | .ownerAdd | .ownerUpdate | .ownerDelete | .checkOwner => true
  | _ => false

def Operation.hidden (o : Operation) : Bool := o == .checkOwner

/-- A method; `inherited` ones come from the super service. -/
structure Method where
  operation : Operation
  signature : String
  body : List String
  inherited : Bool := false

/-- What the methods of a service depend on. -/
structure ServicePlan where
  entity : Entity
  settings : Settings
  deps : ServiceDeps

namespace ServicePlan

def id (p : ServicePlan) : Field :=
  p.entity.idField?.getD { name := "id", typeName := p.entity.idType }

def fieldIf? (p : ServicePlan) (enabled : Bool) (name : String) : Option Field :=
  if enabled then p.entity.findField? name else none

def createTime? (p : ServicePlan) : Option Field :=
  p.fieldIf? p.settings.withCreateTime "createTime"

def deleted? (p : ServicePlan) : Option Field := p.fieldIf? p.settings.withDeleted "deleted"

def owner? (p : ServicePlan) : Option Field := p.fieldIf? p.settings.withUserId "userId"

def superMode (p : ServicePlan) : Bool := p.settings.superService?.isSome

/-- A new record is stamped before it is saved. -/
def stamp (p : ServicePlan) : List String :=
  match p.createTime? with
  | some f =>
    ["if (" ++ unsetCheck p.id "entity" ++ ") \x7b",
     "    entity." ++ setter f ++ "(" ++ nowExpression f ++ ");",
     "\x7d"]
  | none => []

def saveMethods (p : ServicePlan) : List Method :=
  let dto := p.deps.dto.name
  [{ operation := .save
     signature := "void save(" ++ dto ++ " dto)"
     body := [p.entity.name ++ " entity = mapper.toEntity(dto);"] ++ p.stamp
       ++ ["repository.save(entity);"]
     inherited := p.superMode && !p.settings.withCreateTime },
   { operation := .saveAll
     signature := "void save(List<" ++ dto ++ "> dtos)"
     body :=
       if p.settings.withCreateTime then
         ["for (" ++ dto ++ " dto : dtos) \x7b", "    save(dto);", "\x7d"]
       else ["repository.saveAll(mapper.toEntity(dtos));"]
     inherited := p.superMode && !p.settings.withCreateTime }]

def deleteBody (p : ServicePlan) : List String :=
  match p.deleted? with
  | some f =>
    ["repository.findById(id).ifPresent(entity -> \x7b",
     "    entity." ++ setter f ++ "(" ++ flagValue f ++ ");",
     "    repository.save(entity);",
     "\x7d);"]
  | none => ["repository.deleteById(id);"]

def findOneBody (p : ServicePlan) : List String :=
  match p.deleted? with
  | some f =>
    ["return repository.findById(id)",
     "        .filter(entity -> !(" ++ isFlagged f "entity" ++ "))",
     "        .map(mapper::toDto);"]
  | none => ["return repository.findById(id).map(mapper::toDto);"]

def rowMethods (p : ServicePlan) : List Method :=
  let inherited := p.superMode && p.deleted?.isNone
  [{ operation := .delete
     signature := "void delete(" ++ p.entity.idType ++ " id)"
     body := p.deleteBody
     inherited },
   { operation := .findOne
     signature := "Optional<" ++ p.deps.dto.name ++ "> findOne(" ++ p.entity.idType ++ " id)"
     body := p.findOneBody
     inherited }]

def pageBody (p : ServicePlan) : List String :=
  ["PageHelper.startPage(query.getPage(), query.getSize());",
   "PageInfo<" ++ p.entity.name ++ "> page = new PageInfo<>(dao.query(query));",
   "PageInfo<" ++ p.deps.dto.name ++ "> result = new PageInfo<>(mapper.toDto(page.getList()));",
   "result.setTotal(page.getTotal());",
   "result.setPageNum(page.getPageNum());",
   "result.setPageSize(page.getPageSize());",
   "result.setPages(page.getPages());",
   "return result;"]

def readMethods (p : ServicePlan) : List Method :=
  let dto := p.deps.dto.name
  let query := p.deps.query.name
  [{ operation := .findAll
     signature := "List<" ++ dto ++ "> findAll()"
     body := ["return mapper.toDto(dao.findAll());"]
     inherited := p.superMode },
   { operation := .query
     signature := "List<" ++ dto ++ "> query(" ++ query ++ " query)"
     body := ["return mapper.toDto(dao.query(query));"]
     inherited := p.superMode },
   { operation := .pageQuery
     signature := "PageInfo<" ++ dto ++ "> pageQuery(" ++ query ++ " query)"
     body := p.pageBody
     inherited := p.superMode },
   { operation := .count
     signature := "long count(" ++ query ++ " query)"
     body := ["return dao.count(query);"]
     inherited := p.superMode }]

/-- The row is loaded and its owner checked before anything happens to it. -/
def loadOwned (p : ServicePlan) (idText : String) : List String :=
  [p.entity.name ++ " entity = repository.findById(" ++ idText ++ ")",
   "        .orElseThrow(() -> new AccessDeniedException(\"Record not found: \" + " ++ idText ++ "));",
   "checkOwner(userId, entity);"]

def ownerMethodsOf (p : ServicePlan) (owner : Field) : List Method :=
  let dto := p.deps.dto.name
  let user := owner.wrapperType
  let dtoId := readOf p.id "dto"
  let setOwner := "dto." ++ setter owner ++ "(userId);"
  [{ operation := .ownerAdd
     signature := "void add(" ++ user ++ " userId, " ++ dto ++ " dto)"
     body := ["dto." ++ setter p.id ++ "(null);", setOwner, "save(dto);"] },
   { operation := .ownerUpdate
     signature := "void update(" ++ user ++ " userId, " ++ dto ++ " dto)"
     body :=
       ["if (" ++ dtoId ++ " == null) \x7b",
        "    throw new AccessDeniedException(\"Record id is required\");",
        "\x7d"] ++ p.loadOwned dtoId ++ [setOwner, "save(dto);"] },
   { operation := .ownerDelete
     signature := "void delete(" ++ user ++ " userId, " ++ p.entity.idType ++ " id)"
     body := p.loadOwned "id" ++ ["delete(id);"] },
   { operation := .checkOwner
     signature := "void checkOwner(" ++ user ++ " userId, " ++ p.entity.name ++ " entity)"
     body :=
       ["if (!Objects.equals(userId, " ++ readOf owner "entity" ++ ")) \x7b",
        "    throw new AccessDeniedException(\"No permission to modify this record\");",
        "\x7d"] }]

def ownerMethods (p : ServicePlan) : List Method :=
  match p.owner? with
  | some owner => p.ownerMethodsOf owner
  | none => []

def methods (p : ServicePlan) : List Method :=
  p.saveMethods ++ p.rowMethods ++ p.readMethods ++ p.ownerMethods

def stampImports (p : ServicePlan) : List String :=
  match p.createTime? with
  | some f =>
    typeImports f ++
      if f.rawType == "Timestamp" && (f.qualifiedType.bind nonempty?).isNone then
        ["java.sql.Timestamp"]
      else []
  | none => []

def ownerTypeImports (p : ServicePlan) : List String :=
  match p.owner? with
  | some f => typeImports f
  | none => []

/-- What the bodies of the methods import. -/
def bodyImports (p : ServicePlan) : List String :=
  p.stampImports ++ ((p.deleted?.map flagImports).getD []) ++ p.ownerTypeImports
    ++ if p.owner?.isSome then
        ["org.springframework.security.access.AccessDeniedException", "java.util.Objects"]
      else []

def idImports (e : Entity) : List String := (e.idField?.map typeImports).getD []

/-- What the signatures of the methods import. -/
def signatureImports (p : ServicePlan) : List String :=
  ["java.util.List", "java.util.Optional", "com.github.pagehelper.PageInfo",
   p.entity.qualifiedName, p.deps.dto.qualifiedName, p.deps.query.qualifiedName]
    ++ idImports p.entity

/-- The classes that are injected. -/
def members (p : ServicePlan) : List Member :=
  [⟨p.deps.repository.name, "repository"⟩, ⟨p.deps.mapper.name, "mapper"⟩, ⟨p.deps.dao.name, "dao"⟩]

def memberImports (p : ServicePlan) : List String :=
  [p.deps.repository.qualifiedName, p.deps.mapper.qualifiedName, p.deps.dao.qualifiedName]
    ++ if p.superMode then [] else ["javax.annotation.Resource"]

def memberText (p : ServicePlan) (className : String) : String :=
  if p.superMode then
    unlines ((p.members.map fun m => "    private final " ++ m.declared ++ ";")
      ++ ["",
          "    public " ++ className ++ "(" ++ ", ".intercalate (p.members.map (·.declared)) ++ ") \x7b",
          "        super(repository, mapper, dao);"]
      ++ (p.members.map fun m => "        this." ++ m.name ++ " = " ++ m.name ++ ";")
      ++ ["    \x7d"])
  else paragraphs (p.members.map fun m => "    @Resource\n    private " ++ m.declared ++ ";")

end ServicePlan

def Method.render (m : Method) (override : Bool) : String :=
  (if override && !m.operation.hidden then "    @Override\n" else "")
    ++ "    " ++ (if m.operation.hidden then "private" else "public") ++ " " ++ m.signature ++ " \x7b\n"
    ++ indent 8 (unlines m.body) ++ "\n    \x7d"

/-- A class that holds the service: the service itself, or the implementation of an interface. -/
structure ServiceClass where
  name : String
  kind : ArtifactKind
  plan : ServicePlan
  interface? : Option Handle := none

namespace ServiceClass

def emitted (c : ServiceClass) : List Method := c.plan.methods.filter (!·.inherited)

/-- A method overrides one of the interface, or one of the super service. -/
def overrides (c : ServiceClass) (m : Method) : Bool :=
  c.interface?.isSome || (c.plan.superMode && !m.operation.owned)

def superImports (name : Option String) : List String :=
  match name with
  | some n => if contains n "." then [n] else []
  | none => []

def heritage (c : ServiceClass) : String :=
  let p := c.plan
  let parent := match p.settings.superService? with
    | some s => " extends " ++ lastSegment s ++ "<" ++ p.deps.dto.name ++ ", " ++ p.entity.name ++ ", "
        ++ p.deps.query.name ++ ">"
    | none => ""
  parent ++ match c.interface? with
    | some i => " implements " ++ i.name
    | none => ""

def imports (c : ServiceClass) : List String :=
  c.plan.signatureImports
    ++ ["org.springframework.stereotype.Service",
        "org.springframework.transaction.annotation.Transactional"]
    ++ c.plan.bodyImports
    ++ superImports c.plan.settings.superService?
    ++ (c.interface?.map (·.qualifiedName)).toList
    ++ (if c.emitted.any (·.operation == .pageQuery) then ["com.github.pagehelper.PageHelper"] else [])
    ++ c.plan.memberImports

def body (c : ServiceClass) : String :=
  "@Service\n@Transactional\npublic class " ++ c.name ++ c.heritage ++ " \x7b\n"
    ++ paragraphs (c.plan.memberText c.name :: c.emitted.map fun m => m.render (c.overrides m))
    ++ "\n\x7d\n"

def template (c : ServiceClass) (package : String) : Template :=
  javaTemplate c.kind c.name package c.imports c.body

end ServiceClass

/-- The service as one class. -/
def serviceTemplate (p : ServicePlan) (package : String) : Template :=
  ServiceClass.template { name := p.entity.baseName ++ "Service", kind := .service, plan := p } package

/-- The implementation of a service interface. -/
def serviceImplTemplate (p : ServicePlan) (package : String) (interface : Handle) : Template :=
  ServiceClass.template
    { name := p.entity.baseName ++ "ServiceImpl", kind := .serviceImpl, plan := p,
      interface? := some interface } package

/-- The methods that an interface declares. -/
def interfaceMethods (p : ServicePlan) : List Method := p.methods.filter (!·.operation.hidden)

def serviceInterfaceTemplate (p : ServicePlan) (package : String) : Template :=
  let name := p.entity.baseName ++ "Service"
  javaTemplate .service name package (p.signatureImports ++ p.ownerTypeImports)
    ("public interface " ++ name ++ " \x7b\n"
      ++ paragraphs ((interfaceMethods p).map fun m => "    " ++ m.signature ++ ";") ++ "\n\x7d\n")

end Scaffold.Artifact
