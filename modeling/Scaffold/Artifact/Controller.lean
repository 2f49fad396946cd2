import Scaffold.Artifact.Imports
import Scaffold.Artifact.Members
import Scaffold.Settings

/-! Controllers: the web addresses of an entity and the handlers behind them. -/

namespace Scaffold.Artifact

open Scaffold.Entity (Field)
open Scaffold.Text

/-- The address of a controller: the segments of the configured path, then the entity. -/
def controllerSegments (path base : String) : List (List Char) :=
  (segments '/' path.toList).filter (!·.isEmpty) ++ [(Name.kebab base).toList]

def controllerPath (path base : String) : String :=
  String.ofList ((controllerSegments path base).flatMap ('/' :: ·))

def baseControllerName : String := "BaseController"

/-- The base class of projects that call their controllers resources. -/
def baseResourceName : String := "BaseResource"

def securityName : String := "SecurityUtils"

/-- The class that tells whether a project documents its controllers. -/
def documentationName : String := "io.swagger.annotations.Api"

structure ControllerDeps where
  service : Handle
  dto : Handle
  query : Handle
  dtoAdd : Option Handle := none
  dtoUpdate : Option Handle := none

/-- What a project offers to controllers: a base class, API documentation, the current user. -/
structure ControllerOptions where
  suffix : String := "Controller"
  base : Option Handle := none
  swagger : Bool := false
  security : Option Handle := none

inductive Verb where
  | get | post | put | delete
  deriving DecidableEq

def Verb.mapping : Verb → String
  | .get => "GetMapping"
  | .post => "PostMapping"
  | .put => "PutMapping"
  | .delete => "DeleteMapping"

/-- A handler: the parameters in `signature` and the statements in `body`. -/
structure Handler where
  verb : Verb
  path : String
  summary : String
  signature : String
  body : List String
  throws : Option String := none
  override : Bool := false

structure Controller where
  entity : Entity
  settings : Settings
  deps : ControllerDeps
  options : ControllerOptions

/-- How the current user reaches a handler: as a parameter, or by a statement at its start. -/
structure UserBinding where
  parameter : String := ""
  statements : List String := []
  imports : List String := []

def webPackage : String := "org.springframework.web.bind.annotation"

def webImport (name : String) : String := webPackage ++ "." ++ name

namespace Controller

def service (c : Controller) : String := Name.lowerFirst c.deps.service.name

def name (c : Controller) : String := c.entity.baseName ++ c.options.suffix

def superMode (c : Controller) : Bool := c.settings.superController?.isSome

def owner? (c : Controller) : Option Field := c.entity.findField? "userId"

def userType (c : Controller) : String := (c.owner?.map (·.wrapperType)).getD "Long"

def ownerImports (c : Controller) : List String := (c.owner?.map typeImports).getD []

def idImports (c : Controller) : List String := (c.entity.idField?.map typeImports).getD []

/-- The call of a service method. -/
def call (c : Controller) (method arguments : String) : String :=
  c.service ++ "." ++ method ++ "(" ++ arguments ++ ")"

def securityLookup (c : Controller) (security : Handle) : String :=
  c.userType ++ " userId = " ++ security.name ++ ".getCurrentUserId();"

/-- The user as a request attribute, unless the project knows the current user. -/
def userParameter (c : Controller) : UserBinding :=
  match c.options.security with
  | some s =>
    { statements := [c.securityLookup s], imports := c.ownerImports ++ [s.qualifiedName] }
  | none =>
    { parameter := ", @RequestAttribute(\"userId\") " ++ c.userType ++ " userId"
      imports := c.ownerImports ++ [webImport "RequestAttribute"] }

/-- The user read inside the body, for handlers whose parameters are given. -/
def userLookup (c : Controller) : UserBinding :=
  match c.options.security with
  | some s =>
    { statements := [c.securityLookup s], imports := c.ownerImports ++ [s.qualifiedName] }
  | none =>
    { statements :=
        [c.userType ++ " userId = (" ++ c.userType
           ++ ") RequestContextHolder.currentRequestAttributes()",
         "        .getAttribute(\"userId\", RequestAttributes.SCOPE_REQUEST);"]
      imports := c.ownerImports
        ++ ["org.springframework.web.context.request.RequestAttributes",
            "org.springframework.web.context.request.RequestContextHolder"] }

def userBinding? (c : Controller) : Option UserBinding :=
  if c.settings.withUserId then some c.userParameter else none

/-- The body that passes a value on, for the owner when there is one. -/
def passOn (c : Controller) (owned plain value : String) : List String :=
  match c.userBinding? with
  | some u => u.statements ++ [c.call owned ("userId, " ++ value) ++ ";"]
  | none => [c.call plain value ++ ";"]

def userParameterText (c : Controller) : String := (c.userBinding?.map (·.parameter)).getD ""

def userImports (c : Controller) : List String := (c.userBinding?.map (·.imports)).getD []

def deleteSignature (c : Controller) (more : String) : String :=
  "void delete(@PathVariable(\"id\") " ++ c.entity.idType ++ " id" ++ more ++ ")"

def bodySignature (method dto more : String) : String :=
  "void " ++ method ++ "(@RequestBody @Valid " ++ dto ++ " dto" ++ more ++ ")"

def crudHandlers (c : Controller) : List Handler :=
  let dto := c.deps.dto.name
  let query := c.deps.query.name
  let more := c.userParameterText
  [{ verb := .post, path := "/add", summary := "Add"
     signature := bodySignature "add" dto more
     body := c.passOn "add" "save" "dto" },
   { verb := .put, path := "/update", summary := "Update"
     signature := bodySignature "update" dto more
     body := c.passOn "update" "save" "dto" },
   { verb := .delete, path := "/delete/\x7bid\x7d", summary := "Delete"
     signature := c.deleteSignature more
     body := c.passOn "delete" "delete" "id" },
   { verb := .get, path := "/list", summary := "List all"
     signature := "List<" ++ dto ++ "> list()"
     body := ["return " ++ c.call "findAll" "" ++ ";"] },
   { verb := .post, path := "/page-query", summary := "Page query"
     signature := "PageInfo<" ++ dto ++ "> pageQuery(@RequestBody " ++ query ++ " query)"
     body := ["return " ++ c.call "pageQuery" "query" ++ ";"] },
   { verb := .post, path := "/count", summary := "Count"
     signature := "long count(@RequestBody " ++ query ++ " query)"
     body := ["return " ++ c.call "count" "query" ++ ";"] }]

/-- The mappings with which rows are written. -/
def writeImports : List String :=
  "javax.validation.Valid" ::
    ["RequestBody", "PathVariable", "PostMapping", "PutMapping", "DeleteMapping"].map webImport

def crudImports (c : Controller) : List String :=
  c.idImports ++ writeImports
    ++ ["java.util.List", "com.github.pagehelper.PageInfo", webImport "GetMapping"]
    ++ c.userImports

/-- Whether an incoming class has to be copied into the one that the service takes. -/
def isCopied (c : Controller) (incoming : Option Handle) : Bool :=
  incoming.any (·.name != c.deps.dto.name)

def ownedCall (c : Controller) (incoming : Option Handle) (method : String) : List String :=
  let dto := c.deps.dto.name
  c.userLookup.statements ++
    if c.isCopied incoming then
      [dto ++ " target = new " ++ dto ++ "();", "BeanUtils.copyProperties(dto, target);",
       c.call method "userId, target" ++ ";"]
    else [c.call method "userId, dto" ++ ";"]

def incomingName (c : Controller) (incoming : Option Handle) : String :=
  (incoming.getD c.deps.dto).name

/-- The inherited handlers that write rows, replaced by ones that name the owner. -/
def ownerOverrides (c : Controller) : List Handler :=
  [{ verb := .post, path := "/add", summary := "Add", override := true
     signature := bodySignature "add" (c.incomingName c.deps.dtoAdd) ""
     body := c.ownedCall c.deps.dtoAdd "add" },
   { verb := .put, path := "/update", summary := "Update", override := true
     signature := bodySignature "update" (c.incomingName c.deps.dtoUpdate) ""
     body := c.ownedCall c.deps.dtoUpdate "update" },
   { verb := .delete, path := "/delete/\x7bid\x7d", summary := "Delete", override := true
     signature := c.deleteSignature ""
     body := c.userLookup.statements ++ [c.call "delete" "userId, id" ++ ";"] }]

def overrideImports (c : Controller) : List String :=
  c.userLookup.imports ++ c.idImports ++ writeImports
    ++ if c.isCopied c.deps.dtoAdd || c.isCopied c.deps.dtoUpdate then
        ["org.springframework.beans.BeanUtils"]
      else []

def excelHandlers (c : Controller) : List Handler :=
  let dto := c.deps.dto.name
  let kebab := Name.kebab c.entity.baseName
  let read := "List<" ++ dto ++ "> dtos = EasyExcel.read(file.getInputStream()).head(" ++ dto
    ++ ".class).sheet().doReadSync();"
  let upload := match c.userBinding? with
    | some u =>
      u.statements ++ [read, "for (" ++ dto ++ " dto : dtos) \x7b",
        "    " ++ c.call "add" "userId, dto" ++ ";", "\x7d"]
    | none => [read, c.call "save" "dtos" ++ ";"]
  [{ verb := .get, path := "/template", summary := "Download the import template"
     signature := "void template(HttpServletResponse response)"
     body := ["writeExcel(response, \"" ++ kebab ++ "-template\", new ArrayList<>());"]
     throws := some "IOException" },
   { verb := .post, path := "/upload", summary := "Import from Excel"
     signature := "void upload(@RequestParam(\"file\") MultipartFile file" ++ c.userParameterText ++ ")"
     body := upload
     throws := some "IOException" },
   { verb := .post, path := "/download", summary := "Export to Excel"
     signature := "void download(@RequestBody " ++ c.deps.query.name
       ++ " query, HttpServletResponse response)"
     body := ["writeExcel(response, \"" ++ kebab ++ "\", " ++ c.call "query" "query" ++ ");"]
     throws := some "IOException" }]

def excelImports (c : Controller) : List String :=
  ["com.alibaba.excel.EasyExcel", "java.io.IOException", "java.util.ArrayList", "java.util.List",
   "javax.servlet.http.HttpServletResponse", "org.springframework.web.multipart.MultipartFile",
   "java.net.URLEncoder", "java.nio.charset.StandardCharsets"]
    ++ ["GetMapping", "PostMapping", "RequestBody", "RequestParam"].map webImport
    ++ c.userImports

def excelType : String := "application/vnd.openxmlformats-officedocument.spreadsheetml.sheet"

/-- The helper that sends rows as a spreadsheet. -/
def excelWriter (c : Controller) : String :=
  let dto := c.deps.dto.name
  unlines
    ["    private void writeExcel(HttpServletResponse response, String fileName, List<" ++ dto
       ++ "> data) throws IOException \x7b",
     "        response.setContentType(\"" ++ excelType ++ "\");",
     "        response.setCharacterEncoding(\"utf-8\");",
     "        String encoded = URLEncoder.encode(fileName, StandardCharsets.UTF_8.name());",
     "        response.setHeader(\"Content-disposition\", \"attachment;filename=\" + encoded + \".xlsx\");",
     "        EasyExcel.write(response.getOutputStream(), " ++ dto ++ ".class).sheet(\""
       ++ c.entity.baseName ++ "\").doWrite(data);",
     "    \x7d"]

/-- The handlers of a controller. Behind a super controller only those remain that name an owner. -/
def handlers (c : Controller) : List Handler :=
  (if !c.superMode then c.crudHandlers
   else if c.settings.withUserId then c.ownerOverrides
   else [])
    ++ if c.settings.excel then c.excelHandlers else []

def handlerImports (c : Controller) : List String :=
  (if !c.superMode then c.crudImports
   else if c.settings.withUserId then c.overrideImports
   else [])
    ++ if c.settings.excel then c.excelImports else []

/-- The type arguments of the super controller. -/
def generics (c : Controller) : List Handle :=
  [c.deps.dto] ++ c.deps.dtoAdd.toList ++ c.deps.dtoUpdate.toList ++ [c.deps.query]

def heritage (c : Controller) : String :=
  match c.settings.superController? with
  | some s =>
    " extends " ++ lastSegment s ++ "<" ++ ", ".intercalate (c.generics.map (·.name)) ++ ">"
  | none =>
    match c.options.base with
    | some b => " extends " ++ b.name
    | none => ""

def heritageImports (c : Controller) : List String :=
  match c.settings.superController? with
  | some s => (if contains s "." then [s] else []) ++ c.generics.map (·.qualifiedName)
  | none => (c.options.base.map (·.qualifiedName)).toList ++ ["javax.annotation.Resource"]

def memberText (c : Controller) : String :=
  let type := c.deps.service.name
  if c.superMode then
    unlines
      ["    private final " ++ type ++ " " ++ c.service ++ ";",
       "",
       "    public " ++ c.name ++ "(" ++ type ++ " service) \x7b",
       "        super(service);",
       "        this." ++ c.service ++ " = service;",
       "    \x7d"]
  else "    @Resource\n    private " ++ type ++ " " ++ c.service ++ ";"

def swaggerImports (c : Controller) : List String :=
  if c.options.swagger then
    documentationName
      :: if c.handlers.isEmpty then [] else ["io.swagger.annotations.ApiOperation"]
  else []

def tag (c : Controller) : String := (c.entity.comment.bind nonempty?).getD c.entity.baseName

def header (c : Controller) : List String :=
  ["@RestController",
   "@RequestMapping(\"" ++ controllerPath c.settings.controllerPath c.entity.baseName ++ "\")"]
    ++ if c.options.swagger then ["@Api(tags = \"" ++ stringLiteral c.tag ++ "\")"] else []

def imports (c : Controller) : List String :=
  [webImport "RestController", webImport "RequestMapping", c.deps.service.qualifiedName,
   c.deps.dto.qualifiedName, c.deps.query.qualifiedName]
    ++ c.heritageImports ++ c.handlerImports ++ c.swaggerImports

end Controller

def Handler.render (h : Handler) (swagger : Bool) : String :=
  unlines
    ((if h.override then ["    @Override"] else [])
      ++ ["    @" ++ h.verb.mapping ++ "(\"" ++ h.path ++ "\")"]
      ++ (if swagger then ["    @ApiOperation(\"" ++ stringLiteral h.summary ++ "\")"] else [])
      ++ ["    public " ++ h.signature ++ ((h.throws.map (" throws " ++ ·)).getD "") ++ " \x7b",
          indent 8 (unlines h.body),
          "    \x7d"])

namespace Controller

def body (c : Controller) : String :=
  unlines c.header ++ "\npublic class " ++ c.name ++ c.heritage ++ " \x7b\n"
    ++ paragraphs ([c.memberText] ++ c.handlers.map (·.render c.options.swagger)
      ++ if c.settings.excel then [c.excelWriter] else [])
    ++ "\n\x7d\n"

def template (c : Controller) (package : String) : Template :=
  javaTemplate .controller c.name package c.imports c.body

end Controller

end Scaffold.Artifact
