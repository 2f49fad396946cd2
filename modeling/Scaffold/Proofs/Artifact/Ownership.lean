import Scaffold.Proofs.Artifact.Rendering

/-! Rows of an owner: every way of writing them goes through the check of the owner. The handlers that write are
read as small programs, of which the variables and the calls of the service are known. -/

namespace Scaffold.Artifact

open Scaffold.Entity (Field)
open Scaffold.Text

/-- A statement of a handler that writes rows. Only calls name the service. -/
inductive Statement where
  | declare (type name : String) (value : List String)
  | call (method : String) (arguments : List String)
  | copy (source target : String)
  | each (type name list : String) (body : Statement)

namespace Statement

def lines (service : String) : Statement → List String
  | declare type name value => (type ++ " " ++ name ++ " = " ++ value.headD "") :: value.tail
  | call method arguments => [service ++ "." ++ method ++ "(" ++ ", ".intercalate arguments ++ ");"]
  | copy source target => ["BeanUtils.copyProperties(" ++ source ++ ", " ++ target ++ ");"]
  | each type name list body =>
    ("for (" ++ type ++ " " ++ name ++ " : " ++ list ++ ") \x7b") :: (body.lines service).map ("    " ++ ·)
      ++ ["\x7d"]

def binders : Statement → List String
  | declare _ name _ => [name]
  | call _ _ | copy _ _ => []
  | each _ name _ body => name :: body.binders

def calls : Statement → List (String × List String)
  | call method arguments => [(method, arguments)]
  | each _ _ _ body => body.calls
  | declare _ _ _ | copy _ _ => []

/-- Every variable that is passed on is bound before. -/
def closed (scope : List String) : Statement → Bool
  | declare _ _ _ => true
  | call _ arguments => arguments.all scope.contains
  | copy source target => scope.contains source && scope.contains target
  | each _ name list body => scope.contains list && body.closed (name :: scope)

end Statement

structure Parameter where
  annotations : String
  type : String
  name : String

def Parameter.text (p : Parameter) : String := p.annotations ++ p.type ++ " " ++ p.name

structure Program where
  verb : Verb
  path : String
  summary : String
  method : String
  parameters : List Parameter
  statements : List Statement
  throws : Option String := none
  override : Bool := false

namespace Program

def handler (q : Program) (service : String) : Handler where
  verb := q.verb
  path := q.path
  summary := q.summary
  signature := "void " ++ q.method ++ "(" ++ ", ".intercalate (q.parameters.map Parameter.text) ++ ")"
  body := q.statements.flatMap (·.lines service)
  throws := q.throws
  override := q.override

def binders (q : Program) : List String := q.parameters.map (·.name) ++ q.statements.flatMap (·.binders)

def calls (q : Program) : List (String × List String) := q.statements.flatMap (·.calls)

def closedFrom : List String → List Statement → Bool
  | _, [] => true
  | scope, s :: rest => s.closed scope && closedFrom (s.binders ++ scope) rest

def closed (q : Program) : Bool := closedFrom (q.parameters.map (·.name)) q.statements

/-- A program that calls the service once, with the user first, and that gets hold of the user once. -/
structure Guarded (q : Program) : Prop where
  call : ∃ method ∈ ["add", "update", "delete"], ∃ value, q.calls = [(method, ["userId", value])]
  bound : q.binders.count "userId" = 1
  closed : q.closed = true

end Program

namespace Controller

def lookup (c : Controller) : Statement :=
  .declare c.userType "userId" (match c.options.security with
    | some s => [s.name ++ ".getCurrentUserId();"]
    | none => ["(" ++ c.userType ++ ") RequestContextHolder.currentRequestAttributes()",
        "        .getAttribute(\"userId\", RequestAttributes.SCOPE_REQUEST);"])

/-- The user as a parameter, unless the project knows the current user. -/
def passed (c : Controller) : List Parameter × List Statement :=
  match c.options.security with
  | some _ => ([], [c.lookup])
  | none => ([⟨"@RequestAttribute(\"userId\") ", c.userType, "userId"⟩], [])

/-- The user in a handler; overriding ones have the parameters of the super controller. -/
def user (c : Controller) : List Parameter × List Statement :=
  if c.superMode then ([], [c.lookup]) else c.passed

/-- What is sent, passed on to the service as the class that it takes. -/
def handOver (c : Controller) (incoming : Option Handle) (method : String) : List Statement :=
  if c.isCopied incoming then
    [.declare c.deps.dto.name "target" ["new " ++ c.deps.dto.name ++ "();"], .copy "dto" "target",
     .call method ["userId", "target"]]
  else [.call method ["userId", "dto"]]

/-- The handlers that write one row. Those of a super controller say which classes come in. -/
def rowPrograms (c : Controller) : List Program :=
  let incoming (dto : Option Handle) : Option Handle := if c.superMode then dto else none
  [{ verb := .post, path := "/add", summary := "Add", method := "add", override := c.superMode
     parameters := ⟨"@RequestBody @Valid ", c.incomingName (incoming c.deps.dtoAdd), "dto"⟩ :: c.user.1
     statements := c.user.2 ++ c.handOver (incoming c.deps.dtoAdd) "add" },
   { verb := .put, path := "/update", summary := "Update", method := "update", override := c.superMode
     parameters := ⟨"@RequestBody @Valid ", c.incomingName (incoming c.deps.dtoUpdate), "dto"⟩ :: c.user.1
     statements := c.user.2 ++ c.handOver (incoming c.deps.dtoUpdate) "update" },
   { verb := .delete, path := "/delete/\x7bid\x7d", summary := "Delete", method := "delete", override := c.superMode
     parameters := ⟨"@PathVariable(\"id\") ", c.entity.idType, "id"⟩ :: c.user.1
     statements := c.user.2 ++ [.call "delete" ["userId", "id"]] }]

def uploadProgram (c : Controller) : Program :=
  let dto := c.deps.dto.name
  { verb := .post, path := "/upload", summary := "Import from Excel", method := "upload"
    parameters := ⟨"@RequestParam(\"file\") ", "MultipartFile", "file"⟩ :: c.passed.1
    statements := c.passed.2 ++
      [.declare ("List<" ++ dto ++ ">") "dtos"
         ["EasyExcel.read(file.getInputStream()).head(" ++ dto ++ ".class).sheet().doReadSync();"],
       .each dto "dto" "dtos" (.call "add" ["userId", "dto"])]
    throws := some "IOException" }

def writePrograms (c : Controller) : List Program :=
  c.rowPrograms ++ if c.settings.excel then [c.uploadProgram] else []

def writePaths : List String := ["/add", "/update", "/delete/\x7bid\x7d", "/upload"]

inductive BindsUser : List Parameter × List Statement → Prop
  | parameter (annotations type : String) : BindsUser ([⟨annotations, type, "userId"⟩], [])
  | statement (type : String) (value : List String) : BindsUser ([], [.declare type "userId" value])

theorem passed_binds (c : Controller) : BindsUser c.passed := by
  unfold passed
  split
  · exact .statement _ _
  · exact .parameter _ _

theorem user_binds (c : Controller) : BindsUser c.user := by
  unfold user
  split
  · exact .statement _ _
  · exact c.passed_binds

theorem guarded_of_binding {u : List Parameter × List Statement} (hu : BindsUser u) {ss : List Statement}
    {annotations type name : String} (hname : name ≠ "userId")
    {method value : String} (hm : method ∈ ["add", "update", "delete"])
    (hcalls : ss.flatMap (·.calls) = [(method, ["userId", value])])
    (hfree : "userId" ∉ ss.flatMap (·.binders))
    (hclosed : ∀ scope : List String, name ∈ scope → "userId" ∈ scope → Program.closedFrom scope ss = true)
    {q : Program} (hp : q.parameters = ⟨annotations, type, name⟩ :: u.1) (hs : q.statements = u.2 ++ ss) :
    q.Guarded := by
  have hcount : (ss.flatMap (·.binders)).count "userId" = 0 := List.count_eq_zero.2 hfree
  -- Either way the user is in scope before the first statement of `ss`.
  cases hu with
  | parameter annotations' type' =>
    refine ⟨⟨method, hm, value, ?_⟩, ?_, ?_⟩
    · simp [Program.calls, hs, hcalls]
    · simp [Program.binders, hp, hs, hcount, hname]
    · rw [Program.closed, hp, hs]
      exact hclosed _ (by simp) (by simp)
  | statement type' lines =>
    refine ⟨⟨method, hm, value, ?_⟩, ?_, ?_⟩
    · simp [Program.calls, Statement.calls, hs, hcalls]
    · simp [Program.binders, Statement.binders, hp, hs, hcount, hname]
    · rw [Program.closed, hp, hs]
      exact hclosed _ (by simp) (by simp [Statement.binders])

theorem handOver_calls (c : Controller) (incoming : Option Handle) (method : String) :
    ∃ value, (c.handOver incoming method).flatMap (·.calls) = [(method, ["userId", value])] := by
  unfold handOver
  split
  · exact ⟨"target", rfl⟩
  · exact ⟨"dto", rfl⟩

theorem handOver_binders (c : Controller) (incoming : Option Handle) (method : String) :
    "userId" ∉ (c.handOver incoming method).flatMap (·.binders) := by
  unfold handOver
  split <;> simp [Statement.binders]

theorem handOver_closed (c : Controller) (incoming : Option Handle) (method : String) {scope : List String}
    (hdto : "dto" ∈ scope) (huser : "userId" ∈ scope) :
    Program.closedFrom scope (c.handOver incoming method) = true := by
  unfold handOver
  split <;> simp [Program.closedFrom, Statement.closed, Statement.binders, hdto, huser]

theorem guarded_handOver {c : Controller} {u : List Parameter × List Statement} (hu : BindsUser u)
    (incoming : Option Handle) {method : String} (hm : method ∈ ["add", "update", "delete"]) {q : Program}
    {annotations type : String} (hp : q.parameters = ⟨annotations, type, "dto"⟩ :: u.1)
    (hs : q.statements = u.2 ++ c.handOver incoming method) : q.Guarded := by
  obtain ⟨value, hcalls⟩ := c.handOver_calls incoming method
  exact guarded_of_binding hu (by decide) hm hcalls (c.handOver_binders incoming method)
    (fun _ => c.handOver_closed incoming method) hp hs

theorem rowPrograms_guarded (c : Controller) : ∀ q ∈ c.rowPrograms, q.Guarded := by
  unfold rowPrograms
  simp only [List.forall_mem_cons]
  refine ⟨?_, ?_, ?_, nofun⟩
  · exact guarded_handOver c.user_binds _ (by simp) rfl rfl
  · exact guarded_handOver c.user_binds _ (by simp) rfl rfl
  · refine guarded_of_binding c.user_binds (by decide) (by simp) rfl List.not_mem_nil ?_ rfl rfl
    intro scope hid huser
    simp [Program.closedFrom, Statement.closed, hid, huser]

theorem uploadProgram_guarded (c : Controller) : c.uploadProgram.Guarded := by
  refine guarded_of_binding c.passed_binds (by decide) (by simp) rfl ?_ ?_ rfl rfl
  · simp [Statement.binders]
  · intro scope _ huser
    simp [Program.closedFrom, Statement.closed, Statement.binders, huser]

theorem writePrograms_guarded (c : Controller) : ∀ q ∈ c.writePrograms, q.Guarded := by
  unfold writePrograms
  refine List.forall_mem_append.2 ⟨c.rowPrograms_guarded, ?_⟩
  split
  · exact List.forall_mem_singleton.2 c.uploadProgram_guarded
  · exact nofun

def moreText (ps : List Parameter) : String := String.join (ps.map (", " ++ ·.text))

theorem intercalate_parameters (p : Parameter) (ps : List Parameter) :
    ", ".intercalate ((p :: ps).map Parameter.text) = p.text ++ moreText ps := by
  induction ps generalizing p with
  | nil => simp [moreText]
  | cons p' rest ih =>
    rw [List.map_cons, List.map_cons, String.intercalate_cons_cons, ← List.map_cons, ih]
    simp [moreText, String.append_assoc]

theorem userParameterText_eq {c : Controller} (hu : c.settings.withUserId = true) :
    c.userParameterText = moreText c.passed.1 := by
  unfold userParameterText userBinding? userParameter passed
  rw [if_pos hu]
  cases c.options.security with
  | some _ => rfl
  | none => simp [moreText, Parameter.text, ← String.toList_inj]

theorem bodySignature_eq (method dto : String) (ps : List Parameter) :
    bodySignature method dto (moreText ps) = "void " ++ method ++ "(" ++
      ", ".intercalate ((⟨"@RequestBody @Valid ", dto, "dto"⟩ :: ps).map Parameter.text) ++ ")" := by
  rw [intercalate_parameters]
  simp [bodySignature, Parameter.text, ← String.toList_inj]

theorem deleteSignature_eq (c : Controller) (ps : List Parameter) :
    c.deleteSignature (moreText ps) = "void " ++ "delete" ++ "(" ++
      ", ".intercalate ((⟨"@PathVariable(\"id\") ", c.entity.idType, "id"⟩ :: ps).map Parameter.text) ++ ")" := by
  rw [intercalate_parameters]
  unfold deleteSignature Parameter.text
  apply String.toList_inj.1
  simp only [String.toList_append, List.append_assoc]
  rfl

theorem uploadSignature_eq (ps : List Parameter) :
    "void upload(@RequestParam(\"file\") MultipartFile file" ++ moreText ps ++ ")" = "void " ++ "upload" ++ "(" ++
      ", ".intercalate ((⟨"@RequestParam(\"file\") ", "MultipartFile", "file"⟩ :: ps).map Parameter.text) ++ ")" := by
  rw [intercalate_parameters]
  unfold Parameter.text
  apply String.toList_inj.1
  simp only [String.toList_append, List.append_assoc]
  rfl

theorem call_eq (c : Controller) (method value : String) :
    [c.call method ("userId, " ++ value) ++ ";"] = (Statement.call method ["userId", value]).lines c.service := by
  simp [call, Statement.lines, ← String.toList_inj]

theorem lookup_eq (c : Controller) : c.userLookup.statements = c.lookup.lines c.service := by
  unfold userLookup lookup
  cases c.options.security <;> simp [securityLookup, Statement.lines, ← String.toList_inj]

theorem passed_eq (c : Controller) :
    c.userParameter.statements = c.passed.2.flatMap (·.lines c.service) := by
  unfold userParameter passed
  cases h : c.options.security with
  | none => rfl
  | some s => simp [securityLookup, lookup, h, Statement.lines, String.append_assoc]

theorem passOn_eq {c : Controller} (hu : c.settings.withUserId = true) (owned plain value : String) :
    c.passOn owned plain value =
      (c.passed.2 ++ [Statement.call owned ["userId", value]]).flatMap (·.lines c.service) := by
  unfold passOn userBinding?
  rw [if_pos hu]
  dsimp only
  rw [passed_eq, call_eq, List.flatMap_append, List.flatMap_singleton]

theorem ownedCall_eq (c : Controller) (incoming : Option Handle) (method : String) :
    c.ownedCall incoming method =
      ([c.lookup] ++ c.handOver incoming method).flatMap (·.lines c.service) := by
  unfold ownedCall handOver
  rw [lookup_eq, List.flatMap_append, List.flatMap_singleton]
  split <;> simp [Statement.lines, call, ← String.toList_inj]

theorem crudHandlers_writing {c : Controller} (hu : c.settings.withUserId = true) (hsuper : c.superMode = false) :
    c.crudHandlers.filter (writePaths.contains ·.path) = c.rowPrograms.map (·.handler c.service) := by
  have huser : c.user = c.passed := by rw [user, hsuper]; rfl
  -- The handlers that read come behind the three that write.
  rw [show c.crudHandlers.filter (writePaths.contains ·.path) = c.crudHandlers.take 3 from rfl]
  unfold crudHandlers rowPrograms handOver
  simp only [hsuper, huser, userParameterText_eq hu, bodySignature_eq, deleteSignature_eq, passOn_eq hu]
  rfl

theorem ownerOverrides_writing {c : Controller} (hsuper : c.superMode = true) :
    c.ownerOverrides.filter (writePaths.contains ·.path) = c.rowPrograms.map (·.handler c.service) := by
  have huser : c.user = ([], [c.lookup]) := by rw [user, hsuper]; rfl
  -- Overriding handlers have no parameters of their own, so they get hold of the user in the body.
  have hnone : "" = moreText [] := rfl
  have hdelete : c.userLookup.statements ++ [c.call "delete" "userId, id" ++ ";"] =
      ([c.lookup] ++ [Statement.call "delete" ["userId", "id"]]).flatMap (·.lines c.service) := by
    rw [lookup_eq, List.flatMap_append, List.flatMap_singleton, List.flatMap_singleton, ← call_eq]
    rfl
  rw [show c.ownerOverrides.filter (writePaths.contains ·.path) = c.ownerOverrides from rfl]
  unfold ownerOverrides rowPrograms
  simp only [hsuper, huser, hnone, bodySignature_eq, deleteSignature_eq, ownedCall_eq, hdelete]
  rfl

theorem excelHandlers_writing {c : Controller} (hu : c.settings.withUserId = true) :
    c.excelHandlers.filter (writePaths.contains ·.path) = [c.uploadProgram.handler c.service] := by
  -- The lines are emitted as whole texts where statements put them together from parts.
  have hread : ∀ dto : String, "List<" ++ dto ++ "> dtos = EasyExcel.read(file.getInputStream()).head(" ++ dto
      ++ ".class).sheet().doReadSync();" = "List<" ++ dto ++ ">" ++ " " ++ "dtos" ++ " = " ++
        ("EasyExcel.read(file.getInputStream()).head(" ++ dto ++ ".class).sheet().doReadSync();") := fun dto => by
    apply String.toList_inj.1
    simp only [String.toList_append, List.append_assoc]
    rfl
  have hloop : ∀ dto : String, "for (" ++ dto ++ " dto : dtos) \x7b" =
      "for (" ++ dto ++ " " ++ "dto" ++ " : " ++ "dtos" ++ ") \x7b" := fun dto => by
    simp [← String.toList_inj]
  have hadd : "    " ++ c.call "add" "userId, dto" ++ ";" =
      "    " ++ (c.service ++ "." ++ "add" ++ "(" ++ "userId, dto" ++ ");") := by
    simp [call, ← String.toList_inj]
  rw [show c.excelHandlers.filter (writePaths.contains ·.path) = (c.excelHandlers.take 2).drop 1 from rfl]
  unfold excelHandlers userBinding? uploadProgram Program.handler
  rw [userParameterText_eq hu, if_pos hu]
  simp only [List.take, List.drop, uploadSignature_eq, passed_eq, List.flatMap_append, List.flatMap_cons,
    List.flatMap_nil, Statement.lines, hread, hloop, hadd]
  rfl

/-- What remains of a controller when only the addresses that write are kept. -/
theorem handlers_writing {c : Controller} (hu : c.settings.withUserId = true) :
    c.handlers.filter (writePaths.contains ·.path) = c.writePrograms.map (·.handler c.service) := by
  unfold handlers writePrograms
  rw [List.filter_append, List.map_append, hu]
  congr 1
  · cases hsuper : c.superMode with
    | true => exact ownerOverrides_writing hsuper
    | false => exact crudHandlers_writing hu hsuper
  · split
    · exact excelHandlers_writing hu
    · rfl

/-- The addresses, the methods of the service behind them, and what replaces a handler of the super controller. -/
theorem writePrograms_calls (c : Controller) :
    c.writePrograms.map (fun q => (q.path, q.override, q.calls.map Prod.fst)) =
      [("/add", c.superMode, ["add"]), ("/update", c.superMode, ["update"]),
       ("/delete/\x7bid\x7d", c.superMode, ["delete"])] ++
      if c.settings.excel then [("/upload", false, ["add"])] else [] := by
  have hquiet : ∀ {u : List Parameter × List Statement}, BindsUser u → u.2.flatMap (·.calls) = [] := fun hu => by
    cases hu <;> rfl
  have hsent : ∀ (incoming : Option Handle) (method : String),
      ((c.handOver incoming method).flatMap (·.calls)).map Prod.fst = [method] := fun incoming method => by
    obtain ⟨value, hcalls⟩ := c.handOver_calls incoming method
    rw [hcalls]
    rfl
  unfold writePrograms
  rw [List.map_append, apply_ite (List.map _)]
  congr 1
  · simp only [rowPrograms, Program.calls, List.map_cons, List.flatMap_append, hquiet c.user_binds,
      List.nil_append, hsent]
    rfl
  · simp only [uploadProgram, Program.calls, List.map_cons, List.flatMap_append, hquiet c.passed_binds]
    rfl

end Controller

def rowWrites : List String := ["save(dto);", "delete(id);"]

/-- A body that writes only behind the check of the owner. -/
def ChecksBefore (write : String) (body : List String) : Prop :=
  ∃ before after, body = before ++ "checkOwner(userId, entity);" :: after ∧ write ∈ after ∧
    ∀ l ∈ before, l ∉ rowWrites

theorem not_rowWrite {l : String} (h : l.toList.head? ∉ [some 's', some 'd'] ∨ l.toList.getLast? ≠ some ';') :
    l ∉ rowWrites := by
  have hwrites : ∀ w ∈ rowWrites, w.toList.head? ∈ [some 's', some 'd'] ∧ w.toList.getLast? = some ';' := by
    decide
  intro hl
  rcases h with h | h
  · exact h (hwrites l hl).1
  · exact h (hwrites l hl).2

/-- The methods of the owner, which no class leaves out. -/
structure GuardsRows (c : ServiceClass) (owner : Field) : Prop where
  signatures : (c.emitted.filter (·.operation.owned)).map (fun m => (m.operation, m.signature)) =
    [(.ownerAdd, "void add(" ++ owner.wrapperType ++ " userId, " ++ c.plan.deps.dto.name ++ " dto)"),
     (.ownerUpdate, "void update(" ++ owner.wrapperType ++ " userId, " ++ c.plan.deps.dto.name ++ " dto)"),
     (.ownerDelete, "void delete(" ++ owner.wrapperType ++ " userId, " ++ c.plan.entity.idType ++ " id)"),
     (.checkOwner, "void checkOwner(" ++ owner.wrapperType ++ " userId, " ++ c.plan.entity.name ++ " entity)")]
  update : ∀ m ∈ c.emitted, m.operation = .ownerUpdate → ChecksBefore "save(dto);" m.body
  delete : ∀ m ∈ c.emitted, m.operation = .ownerDelete → ChecksBefore "delete(id);" m.body
  check : ∀ m ∈ c.emitted, m.operation = .checkOwner → m.body =
    ["if (!Objects.equals(userId, " ++ readOf owner "entity" ++ ")) \x7b",
     "    throw new AccessDeniedException(\"No permission to modify this record\");", "\x7d"]

theorem loadOwned_eq (p : ServicePlan) (idText : String) :
    ∃ loading, p.loadOwned idText = loading ++ ["checkOwner(userId, entity);"] ∧ ∀ l ∈ loading, l ∉ rowWrites := by
  refine ⟨(p.loadOwned idText).take 2, rfl, ?_⟩
  refine List.forall_mem_cons.2 ⟨not_rowWrite (.inr ?_), List.forall_mem_singleton.2 (not_rowWrite (.inl ?_))⟩
  · rw [String.toList_append, List.getLast?_append, show ")".toList.getLast? = some ')' from rfl, Option.some_or]
    decide
  · rw [head?_append (c := ' ') (head?_append rfl)]
    decide

section Emission

variable {c : ServiceClass} {owner : Field}

theorem emitted_owned (ho : c.plan.owner? = some owner) :
    c.emitted.filter (·.operation.owned) = c.plan.ownerMethodsOf owner := by
  have hsave : c.plan.saveMethods.filter (·.operation.owned) = [] := rfl
  have hrow : c.plan.rowMethods.filter (·.operation.owned) = [] := rfl
  have hread : c.plan.readMethods.filter (·.operation.owned) = [] := rfl
  unfold ServiceClass.emitted ServicePlan.methods ServicePlan.ownerMethods
  rw [List.filter_comm]
  simp only [List.filter_append, hsave, hrow, hread, ho, List.nil_append]
  rfl

theorem mem_owned (ho : c.plan.owner? = some owner) {m : Method} (hm : m ∈ c.emitted)
    (hown : m.operation.owned = true) : m ∈ c.plan.ownerMethodsOf owner := by
  rw [← emitted_owned ho]
  exact List.mem_filter.2 ⟨hm, hown⟩

theorem guardsRows (ho : c.plan.owner? = some owner) : GuardsRows c owner where
  signatures := by
    rw [emitted_owned ho]
    rfl
  update m hm hop := by
    have hmem := mem_owned ho hm (by rw [hop]; rfl)
    obtain ⟨loading, hloading, hharmless⟩ := loadOwned_eq c.plan (readOf c.plan.id "dto")
    simp only [ServicePlan.ownerMethodsOf, List.mem_cons, List.not_mem_nil, or_false] at hmem
    rcases hmem with rfl | rfl | rfl | rfl <;> cases hop
    refine ⟨["if (" ++ readOf c.plan.id "dto" ++ " == null) \x7b",
      "    throw new AccessDeniedException(\"Record id is required\");", "\x7d"] ++ loading,
      ["dto." ++ setter owner ++ "(userId);", "save(dto);"], ?_, by simp, ?_⟩
    · simp [hloading]
    · refine List.forall_mem_append.2 ⟨List.forall_mem_cons.2 ⟨not_rowWrite (.inl ?_), by decide⟩, hharmless⟩
      rw [head?_append (c := 'i') (head?_append rfl)]
      decide
  delete m hm hop := by
    have hmem := mem_owned ho hm (by rw [hop]; rfl)
    obtain ⟨loading, hloading, hharmless⟩ := loadOwned_eq c.plan "id"
    simp only [ServicePlan.ownerMethodsOf, List.mem_cons, List.not_mem_nil, or_false] at hmem
    rcases hmem with rfl | rfl | rfl | rfl <;> cases hop
    exact ⟨loading, ["delete(id);"], by simp [hloading], by simp, hharmless⟩
  check m hm hop := by
    have hmem := mem_owned ho hm (by rw [hop]; rfl)
    simp only [ServicePlan.ownerMethodsOf, List.mem_cons, List.not_mem_nil, or_false] at hmem
    rcases hmem with rfl | rfl | rfl | rfl <;> cases hop
    rfl

end Emission

/-- Of an entity with owners, rows are written behind the check of the owner alone. The service, whichever class
holds it and whatever it builds on, has the methods that check; the handlers at the writing addresses are programs
that bind the user once and call those methods with it, and which do not depend on the service. -/
theorem writes_stay_guarded (e : Entity) (s : Settings) (deps : ServiceDeps) (name : String) (kind : ArtifactKind)
    (interface? : Option Handle) (links : ControllerDeps) (options : ControllerOptions)
    (hfield : e.hasField "userId" = true) :
    let c : ServiceClass := { name, kind, plan := ⟨e, s.forEntity e, deps⟩, interface? }
    let d : Controller := ⟨e, s.forEntity e, links, options⟩
    (∃ owner, e.findField? "userId" = some owner ∧ GuardsRows c owner) ∧
    (∀ service : Handle, ({ d with deps := { links with service } } : Controller).handlers.filter
        (Controller.writePaths.contains ·.path) = d.writePrograms.map (·.handler (Name.lowerFirst service.name))) ∧
    d.writePrograms.map (fun q => (q.path, q.override, q.calls.map Prod.fst)) =
      [("/add", d.superMode, ["add"]), ("/update", d.superMode, ["update"]),
       ("/delete/\x7bid\x7d", d.superMode, ["delete"])] ++
      (if s.excel then [("/upload", false, ["add"])] else []) ∧
    (∀ q ∈ d.writePrograms, q.Guarded) ∧
    (∀ package, ∀ m ∈ c.emitted, (m.render (c.overrides m)).toList <:+: (c.template package).content.toList) ∧
    ∀ package, ∀ h ∈ d.handlers, (h.render options.swagger).toList <:+: (d.template package).content.toList := by
  intro c d
  have hflag : (s.forEntity e).withUserId = true := hfield
  obtain ⟨owner, howner⟩ := Option.isSome_iff_exists.1 ((e.findField?_isSome "userId").trans hfield)
  have hplan : c.plan.owner? = some owner := by
    unfold ServicePlan.owner? ServicePlan.fieldIf?
    rw [if_pos hflag]
    exact howner
  refine ⟨⟨owner, howner, guardsRows hplan⟩, fun service => ?_, d.writePrograms_calls, d.writePrograms_guarded,
    fun package m hm => ServiceClass.infix_template hm package,
    fun package h hh => Controller.infix_template hh package⟩
  exact Controller.handlers_writing (c := { d with deps := { links with service } }) hflag

def ownedEntity : Entity where
  name := "Order"
  package := "shop"
  annotations := ["Entity"]
  fields := [{ name := "id", typeName := "Long", isId := true }, { name := "userId", typeName := "long" }]

/-- With spreadsheets, behind super classes whose controller takes classes of its own. -/
theorem writes_stay_guarded_sample :
    let handle (name : String) : Handle := { name, package := "shop" }
    let s : Settings := { excel := true, withSuper := true, superService := some "base.BaseService"
                          superController := some "base.SuperController" }
    let deps : ServiceDeps := ⟨handle "OrderDTO", handle "OrderQuery", handle "OrderMapper",
      handle "OrderRepository", handle "OrderDao"⟩
    let links : ControllerDeps := { service := handle "OrderService", dto := handle "OrderDTO"
                                    query := handle "OrderQuery", dtoAdd := some (handle "OrderAddDTO") }
    let c : ServiceClass := { name := "OrderService", kind := .service
                              plan := ⟨ownedEntity, s.forEntity ownedEntity, deps⟩ }
    let d : Controller := ⟨ownedEntity, s.forEntity ownedEntity, links, {}⟩
    ownedEntity.hasField "userId" = true ∧ d.superMode = true ∧
      (∃ owner : Field, owner.wrapperType = "Long" ∧ GuardsRows c owner) ∧
      (d.handlers.filter (Controller.writePaths.contains ·.path)).map (fun h => (h.path, h.override)) =
        [("/add", true), ("/update", true), ("/delete/\x7bid\x7d", true), ("/upload", false)] ∧
      ∀ q ∈ d.writePrograms, q.Guarded := by
  intro handle s deps links c d
  have hfield : ownedEntity.hasField "userId" = true := by decide
  obtain ⟨⟨owner, howner, hguards⟩, hhandlers, -, hprograms, -, -⟩ := writes_stay_guarded ownedEntity s deps
    "OrderService" .service none links {} hfield
  refine ⟨hfield, by decide, ⟨owner, ?_, hguards⟩, ?_, hprograms⟩
  · have htype : (ownedEntity.findField? "userId").map (·.wrapperType) = some "Long" := by decide
    rw [howner] at htype
    exact Option.some.inj htype
  · rw [show d.handlers.filter (Controller.writePaths.contains ·.path) = _ from hhandlers (handle "OrderService")]
    rfl

end Scaffold.Artifact
