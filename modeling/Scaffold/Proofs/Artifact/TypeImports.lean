import Scaffold.Artifact.Dto
import Scaffold.Artifact.Query
import Scaffold.Proofs.Artifact.Heading

/-! The imports of the id type. Data transfer classes, services and controllers collect what the type needs from its
field; a query class takes the qualified name of the type and nothing else. -/

namespace Scaffold

open Scaffold.Text
open Scaffold.Entity (Field)

namespace Artifact

variable {package name line : String} {items : List String} {f g : Field}

theorem importLine?_eq_some_iff {item : String} (h : importLine? package name = some line) :
    importLine? package item = some line ↔ importedName item = importedName name := by
  constructor
  · intro hitem
    have heq := (eq_of_importLine? hitem).symm.trans (eq_of_importLine? h)
    exact String.append_right_inj _ |>.1 (String.append_left_inj _ |>.1 heq)
  · intro heq
    rw [← h]
    unfold importLine?
    dsimp only
    rw [heq]

/-- An import is there if its name is among those that the items import. -/
theorem mem_importLines_iff (h : importLine? package name = some line) :
    line ∈ importLines package items ↔ ∃ item ∈ items, importedName item = importedName name := by
  simp only [mem_importLines, importLine?_eq_some_iff h]

theorem typeImports_wrapperType (f : Field) : typeImports { f with typeName := f.wrapperType } = typeImports f := by
  have hwrappers : ∀ entry ∈ Entity.wrappers,
      libraryImport? (Entity.rawOf entry.2) = libraryImport? (Entity.rawOf entry.1) ∧
      (argumentNames entry.2).filterMap libraryImport? = (argumentNames entry.1).filterMap libraryImport? := by
    decide
  have hsame : libraryImport? (Entity.rawOf f.wrapperType) = libraryImport? (Entity.rawOf f.typeName) ∧
      (argumentNames f.wrapperType).filterMap libraryImport? = (argumentNames f.typeName).filterMap libraryImport? := by
    unfold Field.wrapperType
    cases hlookup : Entity.wrappers.lookup f.typeName with
    | none => exact ⟨rfl, rfl⟩
    | some w =>
      rw [Option.getD_some]
      exact hwrappers (f.typeName, w) (Entries.mem_of_lookup hlookup)
  unfold typeImports outerImports Field.rawType
  dsimp only
  rw [hsame.1, hsame.2]

end Artifact

/-- Members of one type: the same is written for both, and it names the same class. -/
structure Entity.Field.SameType (g f : Field) : Prop where
  written : g.wrapperType = f.wrapperType
  qualified : g.qualifiedType = f.qualifiedType

theorem Entity.Field.SameType.typeImports {g f : Field} (h : SameType g f) :
    Artifact.typeImports g = Artifact.typeImports f := by
  rw [← Artifact.typeImports_wrapperType g, ← Artifact.typeImports_wrapperType f, h.written]
  unfold Artifact.typeImports Artifact.outerImports
  dsimp only
  rw [h.qualified]
  rfl

/-- The line stands in the block of imports, between the line of the package and the class. -/
def Template.Imports (t : Template) (line : String) : Prop :=
  ∃ (block : List String) (rest : String), line ∈ block ∧ (∀ l ∈ block, "import ".toList <+: l.toList) ∧
    t.content = Artifact.heading (t.package.getD "") ++ String.join (block.map (· ++ "\n")) ++ "\n" ++ rest

theorem Template.Imports.infix {t : Template} {line : String} (h : t.Imports line) :
    line.toList <:+: t.content.toList := by
  obtain ⟨block, rest, hline, -, hcontent⟩ := h
  have hjoin : line.toList <:+: (String.join (block.map (· ++ "\n"))).toList := by
    rw [String.toList_join, List.flatMap_def]
    have hwhole : line.toList <:+: (line ++ "\n").toList := by
      rw [String.toList_append]
      exact (List.prefix_append _ _).isInfix
    have hmem := List.mem_map_of_mem (f := (· ++ "\n")) hline
    exact hwhole.trans (List.infix_of_mem_flatten (List.mem_map_of_mem hmem))
  rw [hcontent, String.toList_append, String.toList_append, String.toList_append]
  have hfront := hjoin.trans (List.suffix_append (Artifact.heading (t.package.getD "")).toList _).isInfix
  exact (hfront.trans (List.prefix_append _ _).isInfix).trans (List.prefix_append _ _).isInfix

/-- The source imports whatever a member of the field's type needs, unless it lies in the package of the source or in
`java.lang`. -/
def Template.ImportsTypeOf (t : Template) (f : Field) : Prop :=
  ∀ name ∈ Artifact.typeImports f, ∀ line, Artifact.importLine? (t.package.getD "") name = some line → t.Imports line

namespace Artifact

variable {kind : ArtifactKind} {package name body line : String} {items : List String} {f g : Field}

theorem imports_javaTemplate (h : line ∈ importLines package items) :
    (javaTemplate kind name package items body).Imports line := by
  refine ⟨importLines package items, trim body ++ "\n", h, fun l hl => ?_, ?_⟩
  · obtain ⟨item, -, hitem⟩ := mem_importLines.1 hl
    rw [eq_of_importLine? hitem, String.append_assoc, String.toList_append]
    exact List.prefix_append _ _
  · have hblock : (importBlock package items).isEmpty = false := by
      obtain ⟨before, after, hlines⟩ := List.append_of_mem h
      rw [importBlock, hlines, Bool.eq_false_iff, Ne, String.isEmpty_iff, ← String.toList_eq_nil_iff,
        String.toList_join]
      simp
    unfold javaTemplate sourceFile
    dsimp only [Option.getD_some]
    rw [hblock, if_neg (by decide), heading, importBlock, String.append_assoc]

theorem importsTypeOf_javaTemplate (h : ∀ n ∈ typeImports f, n ∈ items) :
    (javaTemplate kind name package items body).ImportsTypeOf f := fun n hn _ hline =>
  imports_javaTemplate (mem_importLines.2 ⟨n, h n hn, hline⟩)

variable {e : Entity}

theorem importsTypeOf_dto {d : Dto} (hg : g ∈ d.fields) (h : g.SameType f) (package : String) :
    (d.template package).ImportsTypeOf f := by
  refine importsTypeOf_javaTemplate fun n hn => ?_
  unfold Dto.imports
  rw [← h.typeImports] at hn
  exact List.mem_append_left _ (List.mem_flatMap.2 ⟨g, hg, List.mem_append_left _ hn⟩)

theorem mem_idImports {n : String} (hf : e.idField? = some f) (hn : n ∈ typeImports f) :
    n ∈ ServicePlan.idImports e := by
  rw [ServicePlan.idImports, hf]
  exact hn

theorem ServicePlan.mem_signatureImports {p : ServicePlan} {n : String} (h : n ∈ idImports p.entity) :
    n ∈ p.signatureImports := List.mem_append_right _ h

theorem importsTypeOf_serviceInterface {p : ServicePlan} (hf : p.entity.idField? = some f) (package : String) :
    (serviceInterfaceTemplate p package).ImportsTypeOf f :=
  importsTypeOf_javaTemplate fun _ hn =>
    List.mem_append_left _ (ServicePlan.mem_signatureImports (mem_idImports hf hn))

theorem importsTypeOf_serviceClass {c : ServiceClass} (hf : c.plan.entity.idField? = some f) (package : String) :
    (c.template package).ImportsTypeOf f := by
  refine importsTypeOf_javaTemplate fun n hn => ?_
  unfold ServiceClass.imports
  have hsignature := ServicePlan.mem_signatureImports (mem_idImports hf hn)
  simp only [List.append_assoc]
  exact List.mem_append_left _ hsignature

theorem importsTypeOf_controller {c : Controller} (hf : c.entity.idField? = some f)
    (h : c.superMode = false ∨ c.settings.withUserId = true) (package : String) :
    (c.template package).ImportsTypeOf f := by
  refine importsTypeOf_javaTemplate fun n hn => ?_
  have hid : n ∈ c.idImports := by
    rw [Controller.idImports, hf]
    exact hn
  have hhandlers : n ∈ c.handlerImports := by
    unfold Controller.handlerImports
    refine List.mem_append_left _ ?_
    cases hsuper : c.superMode with
    | false => simp [Controller.crudImports, hid]
    | true =>
      have howner := h.resolve_left (by rw [hsuper]; decide)
      simp [Controller.overrideImports, hid, howner]
  unfold Controller.imports
  exact List.mem_append_left _ (List.mem_append_right _ hhandlers)

/-- What a query class imports: lists, the qualified name of the id type, and its base class. -/
theorem mem_importLines_query {base : Option Handle} (hf : e.idField? = some f)
    (h : importLine? package name = some line) :
    line ∈ importLines package (queryImports e base) ↔ importedName name = "java.util.List" ∨
      (∃ q, f.qualifiedType.bind nonempty? = some q ∧ importedName q = importedName name) ∨
      ∃ b, base = some b ∧ importedName b.qualifiedName = importedName name := by
  have hlist : importedName "java.util.List" = "java.util.List" := by decide
  rw [mem_importLines_iff h, queryImports, hf, Option.bind_some]
  simp only [List.cons_append, List.exists_mem_cons_iff, List.mem_append, Option.mem_toList, Option.map_eq_some_iff,
    or_and_right, exists_or, exists_exists_and_eq_and, hlist]
  rw [eq_comm]

/-- Every source in which something of the id type is declared has the imports of the type, except for the query class:
there it is the qualified name, if the field has one, and not what the written type needs. -/
theorem id_type_imported (hf : e.idField? = some f) (package : String) :
    (∀ s base, ∀ d ∈ dtos e s base, ∀ g ∈ d.fields, g.SameType f → (d.template package).ImportsTypeOf f) ∧
    (∀ s deps, (serviceTemplate ⟨e, s, deps⟩ package).ImportsTypeOf f ∧
      (serviceInterfaceTemplate ⟨e, s, deps⟩ package).ImportsTypeOf f ∧
      ∀ interface, (serviceImplTemplate ⟨e, s, deps⟩ package interface).ImportsTypeOf f) ∧
    (∀ c : Controller, c.entity = e → c.superMode = false ∨ c.settings.withUserId = true →
      (c.template package).ImportsTypeOf f) ∧
    ∀ base, (∀ line ∈ importLines package (queryImports e base), (queryTemplate e package base).Imports line) ∧
      ∀ name ∈ typeImports f, ∀ line, importLine? package name = some line →
        (line ∈ importLines package (queryImports e base) ↔ importedName name = "java.util.List" ∨
          (∃ q, f.qualifiedType.bind nonempty? = some q ∧ importedName q = importedName name) ∨
          ∃ b, base = some b ∧ importedName b.qualifiedName = importedName name) := by
  refine ⟨fun s base d _ g hg h => importsTypeOf_dto hg h package, fun s deps => ⟨?_, ?_, fun interface => ?_⟩, ?_, ?_⟩
  · exact importsTypeOf_serviceClass hf package
  · exact importsTypeOf_serviceInterface hf package
  · exact importsTypeOf_serviceClass hf package
  · rintro c rfl h
    exact importsTypeOf_controller hf h package
  · intro base
    exact ⟨fun line hline => imports_javaTemplate hline, fun name _ line hline => mem_importLines_query hf hline⟩

/-- An entity whose id is of a library class that is known by its simple name. -/
def keyedEntity : Entity where
  name := "Ticket"
  package := "shop"
  annotations := ["Entity"]
  fields := [{ name := "id", typeName := "UUID", isId := true }]

def ticketHandle (suffix : String) : Handle where
  name := "Ticket" ++ suffix
  package := "shop"

def ticketDeps : ServiceDeps where
  dto := ticketHandle "DTO"
  query := ticketHandle "Query"
  mapper := ticketHandle "Mapper"
  repository := ticketHandle "Repository"
  dao := ticketHandle "Dao"

theorem id_type_imported_ticket :
    (serviceTemplate ⟨keyedEntity, {}, ticketDeps⟩ "service").Imports "import java.util.UUID;" := by
  have h := id_type_imported (e := keyedEntity) (f := { name := "id", typeName := "UUID", isId := true }) rfl "service"
  exact (h.2.1 {} ticketDeps).1 "java.util.UUID" (by decide) _ (by decide)

/-- The query class of the same entity, which extends a base class. -/
def ticketQuery : Template := queryTemplate keyedEntity "query" (some { name := baseQueryName, package := "query" })

theorem ticketQuery_declares : "    private UUID id;".toList <:+: ticketQuery.content.toList ∧
    ¬ "import java.util.UUID;".toList <:+: ticketQuery.content.toList := by
  have hname : keyedEntity.baseName = "Ticket" ∧ keyedEntity.idType = "UUID" := by decide
  have hset : setterName "ids" = "setIds" ∧ setterName "id" = "setId" ∧ setterName "idNot" = "setIdNot" := by
    decide
  have hget : getterName "ids" = "getIds" ∧ getterName "id" = "getId" ∧ getterName "idNot" = "getIdNot" := by
    decide
  unfold ticketQuery queryTemplate javaTemplate sourceFile trim
  -- The names that are computed from others are put in first, so that only appends are left to evaluate.
  simp only [hname, hset, hget, queryMembers, Member.declared, accessors, accessorLines, paragraphs, unlines, List.map,
    String.intercalate_cons_cons, String.intercalate_singleton, String.toList_append, String.toList_ofList]
  decide +kernel

/-- It declares its id and nowhere imports the class. -/
theorem ticketQuery_lacks_import : ∃ f line, keyedEntity.idField? = some f ∧ "java.util.UUID" ∈ typeImports f ∧
    importLine? "query" "java.util.UUID" = some line ∧ "    private UUID id;".toList <:+: ticketQuery.content.toList ∧
    ¬ ticketQuery.Imports line := by
  obtain ⟨hdeclared, hlacking⟩ := ticketQuery_declares
  exact ⟨_, _, rfl, by decide, by decide, hdeclared, fun h => hlacking h.infix⟩

end Artifact

end Scaffold
