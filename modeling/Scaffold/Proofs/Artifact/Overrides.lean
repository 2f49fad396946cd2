import Scaffold.Proofs.Artifact.Rendering
import Scaffold.Proofs.Store.Path

/-! The methods of a service in its three forms: what an interface declares, what its implementation has, and what
is left to a super service. A super service supplies the methods that no special field of the entity changes. -/

namespace Scaffold.Artifact

open Scaffold.Entity (Field)
open Scaffold.Text

namespace ServicePlan

/-- The plan for an entity none of whose fields is special. -/
def plain (p : ServicePlan) : ServicePlan :=
  { p with
    settings := { p.settings with withDeleted := false, withCreateTime := false, withUserId := false } }

/-- The text of the body that a plan gives to an operation. -/
def bodyText? (p : ServicePlan) (o : Operation) : Option String :=
  (p.methods.find? (·.operation == o)).map fun m => unlines m.body

/-- A method that reads and writes rows as it does without special fields. -/
def unchanged (p : ServicePlan) (m : Method) : Bool :=
  !m.operation.owned && p.plain.bodyText? m.operation == some (unlines m.body)

/-- The special fields that the settings announce exist. -/
structure Consistent (p : ServicePlan) : Prop where
  createTime : p.settings.withCreateTime = p.createTime?.isSome
  deleted : p.settings.withDeleted = p.deleted?.isSome
  owner : p.settings.withUserId = p.owner?.isSome

theorem Consistent.forEntity (e : Entity) (s : Settings) (deps : ServiceDeps) :
    Consistent ⟨e, s.forEntity e, deps⟩ := by
  have hfield (name : String) (enabled : Bool) (h : enabled = e.hasField name) :
      enabled = ((⟨e, s.forEntity e, deps⟩ : ServicePlan).fieldIf? enabled name).isSome := by
    unfold fieldIf?
    cases henabled : enabled with
    | false => rfl
    | true =>
      rw [if_pos rfl, e.findField?_isSome, ← h, henabled]
  exact ⟨hfield _ _ rfl, hfield _ _ rfl, hfield _ _ rfl⟩

section Unchanged

variable {p : ServicePlan}

theorem bodyText?_plain (p : ServicePlan) :
    p.plain.bodyText? .save =
      some (unlines [p.entity.name ++ " entity = mapper.toEntity(dto);", "repository.save(entity);"]) ∧
    p.plain.bodyText? .saveAll = some "repository.saveAll(mapper.toEntity(dtos));" ∧
    p.plain.bodyText? .delete = some "repository.deleteById(id);" ∧
    p.plain.bodyText? .findOne = some "return repository.findById(id).map(mapper::toDto);" ∧
    ∀ m ∈ p.readMethods, p.plain.bodyText? m.operation = some (unlines m.body) := by
  refine ⟨rfl, rfl, rfl, rfl, ?_⟩
  simp only [readMethods, List.forall_mem_cons]
  exact ⟨rfl, rfl, rfl, rfl, nofun⟩

theorem ne_of_prefix {s t : String} {a b : List Char} (hs : a <+: s.toList) (ht : b <+: t.toList)
    (hab : ¬ a <+: b ∧ ¬ b <+: a) : s ≠ t := by
  rintro rfl
  exact (List.prefix_or_prefix_of_prefix hs ht).elim hab.1 hab.2

theorem first_prefix_unlines (first second : String) (rest : List String) :
    (first ++ "\n").toList <+: (unlines (first :: second :: rest)).toList := by
  unfold unlines
  rw [String.intercalate_cons_cons]
  exact ⟨_, String.toList_append.symm⟩

theorem stamped_ne {f : Field} (h : p.createTime? = some f) (first last : String) :
    unlines (first :: (p.stamp ++ [last])) ≠ unlines [first, last] := by
  intro heq
  have hlength := congrArg String.length heq
  simp only [stamp, h, unlines, List.cons_append, List.nil_append, String.intercalate_cons_cons,
    String.intercalate_singleton, String.length_append] at hlength
  have hbreak : "\n".length = 1 := rfl
  omega

theorem inherited_saveMethods (hp : p.Consistent) :
    ∀ m ∈ p.saveMethods, m.inherited = (p.superMode && p.unchanged m) := by
  obtain ⟨hsave, hall, -⟩ := p.bodyText?_plain
  have hflag := hp.createTime
  cases hc : p.createTime? with
  | none =>
    rw [hc] at hflag
    have hstamp : p.stamp = [] := by rw [stamp, hc]
    simp [saveMethods, unchanged, Operation.owned, hsave, hall, hflag, hstamp, unlines]
  | some f =>
    rw [hc] at hflag
    have hone := stamped_ne hc (p.entity.name ++ " entity = mapper.toEntity(dto);") "repository.save(entity);"
    have heach : unlines ["for (" ++ p.deps.dto.name ++ " dto : dtos) \x7b", "    save(dto);", "\x7d"] ≠
        "repository.saveAll(mapper.toEntity(dtos));" := by
      refine ne_of_prefix (a := "for (".toList) (.trans ?_ (first_prefix_unlines _ _ _)) (List.prefix_refl _)
        (by decide)
      simp only [String.append_assoc, String.toList_append]
      exact List.prefix_append _ _
    simp [saveMethods, unchanged, Operation.owned, hsave, hall, hflag, hone.symm, heach.symm]

theorem inherited_rowMethods (p : ServicePlan) :
    ∀ m ∈ p.rowMethods, m.inherited = (p.superMode && p.unchanged m) := by
  obtain ⟨-, -, hdelete, hfind, -⟩ := p.bodyText?_plain
  cases hd : p.deleted? with
  | none => simp [rowMethods, deleteBody, findOneBody, unchanged, Operation.owned, hdelete, hfind, hd, unlines]
  | some f =>
    have hmark : unlines p.deleteBody ≠ "repository.deleteById(id);" := by
      rw [deleteBody, hd]
      exact ne_of_prefix (first_prefix_unlines _ _ _) (List.prefix_refl _) (by decide)
    have hpass : unlines p.findOneBody ≠ "return repository.findById(id).map(mapper::toDto);" := by
      rw [findOneBody, hd]
      exact ne_of_prefix (first_prefix_unlines _ _ _) (List.prefix_refl _) (by decide)
    simp [rowMethods, unchanged, Operation.owned, hdelete, hfind, hd, hmark.symm, hpass.symm]

theorem inherited_readMethods (p : ServicePlan) :
    ∀ m ∈ p.readMethods, m.inherited = (p.superMode && p.unchanged m) := by
  obtain ⟨-, -, -, -, hread⟩ := p.bodyText?_plain
  intro m hm
  have hsuper : m.inherited = p.superMode ∧ m.operation.owned = false := by
    simp only [readMethods, List.mem_cons, List.not_mem_nil, or_false] at hm
    rcases hm with rfl | rfl | rfl | rfl <;> exact ⟨rfl, rfl⟩
  simp [unchanged, hread m hm, hsuper]

theorem inherited_ownerMethods (p : ServicePlan) :
    ∀ m ∈ p.ownerMethods, m.inherited = false ∧ m.operation.owned = true := by
  unfold ownerMethods
  cases p.owner? with
  | none => exact nofun
  | some owner =>
    simp [ownerMethodsOf, Operation.owned]

/-- What is left to the super service are the methods that nothing changes. -/
theorem inherited_eq (hp : p.Consistent) : ∀ m ∈ p.methods, m.inherited = (p.superMode && p.unchanged m) := by
  unfold methods
  simp only [List.forall_mem_append]
  refine ⟨⟨⟨inherited_saveMethods hp, inherited_rowMethods p⟩, inherited_readMethods p⟩, fun m hm => ?_⟩
  obtain ⟨hown, howned⟩ := inherited_ownerMethods p m hm
  rw [hown, unchanged, howned, Bool.not_true, Bool.false_and, Bool.and_false]

end Unchanged

/-- The operations on rows, which a super service knows. -/
def rowOperations : List Operation := [.save, .saveAll, .delete, .findOne, .findAll, .query, .pageQuery, .count]

/-- The operations that guard the rows of an owner. -/
def ownerOperations : List Operation := [.ownerAdd, .ownerUpdate, .ownerDelete, .checkOwner]

theorem operations {p : ServicePlan} (hp : p.Consistent) : p.methods.map (·.operation) =
    rowOperations ++ if p.settings.withUserId then ownerOperations else [] := by
  unfold methods ownerMethods
  rw [hp.owner, List.map_append]
  congr 1
  cases p.owner? <;> rfl

def declaredSignatures (p : ServicePlan) : List String := (interfaceMethods p).map (·.signature)

end ServicePlan

def Method.visible (m : Method) : Bool := !m.operation.hidden

/-- The line at which a method opens. -/
def Method.opening (m : Method) : String :=
  "    " ++ (if m.visible then "public" else "private") ++ " " ++ m.signature ++ " \x7b\n"

theorem Method.render_eq (m : Method) (override : Bool) : m.render override =
    (if override && m.visible then "    @Override\n" else "") ++
      (m.opening ++ (indent 8 (unlines m.body) ++ "\n    \x7d")) := by
  unfold render opening visible
  cases m.operation.hidden <;> simp only [String.append_assoc] <;> rfl

theorem Method.opening_infix (m : Method) (override : Bool) : m.opening.toList <:+: (m.render override).toList := by
  rw [render_eq, String.toList_append, String.toList_append, ← List.append_assoc]
  exact ⟨_, _, rfl⟩

theorem Method.marked_iff (m : Method) (override : Bool) :
    startsWith (m.render override) "    @Override\n" = true ↔ override = true ∧ m.visible = true := by
  have hplain (rest : String) : ¬ "    @Override\n".toList <+: (m.opening ++ rest).toList := by
    intro hmark
    have hword : "    p".toList <+: (m.opening ++ rest).toList := by
      unfold opening
      simp only [String.append_assoc, String.toList_append]
      cases m.visible <;> exact ⟨_, rfl⟩
    exact absurd (List.prefix_or_prefix_of_prefix hmark hword) (by decide)
  rw [startsWith_iff, render_eq, ← Bool.and_eq_true]
  cases hboth : override && m.visible with
  | false =>
    rw [if_neg Bool.false_ne_true, String.empty_append]
    exact iff_of_false (hplain _) Bool.false_ne_true
  | true =>
    rw [if_pos rfl, String.toList_append]
    exact iff_of_true (List.prefix_append _ _) rfl

namespace ServiceClass

variable {c : ServiceClass}

/-- The signatures of the public methods. -/
def signatures (c : ServiceClass) : List String := (c.emitted.filter (·.visible)).map (·.signature)

theorem signatures_eq (hp : c.plan.Consistent) : c.signatures =
    ((interfaceMethods c.plan).filter fun m => !(c.plan.superMode && c.plan.unchanged m)).map (·.signature) := by
  unfold signatures emitted interfaceMethods
  rw [List.filter_comm]
  congr 1
  refine List.filter_congr fun m hm => ?_
  rw [ServicePlan.inherited_eq hp m (List.mem_of_mem_filter hm)]

theorem emitted_owned_eq (hp : c.plan.Consistent) :
    c.emitted.filter (·.operation.owned) = c.plan.methods.filter (·.operation.owned) := by
  unfold emitted
  rw [List.filter_comm]
  refine List.filter_eq_self.2 fun m hm => ?_
  obtain ⟨hmem, howned⟩ := List.mem_filter.1 hm
  rw [ServicePlan.inherited_eq hp m hmem, ServicePlan.unchanged, howned]
  simp

end ServiceClass

/-- The forms of a service agree. Without a super service, a class has the public methods that the interface declares,
in its order. With one, it has those of them that a special field of the entity changes, or that guard the rows of an
owner; the latter are never left out. A method is marked as overriding exactly if it is public and either an interface
declares it or the super service has it. -/
theorem service_forms_agree (e : Entity) (s : Settings) (deps : ServiceDeps) (name : String) (kind : ArtifactKind)
    (interface? : Option Handle) :
    let p : ServicePlan := ⟨e, s.forEntity e, deps⟩
    let c : ServiceClass := { name, kind, plan := p, interface? }
    (p.superMode = false → c.signatures = p.declaredSignatures) ∧
    (p.superMode = true →
      c.signatures = ((interfaceMethods p).filter fun m => !p.unchanged m).map (·.signature)) ∧
    p.methods.map (·.operation) = ServicePlan.rowOperations ++
      (if e.hasField "userId" then ServicePlan.ownerOperations else []) ∧
    c.emitted.filter (·.operation.owned) = p.methods.filter (·.operation.owned) ∧
    (∀ m ∈ c.emitted, m.opening.toList <:+: (m.render (c.overrides m)).toList ∧
      (startsWith (m.render (c.overrides m)) "    @Override\n" = true ↔ m.visible = true ∧
        (interface?.isSome = true ∨ p.superMode = true ∧ m.operation ∈ ServicePlan.rowOperations))) ∧
    (∀ package, (paragraphs (p.memberText name :: c.emitted.map fun m => m.render (c.overrides m))).toList <:+:
      (c.template package).content.toList) ∧
    ∀ package, (paragraphs (p.declaredSignatures.map fun signature => "    " ++ signature ++ ";")).toList <:+:
      (serviceInterfaceTemplate p package).content.toList := by
  intro p c
  have hp : p.Consistent := .forEntity e s deps
  refine ⟨fun hsuper => ?_, fun hsuper => ?_, ServicePlan.operations hp, c.emitted_owned_eq hp,
    fun m _ => ⟨m.opening_infix _, ?_⟩, c.infix_blocks, fun package => ?_⟩
  · rw [ServiceClass.signatures_eq hp, hsuper]
    simp [ServicePlan.declaredSignatures, c]
  · rw [ServiceClass.signatures_eq hp, hsuper]
    simp only [Bool.true_and]
    rfl
  · have hrow : m.operation ∈ ServicePlan.rowOperations ↔ m.operation.owned = false := by
      cases m.operation <;> decide
    rw [Method.marked_iff, hrow, and_comm]
    simp [ServiceClass.overrides, c]
  · rw [ServicePlan.declaredSignatures, List.map_map]
    exact infix_serviceInterface p package

def guardedEntity : Entity where
  name := "Order"
  package := "shop"
  annotations := ["Entity"]
  fields := [{ name := "id", typeName := "Long", isId := true }, { name := "deleted", typeName := "Boolean" },
    { name := "userId", typeName := "Long" }]

/-- A super service saves and reads; the implementation deletes, looks up and guards the rows of an owner. -/
theorem service_forms_agree_sample :
    let handle (name : String) : Handle := { name, package := "shop" }
    let s : Settings := { withSuper := true, superService := some "base.BaseService" }
    let deps : ServiceDeps := ⟨handle "OrderDTO", handle "OrderQuery", handle "OrderMapper",
      handle "OrderRepository", handle "OrderDao"⟩
    let p : ServicePlan := ⟨guardedEntity, s.forEntity guardedEntity, deps⟩
    let c : ServiceClass := { name := "OrderServiceImpl", kind := .serviceImpl, plan := p
                              interface? := some (handle "OrderService") }
    p.superMode = true ∧ c.signatures = ["void delete(Long id)", "Optional<OrderDTO> findOne(Long id)",
      "void add(Long userId, OrderDTO dto)", "void update(Long userId, OrderDTO dto)",
      "void delete(Long userId, Long id)"] := by
  intro handle s deps p c
  have hsuper : p.superMode = true := by decide
  obtain ⟨-, hleft, -⟩ := service_forms_agree guardedEntity s deps "OrderServiceImpl" .serviceImpl
    (some (handle "OrderService"))
  refine ⟨hsuper, (hleft hsuper).trans ?_⟩
  decide +kernel

end Scaffold.Artifact
