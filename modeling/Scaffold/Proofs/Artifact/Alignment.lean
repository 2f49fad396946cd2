import Mathlib.Data.List.Perm.Basic
import Mathlib.Tactic.ByContra
import Scaffold.Proofs.Artifact.Rendering

/-! The lists of a mapping document. All of them follow the fields of the entity: the rows and the columns follow all
fields, the columns and the values of an insert follow all but the id. Which of several equal fields is the id is
told by its place. -/

namespace Scaffold

open Scaffold.Entity (Field)

namespace Entity

variable {e : Entity}

/-- The fields with their places, by which equal fields are told apart. -/
def placed (e : Entity) : List (Field × Nat) := e.allFields.zipIdx

/-- The first of the placed fields with a property. -/
structure FirstPlaced (e : Entity) (p : Field → Bool) (x : Field × Nat) : Prop where
  mem : x ∈ e.placed
  holds : p x.1 = true
  first : ∀ y ∈ e.placed, p y.1 = true → x.2 ≤ y.2

/-- The id is the first marked field, or, where none is marked, the first one of the name `id`. -/
def IsId (e : Entity) (x : Field × Nat) : Prop :=
  e.FirstPlaced (·.isId) x ∨ (∀ f ∈ e.allFields, f.isId = false) ∧ e.FirstPlaced (·.name == "id") x

def isIdPlace (e : Entity) (x : Field × Nat) : Bool := e.idIndex? == some x.2

def idPlaced? (e : Entity) : Option (Field × Nat) := e.placed.find? e.isIdPlace

theorem mem_placed {x : Field × Nat} : x ∈ e.placed ↔ e.allFields[x.2]? = some x.1 :=
  List.mem_zipIdx_iff_getElem?

theorem placed_apart (e : Entity) : e.placed.Pairwise fun x y => x.2 ≠ y.2 := by
  have hplaces : (e.placed.map Prod.snd).Nodup := by
    rw [placed, List.zipIdx_map_snd]
    exact List.nodup_range'
  exact List.pairwise_map.1 hplaces

theorem firstPlaced_of_findIdx? {p : Field → Bool} {x : Field × Nat} (hx : x ∈ e.placed)
    (h : e.allFields.findIdx? p = some x.2) : e.FirstPlaced p x := by
  obtain ⟨hlt, hholds, hbefore⟩ := List.findIdx?_eq_some_iff_getElem.1 h
  have hget {y : Field × Nat} (hy : y ∈ e.placed) (hlt : y.2 < e.allFields.length) : e.allFields[y.2] = y.1 :=
    Option.some.inj ((List.getElem?_eq_getElem hlt).symm.trans (mem_placed.1 hy))
  refine ⟨hx, hget hx hlt ▸ hholds, fun y hy hp => ?_⟩
  by_contra hlate
  have hearly : y.2 < x.2 := Nat.lt_of_not_le hlate
  exact hbefore y.2 hearly (hget hy (Nat.lt_trans hearly hlt) ▸ hp)

theorem isId_of_isIdPlace {x : Field × Nat} (hx : x ∈ e.placed) (h : e.isIdPlace x = true) : e.IsId x := by
  rcases Option.or_eq_some_iff.1 (beq_iff_eq.1 h) with hmarked | ⟨hnone, hnamed⟩
  · exact .inl (firstPlaced_of_findIdx? hx hmarked)
  · exact .inr ⟨List.findIdx?_eq_none_iff.1 hnone, firstPlaced_of_findIdx? hx hnamed⟩

theorem idPlaced?_isId {x : Field × Nat} (h : e.idPlaced? = some x) : e.IsId x :=
  isId_of_isIdPlace (List.mem_of_find?_eq_some h) (List.find?_some h)

theorem idPlaced?_field (e : Entity) : e.idPlaced?.map Prod.fst = e.idField? := by
  unfold idField?
  cases hi : e.idIndex? with
  | none =>
    have hnone : e.idPlaced? = none := List.find?_eq_none.2 fun x _ => by simp [isIdPlace, hi]
    rw [hnone]
    rfl
  | some i =>
    -- A place outside of the list belongs to no field.
    cases hf : e.allFields[i]? with
    | none =>
      have hnone : e.idPlaced? = none := by
        refine List.find?_eq_none.2 fun x hx hid => ?_
        have hplace : i = x.2 := by simpa [isIdPlace, hi] using hid
        rw [hplace, mem_placed.1 hx] at hf
        exact nomatch hf
      rw [hnone]
      exact hf.symm
    | some f =>
      have hmem : (f, i) ∈ e.placed := mem_placed.2 hf
      have hsome : e.idPlaced?.isSome := List.find?_isSome.2 ⟨(f, i), hmem, by simp [isIdPlace, hi]⟩
      obtain ⟨x, hx⟩ := Option.isSome_iff_exists.1 hsome
      have hplace : i = x.2 := by simpa [isIdPlace, hi] using List.find?_some hx
      rw [hx, Option.bind_some, hplace, mem_placed.1 (List.mem_of_find?_eq_some hx)]
      rfl

theorem filter_eq_find? {α : Type} {p : α → Bool} {l : List α} (h : l.Pairwise fun x y => p x = true → p y = false) :
    l.filter p = (l.find? p).toList := by
  induction l with
  | nil => rfl
  | cons x r ih =>
    obtain ⟨hx, hr⟩ := List.pairwise_cons.1 h
    cases hp : p x with
    | true =>
      have hrest : r.filter p = [] := List.filter_eq_nil_iff.2 fun y hy => by simp [hx y hy hp]
      rw [List.filter_cons_of_pos hp, List.find?_cons_of_pos hp, hrest]
      rfl
    | false =>
      have hneg : ¬ p x = true := by simp [hp]
      rw [List.filter_cons_of_neg hneg, List.find?_cons_of_neg hneg, ih hr]

theorem filter_isIdPlace (e : Entity) : e.placed.filter e.isIdPlace = e.idPlaced?.toList := by
  refine filter_eq_find? (e.placed_apart.imp fun {x y} hne hx => ?_)
  have hx : e.idIndex? = some x.2 := beq_iff_eq.1 hx
  simp [isIdPlace, hx, hne]

/-- The fields that an insert fills, with their places. -/
def inserted (e : Entity) : List (Field × Nat) := e.placed.filter fun x => !e.isIdPlace x

/-- The id and the inserted fields are all fields, each of them once. -/
theorem idPlaced?_inserted_perm (e : Entity) : (e.idPlaced?.toList ++ e.inserted).Perm e.placed := by
  rw [← e.filter_isIdPlace]
  exact List.filter_append_perm e.isIdPlace e.placed

theorem isIdPlace_iff {x : Field × Nat} (hx : x ∈ e.placed) : e.isIdPlace x = true ↔ e.idPlaced? = some x := by
  have hmem : x ∈ e.placed.filter e.isIdPlace ↔ e.isIdPlace x = true := by simp [hx]
  rw [← hmem, filter_isIdPlace, Option.mem_toList]

end Entity

namespace Artifact

open Scaffold.Text

/-- The text by which a row of the result map hands a field over to the handler of enums. -/
def rowHandler (f : Field) : String := if f.isEnum then " typeHandler=\"" ++ enumHandler ++ "\"" else ""

/-- A field as a row of the result map. -/
def rowText (tag : String) (f : Field) : String :=
  "        <" ++ tag ++ " column=\"" ++ f.column ++ "\" property=\"" ++ f.name ++ "\"" ++ rowHandler f ++ "/>"

def valueHandler (f : Field) : String := if f.isEnum then ", typeHandler=" ++ enumHandler else ""

/-- A field as a value of an inserted item. -/
def valueText (f : Field) : String := "#\x7bitem." ++ f.name ++ valueHandler f ++ "\x7d"

def columnText (f : Field) : String := "        t1." ++ f.column

namespace Mapping

variable {m : Mapping}

theorem rows_eq (m : Mapping) :
    m.rows = m.entity.placed.map fun x => MappingRow.ofField (m.entity.isIdPlace x) x.1 := by
  unfold rows Entity.placed
  rw [List.mapIdx_eq_zipIdx_map]
  rfl

theorem insertRows_eq (m : Mapping) : m.insertRows = m.entity.inserted.map fun x => MappingRow.ofField false x.1 := by
  unfold insertRows Entity.inserted
  rw [rows_eq, List.filter_map]
  refine List.map_congr_left fun x hx => ?_
  have hx : (!m.entity.isIdPlace x) = true := (List.mem_filter.1 hx).2
  rw [Bool.not_eq_true'] at hx
  rw [hx]

theorem element_ofField (isId : Bool) (f : Field) :
    (MappingRow.ofField isId f).element = rowText (if isId then "id" else "result") f := rfl

theorem opens_id (r : MappingRow) : startsWith r.element "        <id " = r.isId := by
  have hid : ("        <" ++ "id" ++ " column=\"" : String) = "        <id column=\"" := by decide
  have hresult : ("        <" ++ "result" ++ " column=\"" : String) = "        <result column=\"" := by decide
  have happend (s t : String) : startsWith (s ++ t) "        <id " =
      (after? "        <id ".toList (s.toList ++ t.toList)).isSome := by
    rw [startsWith, String.toList_append]
  unfold MappingRow.element
  cases r.isId
  · rw [if_neg Bool.false_ne_true, hresult]
    simp only [String.append_assoc]
    rw [happend]
    rfl
  · rw [if_pos rfl, hid]
    simp only [String.append_assoc]
    rw [happend]
    rfl

theorem countP_id_rows (m : Mapping) : (m.rows.map (·.element)).countP (startsWith · "        <id ") =
    if m.entity.idField?.isSome then 1 else 0 := by
  have hmarked : (m.rows.map (·.element)).countP (startsWith · "        <id ") = m.rows.countP (·.isId) := by
    rw [List.countP_map]
    exact List.countP_congr fun r _ => by rw [Function.comp_apply, opens_id]
  have hplaced : m.rows.countP (·.isId) = (m.entity.placed.filter m.entity.isIdPlace).length := by
    rw [rows_eq, List.countP_map, List.countP_eq_length_filter]
    rfl
  rw [hmarked, hplaced, Entity.filter_isIdPlace, ← Entity.idPlaced?_field]
  cases m.entity.idPlaced? <;> rfl

/-- How the lists of a document go together, given the id and the fields that an insert fills. -/
structure Agrees (m : Mapping) (id? : Option (Field × Nat)) (inserted : List (Field × Nat)) : Prop where
  id_field : id?.map Prod.fst = m.entity.idField?
  id_place : ∀ x ∈ id?, m.entity.IsId x
  rows : m.rows.map (·.element) = m.entity.placed.map fun x => rowText (if id? = some x then "id" else "result") x.1
  id_rows : (m.rows.map (·.element)).countP (startsWith · "        <id ") = if m.entity.idField?.isSome then 1 else 0
  columns : m.rows.map (fun r => "        t1." ++ r.column) = m.entity.placed.map fun x => columnText x.1
  insert_columns : m.insertRows.map (·.column) = inserted.map fun x => x.1.column
  insert_values : m.insertRows.map (·.value) = inserted.map fun x => valueText x.1
  in_order : inserted.Sublist m.entity.placed
  complete : (id?.toList ++ inserted).Perm m.entity.placed

theorem agrees (m : Mapping) : m.Agrees m.entity.idPlaced? m.entity.inserted where
  id_field := m.entity.idPlaced?_field
  id_place x hx := Entity.idPlaced?_isId hx
  rows := by
    rw [rows_eq, List.map_map]
    refine List.map_congr_left fun x hx => ?_
    rw [Function.comp_apply, element_ofField]
    simp only [Entity.isIdPlace_iff hx]
  id_rows := m.countP_id_rows
  columns := by
    rw [rows_eq, List.map_map]
    rfl
  insert_columns := by
    rw [insertRows_eq, List.map_map]
    rfl
  insert_values := by
    rw [insertRows_eq, List.map_map]
    rfl
  in_order := List.filter_sublist
  complete := m.entity.idPlaced?_inserted_perm

theorem infix_between (front s back : String) : s.toList <:+: (front ++ s ++ back).toList := by
  rw [String.toList_append, String.toList_append]
  exact ⟨front.toList, back.toList, rfl⟩

theorem infix_of_line {s line : String} {part : List String} (hs : s.toList <:+: line.toList) (hline : line ∈ part)
    (hpart : part ∈ m.sections) : s.toList <:+: m.template.content.toList :=
  hs.trans ((infix_intercalate hline).trans (infix_template hpart))

/-- An enum that is marked as the id, and a field that equals it. -/
def twinEntity : Entity where
  name := "Order"
  package := "shop"
  fields := [{ name := "kind", typeName := "Kind", isEnum := true, isId := true },
    { name := "kind", typeName := "Kind", isEnum := true, isId := true }]

/-- Only the first of two equal fields is the id; an insert fills the other one. -/
example : let m : Mapping := { entity := twinEntity, dao := { name := "OrderDao", package := "shop" } }
    (m.rows.map (·.isId), m.insertRows.map (·.value)) =
      ([true, false], ["#\x7bitem.kind, typeHandler=org.apache.ibatis.type.EnumOrdinalTypeHandler\x7d"]) := by
  decide

end Mapping

end Artifact

end Scaffold
