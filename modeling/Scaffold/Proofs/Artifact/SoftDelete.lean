import Mathlib.Data.List.Chain
import Scaffold.Proofs.Artifact.Characters
import Scaffold.Proofs.Artifact.Rendering

/-! Soft deletion: an entity with a deletion flag is nowhere deleted from its table, and what is flagged is read
neither by the service nor by the mapping document; an entity without one is not restricted at all. -/

namespace Scaffold

namespace Text

/-- No dot stands right before a `d`. Only calls that begin with that letter come behind such a dot. -/
def Calm (s : String) : Prop := s.toList.IsChain fun a b => a ≠ '.' ∨ b ≠ 'd'

instance (s : String) : Decidable (Calm s) := inferInstanceAs (Decidable (List.IsChain _ _))

theorem calm_of_undotted {s : String} (h : '.' ∉ s.toList) : Calm s := by
  refine List.Pairwise.isChain (List.pairwise_of_forall_mem_list fun a ha _ _ => .inl ?_)
  rintro rfl
  exact h ha

theorem Calm.append {s t : String} (hs : Calm s) (hend : s.toList.getLast? ≠ some '.') (ht : Calm t) :
    Calm (s ++ t) := by
  unfold Calm
  rw [String.toList_append, List.isChain_append]
  refine ⟨hs, ht, fun a ha b _ => .inl ?_⟩
  rintro rfl
  exact hend ha

theorem Calm.undotted {s t : String} (hs : '.' ∉ s.toList) (ht : Calm t) : Calm (s ++ t) :=
  (calm_of_undotted hs).append (fun h => hs (List.mem_of_getLast? h)) ht

theorem Calm.before {s t : String} (hs : Calm s) (hhead : t.toList.head? ≠ some 'd') (ht : Calm t) :
    Calm (s ++ t) := by
  unfold Calm
  rw [String.toList_append, List.isChain_append]
  refine ⟨hs, ht, fun a _ b hb => .inr ?_⟩
  rintro rfl
  exact hhead hb

/-- A text that can stand between any others. -/
def Joint (t : String) : Prop :=
  Calm t ∧ t.toList.head?.any (· != 'd') = true ∧ t.toList.getLast?.any (· != '.') = true

instance (t : String) : Decidable (Joint t) := inferInstanceAs (Decidable (_ ∧ _))

theorem Calm.then {s t : String} (hs : Calm s) (ht : Joint t) : Calm (s ++ t) := by
  refine hs.before (fun hhead => ?_) ht.1
  have hne := ht.2.1
  rw [hhead] at hne
  exact absurd hne (by decide)

theorem Calm.around {s t u : String} (hs : Calm s) (ht : Joint t) (hu : Calm u) : Calm (s ++ t ++ u) := by
  refine (hs.then ht).append (fun hlast => ?_) hu
  have hne := ht.2.2
  rw [String.toList_append, List.getLast?_append] at hlast
  rcases hend : t.toList.getLast? with _ | c
  · rw [hend] at hne
    exact nomatch hne
  · rw [hend, Option.some_or] at hlast
    rw [hend, Option.some.inj hlast] at hne
    exact absurd hne (by decide)

theorem Calm.no_deletion {s : String} (h : Calm s) : ¬ "repository.deleteById".toList <:+: s.toList := by
  intro hinfix
  have hpart : Calm "repository.deleteById" := List.IsChain.infix h hinfix
  exact absurd hpart (by decide +kernel)

/-- The characters whose capitals stand in the tables have no image among the signs of ASCII. -/
theorem toUppercase_images : (∀ entry ∈ Table.toUppercase, 65 ≤ entry.2.2.2) ∧
    ∀ entry ∈ Table.toUppercaseMany, ∀ n ∈ entry.2, 65 ≤ n := by
  decide +kernel

theorem upperChar_ne {c d : Char} (hd : 0 < d.toNat ∧ d.toNat < 65) (h : c ≠ d) : upperChar c ≠ d := by
  have hzero : d.toNat ≠ 0 := by omega
  unfold upperChar
  -- Capitals of ASCII lie behind `d` in the order of characters, and so do the images in the table.
  by_cases hascii : c.toNat < 128
  · rw [if_pos hascii]
    by_cases hlower : isLower c = true
    · rw [if_pos hlower]
      refine ofNat_ne rfl hzero fun hn => ?_
      unfold isLower at hlower
      rw [if_pos hascii] at hlower
      have hlow : 'a'.toNat ≤ c.toNat := of_decide_eq_true (Bool.and_eq_true_iff.1 hlower).1
      change 97 ≤ c.toNat at hlow
      omega
    · rw [if_neg hlower]
      exact h
  · rw [if_neg hascii]
    rcases hf : Table.toUppercase.find? _ with _ | ⟨first, last, step, image⟩
    · exact h
    · have himage := toUppercase_images.1 _ (List.mem_of_find?_eq_some hf)
      refine ofNat_ne rfl hzero ?_
      change 65 ≤ image at himage
      omega

theorem not_mem_upperForm {c d : Char} (hd : 0 < d.toNat ∧ d.toNat < 65) (h : c ≠ d) : d ∉ upperForm c := by
  unfold upperForm
  rcases hf : Table.toUppercaseMany.find? _ with _ | ⟨code, images⟩
  · rw [List.mem_singleton]
    exact (upperChar_ne hd h).symm
  · intro hmem
    obtain ⟨n, hn, heq⟩ := List.mem_map.1 hmem
    have himage := toUppercase_images.2 _ (List.mem_of_find?_eq_some hf) n hn
    exact ofNat_ne rfl (by omega) (by omega) heq

end Text

/-- Capitals bring no dots, brackets or other signs into a name. -/
theorem Name.not_mem_upperFirst {d : Char} (hd : 0 < d.toNat ∧ d.toNat < 65) {name : String}
    (h : d ∉ name.toList) : d ∉ (upperFirst name).toList := by
  unfold upperFirst
  split
  · exact List.not_mem_nil
  · rw [String.toList_ofList]
    cases hs : name.toList with
    | nil => exact List.not_mem_nil
    | cons c rest =>
      rw [hs] at h
      refine fun hmem => (List.mem_append.1 hmem).elim (Text.not_mem_upperForm hd ?_) fun hr => ?_
      · rintro rfl
        exact h List.mem_cons_self
      · exact h (List.mem_cons_of_mem c hr)

namespace Artifact

open Scaffold.Entity (Field)
open Scaffold.Text

/-- Names are identifiers. Types are read by their last segment, so the time of creation has one without a dot. -/
structure Undotted (p : ServicePlan) : Prop where
  entity : '.' ∉ p.entity.name.toList
  dto : '.' ∉ p.deps.dto.name.toList
  names : ∀ f ∈ p.entity.allFields, '.' ∉ f.name.toList
  stampType : ∀ f, p.createTime? = some f → '.' ∉ f.typeName.toList

section Texts

variable {f : Field}

theorem not_mem_setter {d : Char} (hd : 0 < d.toNat ∧ d.toNat < 65) (h : d ∉ f.name.toList) :
    d ∉ (setter f).toList := by
  unfold setter setterName
  rw [String.toList_append, List.mem_append, not_or]
  refine ⟨fun hmem => ?_, Name.not_mem_upperFirst hd h⟩
  have hletters : "set".toList.all (65 ≤ ·.toNat) = true := by decide
  have hletter := of_decide_eq_true (List.all_eq_true.1 hletters d hmem)
  omega

theorem not_mem_getter {d : Char} (hd : 0 < d.toNat ∧ d.toNat < 65) (h : d ∉ f.name.toList) :
    d ∉ (getter f).toList := by
  unfold getter
  rw [String.toList_append, List.mem_append, not_or]
  refine ⟨fun hmem => ?_, Name.not_mem_upperFirst hd h⟩
  have hletters : (if f.typeName == "boolean" then "is" else "get").toList.all (65 ≤ ·.toNat) = true := by
    split <;> decide
  have hletter := of_decide_eq_true (List.all_eq_true.1 hletters d hmem)
  omega

theorem dot_not_mem_setter (h : '.' ∉ f.name.toList) : '.' ∉ (setter f).toList := not_mem_setter (by decide) h

theorem dot_not_mem_getter (h : '.' ∉ f.name.toList) : '.' ∉ (getter f).toList := not_mem_getter (by decide) h

theorem calm_call (var : String) (hv : Calm (var ++ ".")) {name : String} (hn : '.' ∉ name.toList)
    (hhead : name.toList.head? ≠ some 'd') : Calm (var ++ "." ++ name) :=
  hv.before hhead (calm_of_undotted hn)

theorem calm_set {front : String} (hfront : Calm front) (h : '.' ∉ f.name.toList) : Calm (front ++ setter f) := by
  refine hfront.before ?_ (calm_of_undotted (dot_not_mem_setter h))
  rw [setter, setterName, head?_append (show "set".toList.head? = some 's' from rfl)]
  decide

theorem calm_readOf {var : String} (hv : Calm (var ++ ".")) (h : '.' ∉ f.name.toList) :
    Calm (readOf f var) ∧ (readOf f var).toList.getLast? = some ')' := by
  unfold readOf
  refine ⟨(calm_call var hv (dot_not_mem_getter h) ?_).before (by decide) (by decide), ?_⟩
  · unfold getter
    split
    · rw [head?_append (show "is".toList.head? = some 'i' from rfl)]
      decide
    · rw [head?_append (show "get".toList.head? = some 'g' from rfl)]
      decide
  · rw [String.toList_append, List.getLast?_append]
    rfl

theorem mem_of_mem_rawOf {c : Char} {typeName : String} (h : c ∈ (Entity.rawOf typeName).toList) :
    c ∈ typeName.toList := by
  have hdims : ∀ {t : List Char}, c ∈ Entity.dropDimensions t → c ∈ t := by
    intro t ht
    induction t using Entity.dropDimensions.induct with
    | case1 => exact ht
    | case2 rest ih => exact List.mem_cons_of_mem _ (List.mem_cons_of_mem _ (ih ht))
    | case3 x rest hne ih =>
      rw [Entity.dropDimensions] at ht
      · rcases List.mem_cons.1 ht with rfl | ht
        · exact List.mem_cons_self
        · exact List.mem_cons_of_mem _ (ih ht)
      · exact hne
  unfold Entity.rawOf at h
  rw [String.toList_ofList] at h
  refine mem_of_mem_trimChars (hdims ?_)
  split at h
  · exact (List.takeWhile_sublist _).subset (mem_of_mem_trimChars h)
  · exact h

theorem calm_of_lookup {table : List (String × String)} (ht : ∀ entry ∈ table, Calm entry.2) {key fallback : String}
    (hf : Calm fallback) : Calm ((table.lookup key).getD fallback) := by
  rcases h : table.lookup key with _ | text
  · exact hf
  · exact ht (key, text) (Entries.mem_of_lookup h)

theorem calm_nowExpression (h : '.' ∉ f.typeName.toList) : Calm (nowExpression f) :=
  calm_of_lookup (by decide) (.undotted (fun hmem => h (mem_of_mem_rawOf hmem)) (by decide))

theorem dot_not_mem_flagValue (f : Field) : '.' ∉ (flagValue f).toList := by
  have hvalues : ∀ entry ∈ flagValues, '.' ∉ entry.2.toList := by decide
  unfold flagValue
  split
  · decide
  · cases hlookup : flagValues.lookup f.rawType with
    | none => decide
    | some value => exact hvalues _ (Entries.mem_of_lookup hlookup)

theorem calm_flagValue (f : Field) : Calm (flagValue f) := calm_of_undotted (dot_not_mem_flagValue f)

theorem calm_isFlagged {var : String} (hv : Calm (var ++ ".")) (h : '.' ∉ f.name.toList) :
    Calm (isFlagged f var) := by
  obtain ⟨hread, hend⟩ := calm_readOf hv h
  have hclosed : (readOf f var).toList.getLast? ≠ some '.' := by
    rw [hend]
    decide
  unfold isFlagged
  split
  · exact hread
  · rw [String.append_assoc]
    exact .append (by decide) (by decide) (hread.append hclosed (by decide))
  · exact hread.append hclosed (by decide)
  · rw [String.append_assoc, String.append_assoc, String.append_assoc]
    exact .append (by decide) (by decide) (hread.append hclosed
      (.append (by decide) (by decide) ((calm_flagValue f).before (by decide) (by decide))))

theorem calm_unsetCheck {var : String} (hv : Calm (var ++ ".")) (h : '.' ∉ f.name.toList) :
    Calm (unsetCheck f var) := by
  unfold unsetCheck
  refine (calm_readOf hv h).1.then ?_
  split <;> decide

end Texts

section Bodies

variable {p : ServicePlan} (hu : Undotted p)

theorem mem_of_fieldIf {p : ServicePlan} {enabled : Bool} {name : String} {f : Field}
    (h : p.fieldIf? enabled name = some f) : f ∈ p.entity.allFields := by
  unfold ServicePlan.fieldIf? at h
  split at h
  · exact List.mem_of_find?_eq_some h
  · exact nomatch h

theorem name_of_fieldIf {p : ServicePlan} {f : Field} {enabled : Bool} {name : String}
    (h : p.fieldIf? enabled name = some f) : f.name = name := by
  unfold ServicePlan.fieldIf? at h
  split at h
  · have hfound : p.entity.allFields.find? (·.name == name) = some f := h
    have hname := List.find?_some hfound
    exact eq_of_beq hname
  · exact nomatch h

include hu

theorem Undotted.id : '.' ∉ p.id.name.toList := by
  unfold ServicePlan.id
  rcases h : p.entity.idField? with _ | f
  · exact show '.' ∉ "id".toList by decide
  · obtain ⟨i, -, hi⟩ := Option.bind_eq_some_iff.1 h
    exact hu.names f (List.mem_of_getElem? hi)

theorem calm_stamp : ∀ l ∈ p.stamp, Calm l := by
  unfold ServicePlan.stamp
  rcases h : p.createTime? with _ | f
  · exact nofun
  · have hf := mem_of_fieldIf h
    have hset : Calm ("    entity." ++ setter f) := calm_set (by decide) (hu.names f hf)
    simp only [List.forall_mem_cons]
    refine ⟨?_, ?_, by decide, nofun⟩
    · refine Calm.then (.append (by decide) (by decide) ?_) (by decide)
      exact calm_unsetCheck (by decide) hu.id
    · exact (hset.around (by decide) (calm_nowExpression (hu.stampType f h))).then (by decide)

theorem calm_saveMethods : ∀ m ∈ p.saveMethods, ∀ l ∈ m.body, Calm l := by
  have hentity := calm_of_undotted hu.entity
  have hdto := calm_of_undotted hu.dto
  simp only [ServicePlan.saveMethods, List.forall_mem_cons]
  refine ⟨fun l hl => ?_, fun l hl => ?_, nofun⟩
  · rcases List.mem_append.1 hl with hl | hl
    · rcases List.mem_append.1 hl with hl | hl
      · rw [List.mem_singleton.1 hl]
        exact hentity.then (by decide)
      · exact calm_stamp hu l hl
    · rw [List.mem_singleton.1 hl]
      decide
  · split at hl
    · simp only [List.mem_cons, List.not_mem_nil, or_false] at hl
      rcases hl with rfl | rfl | rfl
      · exact (Calm.append (by decide) (by decide) hdto).then (by decide)
      · decide
      · decide
    · rw [List.mem_singleton.1 hl]
      decide

theorem calm_rowMethods {f : Field} (hf : p.deleted? = some f) : ∀ m ∈ p.rowMethods, ∀ l ∈ m.body, Calm l := by
  have hname := hu.names f (mem_of_fieldIf hf)
  have hset : Calm ("    entity." ++ setter f) := calm_set (by decide) hname
  have htest : Calm (isFlagged f "entity") := calm_isFlagged (by decide) hname
  simp only [ServicePlan.rowMethods, ServicePlan.deleteBody, ServicePlan.findOneBody, hf, List.forall_mem_cons]
  -- The lines that name the flag are the only ones that depend on the entity.
  refine ⟨⟨by decide, ?_, by decide, by decide, nofun⟩, ⟨by decide, ?_, by decide, nofun⟩, nofun⟩
  · exact (hset.around (by decide) (calm_flagValue f)).then (by decide)
  · exact (Calm.append (by decide) (by decide) htest).then (by decide)

theorem calm_readMethods : ∀ m ∈ p.readMethods, ∀ l ∈ m.body, Calm l := by
  have hentity := calm_of_undotted hu.entity
  have hdto := calm_of_undotted hu.dto
  have hpage : ∀ {name : String}, Calm name → Calm ("PageInfo<" ++ name) :=
    .append (by decide) (by decide)
  simp only [ServicePlan.readMethods, ServicePlan.pageBody, List.forall_mem_cons]
  refine ⟨⟨by decide, nofun⟩, ⟨by decide, nofun⟩, ⟨by decide, ?_, ?_, by decide, by decide,
    by decide, by decide, by decide, nofun⟩, ⟨by decide, nofun⟩, nofun⟩
  · exact (hpage hentity).then (by decide)
  · exact (hpage hdto).then (by decide)

theorem calm_loadOwned {idText : String} (hid : Calm idText) : ∀ l ∈ p.loadOwned idText, Calm l := by
  have hentity := calm_of_undotted hu.entity
  simp only [ServicePlan.loadOwned, List.forall_mem_cons]
  refine ⟨?_, ?_, by decide, nofun⟩
  · exact (hentity.around (by decide) hid).then (by decide)
  · exact (Calm.append (by decide +kernel) (by decide) hid).then (by decide)

theorem calm_ownerMethods : ∀ m ∈ p.ownerMethods, ∀ l ∈ m.body, Calm l := by
  unfold ServicePlan.ownerMethods
  rcases h : p.owner? with _ | f
  · exact nofun
  have hname := hu.names f (mem_of_fieldIf h)
  have hid : Calm (readOf p.id "dto") := (calm_readOf (by decide) hu.id).1
  have hset : ∀ {g : Field}, '.' ∉ g.name.toList → Calm ("dto." ++ setter g) := calm_set (by decide)
  have hown : Calm ("dto." ++ setter f ++ "(userId);") := (hset hname).then (by decide)
  simp only [ServicePlan.ownerMethodsOf, List.forall_mem_cons, List.forall_mem_append]
  refine ⟨⟨?_, hown, by decide, nofun⟩, ⟨⟨⟨?_, by decide +kernel, by decide, nofun⟩, calm_loadOwned hu hid⟩,
    hown, by decide, nofun⟩, ⟨calm_loadOwned hu (by decide), by decide, nofun⟩,
    ⟨?_, by decide +kernel, by decide, nofun⟩, nofun⟩
  · exact (hset hu.id).then (by decide)
  · exact (Calm.append (by decide) (by decide) hid).then (by decide)
  · exact (Calm.append (by decide) (by decide) (calm_readOf (by decide) hname).1).then (by decide)

theorem calm_methods {f : Field} (hf : p.deleted? = some f) : ∀ m ∈ p.methods, ∀ l ∈ m.body, Calm l := by
  unfold ServicePlan.methods
  simp only [List.forall_mem_append]
  exact ⟨⟨⟨calm_saveMethods hu, calm_rowMethods hu hf⟩, calm_readMethods hu⟩, calm_ownerMethods hu⟩

end Bodies

/-- A service that marks a row as deleted where others delete it, and passes over marked rows. -/
structure SoftDeletes (c : ServiceClass) (f : Field) : Prop where
  delete : ∃ m, c.emitted.filter (·.operation == .delete) = [m] ∧
    m.signature = "void delete(" ++ c.plan.entity.idType ++ " id)" ∧
    m.body = ["repository.findById(id).ifPresent(entity -> \x7b",
      "    entity." ++ setter f ++ "(" ++ flagValue f ++ ");", "    repository.save(entity);", "\x7d);"]
  findOne : ∃ m, c.emitted.filter (·.operation == .findOne) = [m] ∧
    m.signature = "Optional<" ++ c.plan.deps.dto.name ++ "> findOne(" ++ c.plan.entity.idType ++ " id)" ∧
    m.body = ["return repository.findById(id)",
      "        .filter(entity -> !(" ++ isFlagged f "entity" ++ "))", "        .map(mapper::toDto);"]
  keepsRows : ∀ m ∈ c.emitted, ∀ l ∈ m.body, ¬ "repository.deleteById".toList <:+: l.toList

/-- A service that deletes rows itself, or leaves that to the service it builds on. -/
structure HardDeletes (c : ServiceClass) : Prop where
  delete : c.emitted.filter (·.operation == .delete) =
    if c.plan.superMode then [] else
      [{ operation := .delete, signature := "void delete(" ++ c.plan.entity.idType ++ " id)"
         body := ["repository.deleteById(id);"] }]
  findOne : ∀ m ∈ c.emitted, m.operation = .findOne →
    m.body = ["return repository.findById(id).map(mapper::toDto);"]

def opensIf (l : String) : Bool := startsWith l "            <if "

def closesIf (l : String) : Bool := startsWith l "            </if>"

/-- A mapping document whose reading statements pass over rows that are marked in a column. The mark of the
shared conditions stands outside the optional ones. -/
structure Restricts (m : Mapping) (column : String) : Prop where
  conditions : ∃ front, m.conditions =
      front ++ ["            and t1." ++ column ++ " = 0", "        </where>", "    </sql>"] ∧
    front.countP opensIf = front.countP closesIf
  query : "        <include refid=\"conditions\"/>" ∈ Mapping.selectQuery
  count : "        <include refid=\"conditions\"/>" ∈ Mapping.selectCount
  findAll : m.selectAll = ["    <select id=\"findAll\" resultMap=\"resultMap\">",
    "        <include refid=\"baseSelect\"/>", "        where t1." ++ column ++ " = 0", "    </select>"]

/-- The parts of a mapping document that read rows, or are included where rows are read. -/
def Mapping.reading (m : Mapping) : List (List String) :=
  [m.conditions, Mapping.selectQuery, Mapping.selectCount, m.selectAll]

def Unrestricted (m : Mapping) : Prop := ∀ part ∈ m.reading, ∀ l ∈ part, endsWith l " = 0" = false

section Emission

variable {c : ServiceClass}

theorem emitted_filter {o : Operation} (ho : o = .delete ∨ o = .findOne) :
    c.emitted.filter (·.operation == o) =
      if c.plan.superMode && c.plan.deleted?.isNone then [] else c.plan.rowMethods.filter (·.operation == o) := by
  have hsave : c.plan.saveMethods.filter (·.operation == o) = [] := by
    rcases ho with rfl | rfl <;> rfl
  have hread : c.plan.readMethods.filter (·.operation == o) = [] := by
    rcases ho with rfl | rfl <;> rfl
  have hown : c.plan.ownerMethods.filter (·.operation == o) = [] := by
    unfold ServicePlan.ownerMethods
    cases c.plan.owner? <;> rcases ho with rfl | rfl <;> rfl
  unfold ServiceClass.emitted ServicePlan.methods
  rw [List.filter_comm]
  simp only [List.filter_append, hsave, hread, hown, List.nil_append, List.append_nil]
  cases hi : c.plan.superMode && c.plan.deleted?.isNone <;>
    rcases ho with rfl | rfl <;> simp [ServicePlan.rowMethods, hi]

theorem softDeletes {f : Field} (hu : Undotted c.plan) (hf : c.plan.deleted? = some f) : SoftDeletes c f where
  delete := by
    rw [emitted_filter (.inl rfl), hf]
    simp [ServicePlan.rowMethods, ServicePlan.deleteBody, hf]
  findOne := by
    rw [emitted_filter (.inr rfl), hf]
    simp [ServicePlan.rowMethods, ServicePlan.findOneBody, hf]
  keepsRows m hm l hl := (calm_methods hu hf m (List.mem_of_mem_filter hm) l hl).no_deletion

theorem hardDeletes (hf : c.plan.deleted? = none) : HardDeletes c where
  delete := by
    rw [emitted_filter (.inl rfl), hf]
    cases hi : c.plan.superMode <;> simp [ServicePlan.rowMethods, ServicePlan.deleteBody, hf, hi]
  findOne m hm ho := by
    have hmem : m ∈ c.emitted.filter (·.operation == .findOne) :=
      List.mem_filter.2 ⟨hm, beq_iff_eq.2 ho⟩
    rw [emitted_filter (.inr rfl), hf] at hmem
    cases hi : c.plan.superMode <;>
      simp [ServicePlan.rowMethods, ServicePlan.findOneBody, hf, hi] at hmem
    rw [hmem]

end Emission

section Document

variable {m : Mapping}

theorem find?_mapIdx {α β γ : Type} {q : β → Bool} {r : α → Bool} {π : β → γ} {ρ : α → γ} (l : List α) :
    ∀ {g : Nat → α → β}, (∀ i a, q (g i a) = r a) → (∀ i a, π (g i a) = ρ a) →
      ((l.mapIdx g).find? q).map π = (l.find? r).map ρ := by
  induction l with
  | nil => exact fun _ _ => rfl
  | cons a rest ih =>
    intro g hq hπ
    rw [List.mapIdx_cons, List.find?_cons, List.find?_cons, hq]
    cases r a with
    | true => exact congrArg some (hπ 0 a)
    | false => exact ih (fun i => hq (i + 1)) fun i => hπ (i + 1)

theorem row_column (m : Mapping) (name : String) :
    (m.rows.find? (·.property == name)).map (·.column) = (m.entity.findField? name).map (·.column) :=
  find?_mapIdx _ (fun _ _ => rfl) fun _ _ => rfl

theorem condition_plain (rest : String) :
    opensIf ("                and t1." ++ rest) = false ∧ closesIf ("                and t1." ++ rest) = false := by
  unfold opensIf closesIf startsWith
  rw [String.toList_append]
  exact ⟨rfl, rfl⟩

theorem restricts {f : Field} (hs : m.softDelete = true) (hf : m.entity.findField? "deleted" = some f) :
    Restricts m f.column := by
  have hmark : m.notDeleted = "t1." ++ f.column ++ " = 0" := by
    unfold Mapping.notDeleted Mapping.deletedColumn
    rw [hf]
    rfl
  refine ⟨?_, by simp [Mapping.selectQuery], by simp [Mapping.selectCount], ?_⟩
  · unfold Mapping.conditions
    rw [if_pos hs, hmark, List.append_assoc]
    -- In front of the mark, every optional part that is opened is closed again.
    refine ⟨_, rfl, ?_⟩
    simp +decide [condition_plain, String.append_assoc]
  · unfold Mapping.selectAll
    rw [if_pos hs, hmark]
    rfl

theorem unrestricted (hs : m.softDelete = false) : Unrestricted m := by
  have hend : ∀ s t : String, endsWith (s ++ t) t = true := fun s t => by
    rw [endsWith_iff, String.toList_append]
    exact List.suffix_append _ _
  have hplain : ∀ s t : String, (¬ " = 0".toList <:+ t.toList ∧ ¬ t.toList <:+ " = 0".toList) →
      endsWith (s ++ t) " = 0" = false := fun s t h => not_endsWith (hend s t) h
  unfold Unrestricted Mapping.reading Mapping.conditions Mapping.selectAll
  rw [if_neg (Bool.eq_false_iff.1 hs), if_neg (Bool.eq_false_iff.1 hs), List.append_nil, List.append_nil]
  simp only [List.forall_mem_cons, List.forall_mem_append]
  refine ⟨⟨?_, by decide +kernel⟩, by decide +kernel, by decide +kernel, by decide +kernel, nofun⟩
  -- Among the conditions the lines with a column are the three that are built, and these end otherwise.
  refine ⟨by decide +kernel, by decide +kernel, by decide +kernel, hplain _ _ ?_, by decide +kernel,
    by decide +kernel, hplain _ _ ?_, by decide +kernel, by decide +kernel, hplain _ _ ?_, by decide +kernel,
    by decide +kernel, by decide +kernel, by decide +kernel, nofun⟩ <;> decide

end Document

/-- The service, whichever class holds it and whatever it builds on, and the mapping document agree on soft
deletion. With a field for it, rows are marked instead of deleted, and every reading path passes over the marked
ones by the column that the result map gives to the field. Without one, rows are deleted, and nothing is
restricted. -/
theorem soft_delete_complete (e : Entity) (s : Settings) (deps : ServiceDeps) (dao : Handle)
    (hu : Undotted ⟨e, s.forEntity e, deps⟩) (name : String) (kind : ArtifactKind) (interface? : Option Handle) :
    let c : ServiceClass := { name, kind, plan := ⟨e, s.forEntity e, deps⟩, interface? }
    let m : Mapping := { entity := e, dao, softDelete := (s.forEntity e).withDeleted }
    (e.hasField "deleted" = true → ∃ f row, e.findField? "deleted" = some f ∧ SoftDeletes c f ∧
      m.rows.find? (·.property == "deleted") = some row ∧ Restricts m row.column) ∧
    (e.hasField "deleted" = false → HardDeletes c ∧ Unrestricted m) ∧
    (∀ package, ∀ x ∈ c.emitted, (x.render (c.overrides x)).toList <:+: (c.template package).content.toList) ∧
    ∀ part ∈ m.reading, (unlines part).toList <:+: m.template.content.toList := by
  intro c m
  have hflag : (s.forEntity e).withDeleted = e.hasField "deleted" := rfl
  refine ⟨fun hfield => ?_, fun hnone => ⟨hardDeletes ?_, unrestricted (hflag.trans hnone)⟩,
    fun package x hx => ServiceClass.infix_template hx package, fun part hpart => Mapping.infix_template ?_⟩
  · obtain ⟨f, hf⟩ := Option.isSome_iff_exists.1 ((e.findField?_isSome "deleted").trans hfield)
    have hdeleted : c.plan.deleted? = some f := by
      unfold ServicePlan.deleted? ServicePlan.fieldIf?
      rw [if_pos (hflag.trans hfield)]
      exact hf
    have hcolumn := row_column m "deleted"
    rw [show m.entity.findField? "deleted" = some f from hf] at hcolumn
    obtain ⟨row, hrow, hsame⟩ := Option.map_eq_some_iff.1 hcolumn
    refine ⟨f, row, hf, softDeletes hu hdeleted, hrow, ?_⟩
    rw [hsame]
    exact restricts (hflag.trans hfield) hf
  · unfold ServicePlan.deleted? ServicePlan.fieldIf?
    rw [if_neg (Bool.eq_false_iff.1 (hflag.trans hnone))]
  · simp only [Mapping.reading, List.mem_cons, List.not_mem_nil, or_false] at hpart
    rcases hpart with rfl | rfl | rfl | rfl <;> simp [Mapping.sections]

def flaggedEntity : Entity where
  name := "Order"
  package := "shop"
  annotations := ["Entity"]
  fields := [{ name := "id", typeName := "Long", isId := true },
    { name := "deleted", typeName := "Boolean", columnName := some "is_deleted" }]

/-- Behind a super service, with an interface, and with a column of its own. -/
theorem soft_delete_complete_sample :
    let handle (name : String) : Handle := { name, package := "shop" }
    let s : Settings := { withSuper := true, superService := some "base.BaseService" }
    let deps : ServiceDeps := ⟨handle "OrderDTO", handle "OrderQuery", handle "OrderMapper",
      handle "OrderRepository", handle "OrderDao"⟩
    let c : ServiceClass := { name := "OrderServiceImpl", kind := .serviceImpl
                              plan := ⟨flaggedEntity, s.forEntity flaggedEntity, deps⟩
                              interface? := some (handle "OrderService") }
    flaggedEntity.hasField "deleted" = true ∧ c.plan.superMode = true ∧
      ∃ (f : Field) (row : MappingRow), SoftDeletes c f ∧ row.column = "is_deleted" ∧
        Restricts { entity := flaggedEntity, dao := handle "OrderDao", softDelete := true } row.column := by
  intro handle s deps c
  have hu : Undotted ⟨flaggedEntity, s.forEntity flaggedEntity, deps⟩ :=
    ⟨by decide, by decide, by decide, nofun⟩
  obtain ⟨hsoft, -⟩ := soft_delete_complete flaggedEntity s deps (handle "OrderDao") hu "OrderServiceImpl"
    .serviceImpl (some (handle "OrderService"))
  have hfield : flaggedEntity.hasField "deleted" = true := by decide
  obtain ⟨f, row, -, hdeletes, hrow, hrestricts⟩ := hsoft hfield
  refine ⟨hfield, by decide, f, row, hdeletes, ?_, hrestricts⟩
  have hcolumn := congrArg (Option.map MappingRow.column) hrow
  exact (Option.some.inj hcolumn).symm

end Artifact

end Scaffold
