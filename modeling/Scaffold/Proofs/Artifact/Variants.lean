import Mathlib.Data.List.Nodup
import Scaffold.Artifact.Dto
import Scaffold.Proofs.Artifact.Alignment
import Scaffold.Proofs.Artifact.Heading
import Scaffold.Proofs.Artifact.SoftDelete

/-! The variants of a data transfer class. What each of them declares can be read off the lines of its text. The one
for updates is to have every field that is no audit field, the one for additions all of these but the id; a base class
and the mark of an id decide how far that is so. -/

namespace Scaffold

open Scaffold.Text
open Scaffold.Entity (Field)

namespace Artifact

section Lines

/-- How the line of a private member begins. -/
def memberOpening : String := "    private "

/-- The lines of a text that declare a private member. -/
def memberLines (text : String) : List String :=
  ((segments '\n' text.toList).map String.ofList).filter (startsWith · memberOpening)

variable {s t front : String} {ls : List String}

theorem segments_append (sep : Char) (a b : List Char) :
    segments sep (a ++ sep :: b) = segments sep a ++ segments sep b := by
  simp only [segments_eq_splitOn, List.splitOn]
  exact List.splitOnP_append_cons a b (beq_self_eq_true sep)

theorem segments_of_not_mem {sep : Char} {a : List Char} (h : sep ∉ a) : segments sep a = [a] := by
  have hother : ∀ c ∈ a, (c == sep) = false := fun c hc => beq_eq_false_iff_ne.2 fun heq => h (heq ▸ hc)
  rw [segments_eq_splitOn, List.splitOn]
  exact List.splitOnP_eq_singleton hother

theorem memberLines_break (s t : String) : memberLines (s ++ "\n" ++ t) = memberLines s ++ memberLines t := by
  have hchars : (s ++ "\n" ++ t).toList = s.toList ++ '\n' :: t.toList := by
    rw [String.toList_append, String.toList_append, List.append_assoc]
    rfl
  unfold memberLines
  rw [hchars, segments_append, List.map_append, List.filter_append]

theorem memberLines_line (h : '\n' ∉ s.toList) : memberLines s = [s].filter (startsWith · memberOpening) := by
  unfold memberLines
  rw [segments_of_not_mem h, List.map_singleton, String.ofList_toList]

theorem memberLines_unlines (h : ∀ l ∈ ls, '\n' ∉ l.toList) :
    memberLines (unlines ls) = ls.filter (startsWith · memberOpening) := by
  induction ls with
  | nil => rfl
  | cons l rest ih =>
    rw [List.forall_mem_cons] at h
    cases rest with
    | nil =>
      rw [unlines, String.intercalate_singleton]
      exact memberLines_line h.1
    | cons m rest =>
      rw [unlines, String.intercalate_cons_cons, memberLines_break, memberLines_line h.1]
      exact (congrArg _ (ih h.2)).trans (List.filter_append ..).symm

theorem memberLines_paragraphs (blocks : List String) :
    memberLines (paragraphs blocks) = blocks.flatMap memberLines := by
  induction blocks with
  | nil => rfl
  | cons block rest ih =>
    cases rest with
    | nil =>
      rw [paragraphs, String.intercalate_singleton]
      exact (List.append_nil _).symm
    | cons next rest =>
      have hempty : memberLines "" = [] := rfl
      have hbreaks : block ++ "\n\n" ++ paragraphs (next :: rest) =
          block ++ "\n" ++ "" ++ "\n" ++ paragraphs (next :: rest) := by
        have hdouble : "\n\n" = "\n" ++ "\n" := rfl
        rw [String.append_empty, hdouble, ← String.append_assoc]
      rw [paragraphs, String.intercalate_cons_cons]
      rw [paragraphs] at ih hbreaks
      rw [hbreaks, memberLines_break, memberLines_break, hempty, List.append_nil, ih]
      rfl

theorem not_member (front : String) (h : front.toList <+: s.toList)
    (hfront : ¬ front.toList <+: memberOpening.toList ∧ ¬ memberOpening.toList <+: front.toList) :
    startsWith s memberOpening = false := by
  rw [Bool.eq_false_iff]
  intro hopens
  have hprefix : memberOpening.toList <+: s.toList := startsWith_iff.1 hopens
  exact (List.prefix_or_prefix_of_prefix h hprefix).elim hfront.1 hfront.2

theorem front_append {front : String} (h : front.toList <+: s.toList) (rest : String) :
    front.toList <+: (s ++ rest).toList := by
  rw [String.toList_append]
  exact h.trans (List.prefix_append _ _)

/-- A line that declares nothing. -/
structure OtherLine (s : String) : Prop where
  one : '\n' ∉ s.toList
  opens : startsWith s memberOpening = false

theorem OtherLine.around {front back : String} (hfront : '\n' ∉ front.toList) (hback : '\n' ∉ back.toList)
    (hopens : ¬ front.toList <+: memberOpening.toList ∧ ¬ memberOpening.toList <+: front.toList)
    (h : '\n' ∉ s.toList) : OtherLine (front ++ s ++ back) := by
  have hstart := front_append (front_append (List.prefix_refl front.toList) s) back
  refine ⟨?_, not_member front hstart hopens⟩
  simp only [String.toList_append, List.mem_append, not_or]
  exact ⟨⟨hfront, h⟩, hback⟩

/-- Whole lines in front of a text that declare nothing. -/
def Skipped (front : String) : Prop := ∀ t, memberLines (front ++ t) = memberLines t

theorem Skipped.empty : Skipped "" := fun t => by rw [String.empty_append]

theorem Skipped.append (hs : Skipped s) (ht : Skipped t) : Skipped (s ++ t) := fun u => by
  rw [String.append_assoc, hs, ht]

theorem Skipped.line (h : OtherLine s) : Skipped (s ++ "\n") := by
  intro t
  rw [memberLines_break, memberLines_line h.one, List.filter_singleton, h.opens]
  rfl

theorem Skipped.blank : Skipped "\n" := Skipped.line (s := "") ⟨by decide, by decide⟩

theorem Skipped.join (h : ∀ l ∈ ls, OtherLine l) : Skipped (String.join (ls.map (· ++ "\n"))) := by
  induction ls with
  | nil => exact .empty
  | cons l rest ih =>
    rw [List.forall_mem_cons] at h
    rw [List.map_cons, String.join_cons]
    exact (Skipped.line h.1).append (ih h.2)

theorem skipped_heading {package : String} (h : '\n' ∉ package.toList) : Skipped (heading package) := by
  unfold heading
  split
  · exact .empty
  · have hline : OtherLine ("package " ++ package ++ ";") := .around (by decide) (by decide) (by decide) h
    have hbreaks : "package " ++ package ++ ";\n\n" = "package " ++ package ++ ";" ++ "\n" ++ "\n" := by
      have hend : ";\n\n" = ";" ++ ("\n" ++ "\n") := rfl
      rw [hend]
      simp only [String.append_assoc]
    rw [hbreaks]
    exact (Skipped.line hline).append .blank

theorem skipped_importBlock (package : String) {imports : List String} (h : ∀ item ∈ imports, '\n' ∉ item.toList) :
    Skipped (importBlock package imports) := by
  refine .join fun l hl => ?_
  obtain ⟨item, hitem, himport⟩ := mem_importLines.1 hl
  have hname : '\n' ∉ (importedName item).toList := fun hmem => h item hitem (mem_of_mem_importedName hmem)
  rw [eq_of_importLine? himport]
  exact .around (by decide) (by decide) (by decide) hname

theorem memberLines_sourceFile {package body : String} {imports : List String} (hp : '\n' ∉ package.toList)
    (hi : ∀ item ∈ imports, '\n' ∉ item.toList) :
    memberLines (sourceFile package imports body) = memberLines (trim body) := by
  have hhead : Skipped (if (importBlock package imports).isEmpty then heading package
      else heading package ++ importBlock package imports ++ "\n") := by
    split
    · exact skipped_heading hp
    · exact ((skipped_heading hp).append (skipped_importBlock package hi)).append .blank
  have hend : memberLines (trim body ++ "\n") = memberLines (trim body) := by
    have hbreak := memberLines_break (trim body) ""
    rwa [String.append_empty, show memberLines "" = [] from rfl, List.append_nil] at hbreak
  have hwhole := hhead (trim body ++ "\n")
  rw [hend, ← String.append_assoc] at hwhole
  exact hwhole

theorem flatMap_memberLines_shown (parts : List String) :
    (parts.filter (!·.isEmpty)).flatMap memberLines = parts.flatMap memberLines := by
  induction parts with
  | nil => rfl
  | cons part rest ih =>
    cases hempty : part.isEmpty with
    | true =>
      rw [List.filter_cons_of_neg (by simp [hempty]), ih, List.flatMap_cons, String.isEmpty_iff.1 hempty]
      rfl
    | false => rw [List.filter_cons_of_pos (by simp [hempty]), List.flatMap_cons, List.flatMap_cons, ih]

end Lines

section Members

variable {d : Dto} {f : Field}

/-- The line that declares a field. -/
def memberLine (f : Field) : String := memberOpening ++ (Dto.member f).declared ++ ";"

/-- All that a class takes from a field stands on one line. -/
structure OneLine (f : Field) : Prop where
  name : '\n' ∉ f.name.toList
  type : '\n' ∉ f.typeName.toList
  qualified : ∀ q, f.qualifiedType = some q → '\n' ∉ q.toList

theorem OneLine.wrapperType (h : OneLine f) : '\n' ∉ f.wrapperType.toList := by
  have hwrappers : ∀ entry ∈ Entity.wrappers, '\n' ∉ entry.2.toList := by decide
  unfold Field.wrapperType
  cases hlookup : Entity.wrappers.lookup f.typeName with
  | none => exact h.type
  | some w => exact hwrappers (f.typeName, w) (Entries.mem_of_lookup hlookup)

theorem OneLine.memberLine (h : OneLine f) : '\n' ∉ (memberLine f).toList := by
  have htype := h.wrapperType
  have hname := h.name
  unfold Artifact.memberLine Member.declared Dto.member memberOpening
  simp +decide [String.toList_append, htype, hname]

theorem OneLine.upperFirst (h : OneLine f) : '\n' ∉ (Name.upperFirst f.name).toList :=
  Name.not_mem_upperFirst (by decide) h.name

theorem break_not_mem_libraryImport? {simple name : String} (h : libraryImport? simple = some name) :
    '\n' ∉ name.toList := by
  have htime : ∀ t ∈ timeTypes, '\n' ∉ ("java.time." ++ t).toList := by decide
  have hknown : ∀ entry ∈ knownTypes, '\n' ∉ entry.2.toList := by decide
  unfold libraryImport? at h
  split at h
  · next hmem =>
    cases h
    exact htime simple (List.contains_iff_mem.1 hmem)
  · exact hknown (simple, name) (Entries.mem_of_lookup h)

theorem OneLine.typeImports (h : OneLine f) : ∀ item ∈ typeImports f, '\n' ∉ item.toList := by
  intro item hitem
  rcases List.mem_append.1 hitem with houter | hargument
  · unfold outerImports at houter
    split at houter
    · next q hq =>
      obtain ⟨p, hp, hpq⟩ := Option.bind_eq_some_iff.1 hq
      split at houter
      · exact break_not_mem_libraryImport? (Option.mem_toList.1 houter)
      · rw [List.mem_singleton.1 houter]
        unfold nonempty? at hpq
        split at hpq
        · exact nomatch hpq
        · cases hpq
          exact h.qualified q hp
    · exact break_not_mem_libraryImport? (Option.mem_toList.1 houter)
  · obtain ⟨name, -, hname⟩ := List.mem_filterMap.1 hargument
    exact break_not_mem_libraryImport? hname

/-- A mark above a field. -/
structure Mark (text : String) : Prop where
  one : '\n' ∉ text.toList
  opens : text.toList.head? = some '@'

theorem Mark.not_member {text : String} (h : Mark text) : startsWith ("    " ++ text) memberOpening = false := by
  obtain ⟨rest, hrest⟩ := List.head?_eq_some_iff.1 h.opens
  refine Artifact.not_member "    @" ?_ (by decide)
  rw [String.toList_append, hrest]
  exact ⟨rest, rfl⟩

theorem Constraint.mark {c : Constraint} (h : ∀ pattern, c = .dateFormat pattern → '\n' ∉ pattern.toList) :
    Mark c.text := by
  unfold Constraint.text
  cases c with
  | length max =>
    have hdigits : '\n' ∉ Nat.toDigits 10 max := fun hmem =>
      absurd (Nat.isDigit_of_mem_toDigits (by decide) (by decide) hmem) (by decide)
    have hstart : "@Length(max = ".toList.head? = some '@' := rfl
    exact ⟨by simp +decide [hdigits], head?_append (head?_append hstart)⟩
  | notBlank => exact ⟨by decide, by decide⟩
  | notNull => exact ⟨by decide, by decide⟩
  | dateFormat pattern =>
    have hpattern := h pattern rfl
    have hstart : "@JsonFormat(pattern = \"".toList.head? = some '@' := rfl
    exact ⟨by simp +decide [hpattern], head?_append (head?_append hstart)⟩

theorem mark_of_constraint : ∀ c ∈ constraints f, Mark c.text := by
  have hdates : ∀ entry ∈ datePatterns, '\n' ∉ entry.2.toList := by decide
  intro c hc
  refine Constraint.mark fun pattern heq => ?_
  subst heq
  rcases List.mem_append.1 hc with hc | hformat
  · rcases List.mem_append.1 hc with hlength | hpresence
    · simp [lengthConstraint] at hlength
    · unfold presenceConstraint at hpresence
      split_ifs at hpresence <;> simp at hpresence
  · obtain ⟨p, hp, heq⟩ := Option.map_eq_some_iff.1 (Option.mem_toList.1 hformat)
    cases heq
    exact hdates _ (Entries.mem_of_lookup hp)

theorem break_not_mem_importName (c : Constraint) : '\n' ∉ c.importName.toList := by
  cases c <;> simp only [Constraint.importName] <;> decide

/-- A class without a base that is not made for spreadsheets, and whose fields stand on one line each. -/
structure Dto.Bare (d : Dto) : Prop where
  name : '\n' ∉ d.name.toList
  fields : ∀ f ∈ d.fields, OneLine f
  excel : d.excel = false
  base : d.base = none

namespace Dto.Bare

theorem fieldMarks (h : d.Bare) (f : Field) : d.fieldMarks f = (constraints f).map fun c => (c.text, c.importName) := by
  unfold Dto.fieldMarks
  rw [h.excel]
  exact List.append_nil _

theorem imports (h : d.Bare) : ∀ item ∈ d.imports, '\n' ∉ item.toList := by
  intro item hitem
  unfold Dto.imports at hitem
  rw [h.base, Option.map_none, Option.toList_none, List.append_nil] at hitem
  obtain ⟨f, hf, hitem⟩ := List.mem_flatMap.1 hitem
  rcases List.mem_append.1 hitem with htype | hmark
  · exact (h.fields f hf).typeImports item htype
  · rw [h.fieldMarks, List.map_map] at hmark
    obtain ⟨c, -, rfl⟩ := List.mem_map.1 hmark
    exact break_not_mem_importName c

/-- Each field is declared in one line, below its marks. -/
theorem memberLines_declaration (h : d.Bare) (hf : f ∈ d.fields) : memberLines (d.declaration f) = [memberLine f] := by
  have hline := (h.fields f hf).memberLine
  have hmember : "    " ++ ("private " ++ (member f).declared ++ ";") = memberLine f := by
    rw [Artifact.memberLine, show memberOpening = "    " ++ "private " from rfl]
    simp only [String.append_assoc]
  have hmarks : ∀ text ∈ (d.fieldMarks f).map (·.1), Mark text := by
    rw [h.fieldMarks, List.map_map]
    intro text htext
    obtain ⟨c, hc, rfl⟩ := List.mem_map.1 htext
    exact mark_of_constraint c hc
  have hlines : ∀ l ∈ ((d.fieldMarks f).map (·.1)).map ("    " ++ ·) ++ [memberLine f], '\n' ∉ l.toList := by
    intro l hl
    rcases List.mem_append.1 hl with hl | hl
    · obtain ⟨text, htext, rfl⟩ := List.mem_map.1 hl
      simp +decide [String.toList_append, (hmarks text htext).one]
    · rwa [List.mem_singleton.1 hl]
  have hnone : (((d.fieldMarks f).map (·.1)).map ("    " ++ ·)).filter (startsWith · memberOpening) = [] := by
    refine List.filter_eq_nil_iff.2 fun l hl => ?_
    obtain ⟨text, htext, rfl⟩ := List.mem_map.1 hl
    rw [(hmarks text htext).not_member]
    exact Bool.false_ne_true
  have hsome : startsWith (memberLine f) memberOpening = true := by
    unfold Artifact.memberLine
    rw [startsWith_iff, String.toList_append, String.toList_append, List.append_assoc]
    exact List.prefix_append _ _
  -- Of the lines of a declaration only the last one opens like a member.
  unfold declaration
  rw [List.map_append, List.map_singleton, hmember, memberLines_unlines hlines, List.filter_append, hnone,
    List.filter_singleton, hsome]
  rfl

theorem memberLines_accessors (h : d.Bare) : memberLines (accessors d.name (d.fields.map member)) = [] := by
  unfold accessors
  rw [memberLines_paragraphs]
  refine List.flatMap_eq_nil_iff.2 fun block hblock => ?_
  obtain ⟨m, hm, rfl⟩ := List.mem_map.1 hblock
  obtain ⟨f, hf, rfl⟩ := List.mem_map.1 hm
  have hfield := h.fields f hf
  have hname := hfield.name
  have htype := hfield.wrapperType
  have hcapital := hfield.upperFirst
  have hclass := h.name
  have hlines : ∀ l ∈ accessorLines d.name (member f), '\n' ∉ l.toList := by
    simp +decide only [accessorLines, setterName, getterName, Member.declared, member, List.forall_mem_cons,
      String.toList_append, List.mem_append, hclass, htype, hname, hcapital, or_self]
  have hother {front : String} (hfront : ¬ front.toList <+: memberOpening.toList ∧
      ¬ memberOpening.toList <+: front.toList) (rest : String) : startsWith (front ++ rest) memberOpening = false :=
    not_member front (front_append (List.prefix_refl _) rest) hfront
  have hnone : ∀ l ∈ accessorLines d.name (member f), startsWith l memberOpening = false := by
    simp only [accessorLines, String.append_assoc, List.forall_mem_cons]
    exact ⟨hother (by decide) _, hother (by decide) _, by decide, by decide, by decide, hother (by decide) _,
      hother (by decide) _, by decide, by decide, hother (by decide) _, hother (by decide) _, by decide,
      List.forall_mem_nil _⟩
  rw [memberLines_unlines hlines]
  exact List.filter_eq_nil_iff.2 fun l hl => Bool.eq_false_iff.1 (hnone l hl)

/-- What the class declares is what its text declares, line by line. -/
theorem memberLines_template (h : d.Bare) {package : String} (hp : '\n' ∉ package.toList) :
    memberLines (d.template package).content = d.fields.map memberLine := by
  have hfront : Skipped ("public class " ++ d.name ++ d.heritage ++ " \x7b\n") := by
    have hheritage : d.heritage = "" := by rw [Dto.heritage, h.base]
    have hline : OtherLine ("public class " ++ d.name ++ " \x7b") := .around (by decide) (by decide) (by decide) h.name
    have hbrace : " \x7b\n" = " \x7b" ++ "\n" := rfl
    rw [hheritage, String.append_empty, hbrace, ← String.append_assoc]
    exact .line hline
  have hclosed (inner : String) : memberLines (inner ++ "\n\x7d") = memberLines inner := by
    have hbrace : "\n\x7d" = "\n" ++ "\x7d" := rfl
    have hnone : memberLines "\x7d" = [] := by decide
    rw [hbrace, ← String.append_assoc, memberLines_break, hnone, List.append_nil]
  have hdeclarations : (d.fields.map d.declaration).flatMap memberLines = d.fields.map memberLine := by
    rw [List.flatMap_map, List.flatMap_congr fun f hf => h.memberLines_declaration hf]
    exact List.map_eq_flatMap.symm
  have hhead : ("public class " ++ d.name ++ d.heritage ++ " \x7b\n").toList.head? = some 'p' :=
    head?_append (head?_append (head?_append rfl))
  unfold Dto.template javaTemplate Dto.body
  dsimp only
  rw [memberLines_sourceFile hp h.imports, trim_class hhead (by decide), String.append_assoc, hfront, hclosed,
    memberLines_paragraphs, flatMap_memberLines_shown, List.flatMap_cons, List.flatMap_singleton,
    memberLines_paragraphs, hdeclarations, h.memberLines_accessors, List.append_nil]

end Dto.Bare

end Members

section Variants

variable {e : Entity} {base : Option Handle} {f : Field}

/-- With a base class only the own fields are taken over: it is there for the inherited ones. -/
def Carried (e : Entity) (base : Option Handle) (f : Field) : Prop := base = none ∨ f ∈ e.fields

instance : Decidable (Carried e base f) := inferInstanceAs (Decidable (_ ∨ _))

/-- The class with what is to be updated. -/
def updateDto (e : Entity) (base : Option Handle) : Dto where
  name := e.baseName ++ "UpdateDTO"
  kind := .dtoUpdate
  fields := (editableFields e.allFields).filter fun f => decide (Carried e base f)

/-- The class with what is to be added. -/
def addDto (e : Entity) (base : Option Handle) : Dto where
  name := e.baseName ++ "AddDTO"
  kind := .dtoAdd
  fields := (editableFields e.allFields).filter fun f => decide (Carried e base f ∧ f.isId = false)

theorem filter_own (e : Entity) : e.allFields.filter (fun f => decide (f ∈ e.fields)) = e.fields := by
  have hinherited : (e.inheritedFields.filter fun f => !e.fields.any (·.name == f.name)).filter
      (fun f => decide (f ∈ e.fields)) = [] := by
    refine List.filter_eq_nil_iff.2 fun f hf hown => ?_
    have hhidden : e.fields.any (·.name == f.name) = true :=
      List.any_eq_true.2 ⟨f, of_decide_eq_true hown, beq_self_eq_true f.name⟩
    have hvisible := (List.mem_filter.1 hf).2
    rw [hhidden] at hvisible
    exact absurd hvisible Bool.false_ne_true
  have hown : e.fields.filter (fun f => decide (f ∈ e.fields)) = e.fields :=
    List.filter_eq_self.2 fun f hf => decide_eq_true hf
  rw [Entity.allFields, List.filter_append, hinherited, hown, List.nil_append]

/-- What is left out for technical reasons is an audit field. -/
theorem editable_dtoFields (e : Entity) (base : Option Handle) :
    editableFields (dtoFields e base) = (updateDto e base).fields := by
  -- The one technical field is an audit field.
  have htechnical (f : Field) : (!auditFields.contains f.name && !technicalFields.contains f.name) =
      !auditFields.contains f.name := by
    have hsub : technicalFields.contains f.name = true → auditFields.contains f.name = true := by
      intro hmem
      have hname : f.name = "deleted" := List.mem_singleton.1 (List.contains_iff_mem.1 hmem)
      rw [hname]
      decide
    cases htech : technicalFields.contains f.name with
    | true => rw [hsub htech]; rfl
    | false => rw [Bool.not_false, Bool.and_true]
  have hsource : (if base.isSome then e.fields else e.allFields) =
      e.allFields.filter fun f => decide (Carried e base f) := by
    cases base with
    | none => exact (List.filter_eq_self.2 fun f _ => decide_eq_true (.inl rfl)).symm
    | some b =>
      have hown : (fun f => decide (Carried e (some b) f)) = fun f => decide (f ∈ e.fields) :=
        funext fun f => decide_eq_decide.2 (or_iff_right nofun)
      rw [hown, filter_own]
      rfl
  unfold editableFields dtoFields updateDto
  rw [hsource, List.filter_filter]
  simp only [htechnical]
  exact List.filter_comm ..

theorem dtos_withSuper (e : Entity) {s : Settings} (base : Option Handle) (h : s.withSuper = true) :
    ∃ main, main.kind = .dto ∧ dtos e s base = [main, addDto e base, updateDto e base] := by
  have hadd : (editableFields (dtoFields e base)).filter (!·.isId) = (addDto e base).fields := by
    rw [editable_dtoFields, updateDto, addDto, List.filter_filter]
    refine List.filter_congr fun f _ => ?_
    cases f.isId <;> simp
  unfold dtos
  dsimp only
  rw [if_pos h, hadd, editable_dtoFields]
  exact ⟨_, rfl, rfl⟩

theorem updateDto_fields_iff :
    (updateDto e base).fields = editableFields e.allFields ↔ ∀ f ∈ editableFields e.allFields, Carried e base f :=
  List.filter_eq_self.trans (forall₂_congr fun _ _ => decide_eq_true_iff)

/-- Of two filters of a list the stronger one is the weaker one where both leave as much. -/
theorem filter_imp_of_length {α : Type} {p q : α → Bool} {l : List α} (himp : ∀ x ∈ l, p x = true → q x = true)
    (hlength : (l.filter p).length = (l.filter q).length) : ∀ x ∈ l, q x = true → p x = true := by
  have htwice : (l.filter q).filter p = l.filter p := by
    rw [List.filter_filter]
    refine List.filter_congr fun x hx => ?_
    cases hp : p x with
    | true => rw [himp x hx hp, Bool.true_and]
    | false => rw [Bool.false_and]
  have hall : ∀ x ∈ l.filter q, p x = true := List.length_filter_eq_length_iff.1 (htwice ▸ hlength)
  exact fun x hx hq => hall x (List.mem_filter.2 ⟨hx, hq⟩)

/-- The fields outside the audit fields, with their places. -/
def editablePlaces (e : Entity) : List (Field × Nat) := e.placed.filter fun x => !auditFields.contains x.1.name

/-- Whether the class for additions takes a field. -/
def isAdded (e : Entity) (base : Option Handle) (x : Field × Nat) : Bool :=
  decide (Carried e base x.1 ∧ x.1.isId = false)

theorem mem_editablePlaces {x : Field × Nat} :
    x ∈ editablePlaces e ↔ x ∈ e.placed ∧ x.1.name ∉ auditFields := by
  simp [editablePlaces]

theorem addDto_fields (e : Entity) (base : Option Handle) :
    (addDto e base).fields = ((editablePlaces e).filter (isAdded e base)).map Prod.fst := by
  have hplaced : e.allFields = e.placed.map Prod.fst := (List.zipIdx_map_fst 0 e.allFields).symm
  unfold addDto editableFields
  rw [hplaced, List.filter_map, List.filter_map]
  rfl

theorem editable_inserted (e : Entity) :
    editableFields (e.inserted.map Prod.fst) = ((editablePlaces e).filter (!e.isIdPlace ·)).map Prod.fst := by
  unfold editableFields Entity.inserted
  rw [List.filter_map, List.filter_comm]
  rfl

theorem isIdPlace_eq_false (hmarked : ∃ f ∈ e.allFields, f.isId = true) {x : Field × Nat} (hx : x ∈ e.placed)
    (hunmarked : x.1.isId = false) : e.isIdPlace x = false := by
  refine Bool.eq_false_iff.2 fun hid => ?_
  rcases Entity.isId_of_isIdPlace hx hid with hfirst | ⟨hnone, -⟩
  · have hmark : x.1.isId = true := hfirst.holds
    rw [hunmarked] at hmark
    exact absurd hmark Bool.false_ne_true
  · obtain ⟨f, hf, hmark⟩ := hmarked
    rw [hnone f hf] at hmark
    exact absurd hmark Bool.false_ne_true

/-- Where nothing is marked the id goes by its name, and is left out only as an inherited field. -/
theorem addDto_fields_iff :
    (addDto e base).fields = editableFields (e.inserted.map Prod.fst) ↔
      ∀ x ∈ e.placed, x.1.name ∉ auditFields →
        (e.isIdPlace x = true ↔ ¬ Carried e base x.1 ∨ x.1.isId = true) := by
  have hsame (x : Field × Nat) : isAdded e base x = (!e.isIdPlace x) ↔
      (e.isIdPlace x = true ↔ ¬ Carried e base x.1 ∨ x.1.isId = true) := by
    cases hid : e.isIdPlace x <;> cases hmark : x.1.isId <;> simp [isAdded, hmark]
  have hpointwise : (∀ x ∈ editablePlaces e, isAdded e base x = !e.isIdPlace x) ↔
      ∀ x ∈ e.placed, x.1.name ∉ auditFields →
        (e.isIdPlace x = true ↔ ¬ Carried e base x.1 ∨ x.1.isId = true) := by
    simp only [mem_editablePlaces, hsame, and_imp]
  rw [addDto_fields, editable_inserted, ← hpointwise]
  refine ⟨fun heq => ?_, fun hall => congrArg _ (List.filter_congr hall)⟩
  -- From here on the lists agree, and so do their lengths. One filter implies the other, which makes them equal.
  have hlength : ((editablePlaces e).filter (isAdded e base)).length =
      ((editablePlaces e).filter (!e.isIdPlace ·)).length := by
    simpa only [List.length_map] using congrArg List.length heq
  by_cases hmarked : ∃ f ∈ e.allFields, f.isId = true
  · have himp : ∀ x ∈ editablePlaces e, isAdded e base x = true → (!e.isIdPlace x) = true := by
      intro x hx hadded
      have hunmarked := (of_decide_eq_true hadded).2
      rw [isIdPlace_eq_false hmarked (mem_editablePlaces.1 hx).1 hunmarked, Bool.not_false]
    have hback := filter_imp_of_length himp hlength
    exact fun x hx => Bool.eq_iff_iff.2 ⟨himp x hx, hback x hx⟩
  · -- Nothing is marked, so that all that is kept is carried, whatever place it has.
    have himp : ∀ x ∈ editablePlaces e, (!e.isIdPlace x) = true → isAdded e base x = true := by
      intro x hx hkept
      have hfield : x.1 ∈ ((editablePlaces e).filter (isAdded e base)).map Prod.fst :=
        heq ▸ List.mem_map_of_mem (List.mem_filter.2 ⟨hx, hkept⟩)
      obtain ⟨y, hy, hyx⟩ := List.mem_map.1 hfield
      have hadded := of_decide_eq_true (List.mem_filter.1 hy).2
      rw [hyx] at hadded
      exact decide_eq_true hadded
    have hback := filter_imp_of_length himp hlength.symm
    exact fun x hx => Bool.eq_iff_iff.2 ⟨hback x hx, himp x hx⟩

theorem memberLines_variants (e : Entity) (base : Option Handle) (package : String) (hp : '\n' ∉ package.toList)
    (hname : '\n' ∉ e.name.toList) (hf : ∀ f ∈ e.allFields, OneLine f) : ∀ d ∈ [addDto e base, updateDto e base],
      memberLines (d.template package).content = d.fields.map memberLine := by
  have hbase : '\n' ∉ e.baseName.toList := fun hmem => hname (Name.mem_of_mem_base hmem)
  have hadd : (addDto e base).Bare := by
    refine ⟨?_, fun f h => ?_, rfl, rfl⟩
    · simp +decide [addDto, hbase]
    · exact hf f (List.mem_of_mem_filter (List.mem_of_mem_filter h))
  have hupdate : (updateDto e base).Bare := by
    refine ⟨?_, fun f h => ?_, rfl, rfl⟩
    · simp +decide [updateDto, hbase]
    · exact hf f (List.mem_of_mem_filter (List.mem_of_mem_filter h))
  intro d hd
  rcases List.mem_pair.1 hd with rfl | rfl
  · exact hadd.memberLines_template hp
  · exact hupdate.memberLines_template hp

/-- The class for updates has every field that is no audit field unless a base class keeps an inherited one away from
it. The class for additions lacks just the id of these where the id is what is marked or kept away, and nothing else is;
an id that goes by its name it has. -/
theorem variants_declare (e : Entity) {s : Settings} (package : String) (base : Option Handle)
    (h : s.withSuper = true) :
    ∃ main add update, dtos e s base = [main, add, update] ∧
      [main.kind, add.kind, update.kind] = [.dto, .dtoAdd, .dtoUpdate] ∧
      dtoTemplates e s package base = [main, add, update].map (·.template package) ∧
      ('\n' ∉ package.toList → '\n' ∉ e.name.toList → (∀ f ∈ e.allFields, OneLine f) → ∀ d ∈ [add, update],
        memberLines (d.template package).content = d.fields.map memberLine) ∧
      (update.fields = editableFields e.allFields ↔ ∀ f ∈ editableFields e.allFields, Carried e base f) ∧
      (add.fields = editableFields (e.inserted.map Prod.fst) ↔
        ∀ x ∈ e.placed, x.1.name ∉ auditFields →
          (e.isIdPlace x = true ↔ ¬ Carried e base x.1 ∨ x.1.isId = true)) ∧
      ∀ f, e.idField? = some f → f.name ∉ auditFields →
        (f ∈ update.fields ↔ Carried e base f) ∧ (f ∈ add.fields ↔ Carried e base f ∧ f.isId = false) := by
  obtain ⟨main, hkind, hdtos⟩ := dtos_withSuper e base h
  refine ⟨main, addDto e base, updateDto e base, hdtos, ?_, ?_, memberLines_variants e base package,
    updateDto_fields_iff, addDto_fields_iff, fun f hid haudit => ?_⟩
  · rw [hkind]
    rfl
  · rw [dtoTemplates, hdtos]
  · obtain ⟨i, -, hi⟩ := Option.bind_eq_some_iff.1 hid
    have hfield : f ∈ editableFields e.allFields :=
      List.mem_filter.2 ⟨List.mem_of_getElem? hi, by simp [haudit]⟩
    constructor <;> simp [updateDto, addDto, hfield]

def superSettings : Settings := { withSuper := true }

def baseDto : Handle := { name := baseDtoName, package := "common" }

def named (name type : String) : Field := { name, typeName := type }

def markedId : Field := { name := "id", typeName := "Long", isId := true }

theorem oneLine_of_unqualified (fs : List Field)
    (h : ∀ f ∈ fs, '\n' ∉ f.name.toList ∧ '\n' ∉ f.typeName.toList ∧ f.qualifiedType = none) :
    ∀ f ∈ fs, OneLine f := fun f hf =>
  let ⟨hname, htype, hnone⟩ := h f hf
  ⟨hname, htype, fun _ hq => nomatch hnone.symm.trans hq⟩

/-- An entity with its own marked id. -/
def ownMarked : Entity where
  name := "Item"
  package := "shop"
  fields := [markedId, named "title" "String"]
  inheritedFields := [named "createTime" "LocalDateTime"]

theorem variants_declare_ownMarked :
    superSettings.withSuper = true ∧
    ∃ main add update, dtos ownMarked superSettings (some baseDto) = [main, add, update] ∧
      add.fields = [named "title" "String"] ∧ update.fields = [markedId, named "title" "String"] ∧
      memberLines (add.template "shop").content = ["    private String title;"] ∧
      memberLines (update.template "shop").content = ["    private Long id;", "    private String title;"] := by
  have hline : ∀ f ∈ ownMarked.allFields, OneLine f := oneLine_of_unqualified _ (by decide)
  obtain ⟨main, add, update, hdtos, -, -, hlines, hupdate, hadd, -⟩ :=
    variants_declare ownMarked "shop" (some baseDto) (s := superSettings) rfl
  have htext := hlines (by decide) (by decide) hline
  have hadded : add.fields = [named "title" "String"] := hadd.2 (by decide)
  have hupdated : update.fields = [markedId, named "title" "String"] := hupdate.2 (by decide)
  refine ⟨rfl, main, add, update, hdtos, hadded, hupdated, ?_, ?_⟩
  · rw [htext add List.mem_cons_self, hadded]
    decide
  · rw [htext update (List.mem_cons_of_mem _ List.mem_cons_self), hupdated]
    decide

/-- An entity whose marked id is inherited. -/
def inheritedMarked : Entity where
  name := "Item"
  package := "shop"
  fields := [named "title" "String"]
  inheritedFields := [markedId]

/-- An entity whose id goes by its name. -/
def ownNamed : Entity where
  name := "Item"
  package := "shop"
  fields := [named "id" "Long", named "title" "String"]

/-- An inherited id is missing from the class for updates where there is a base class, which that class does not extend;
an id that goes by its name is there in the class for additions. -/
theorem variants_misplace_id :
    (∃ main add update, dtos inheritedMarked superSettings (some baseDto) = [main, add, update] ∧
      inheritedMarked.idField? = some markedId ∧ markedId ∈ editableFields inheritedMarked.allFields ∧
      update.base = none ∧ memberLines (update.template "shop").content = ["    private String title;"]) ∧
    ∃ main add update, dtos ownNamed superSettings none = [main, add, update] ∧
      ownNamed.idField? = some (named "id" "Long") ∧
      memberLines (add.template "shop").content = ["    private Long id;", "    private String title;"] := by
  constructor
  · obtain ⟨main, -, hdtos⟩ := dtos_withSuper inheritedMarked (s := superSettings) (some baseDto) rfl
    have htext := memberLines_variants inheritedMarked (some baseDto) "shop" (by decide) (by decide)
      (oneLine_of_unqualified inheritedMarked.allFields (by decide))
    refine ⟨main, _, _, hdtos, by decide, by decide, rfl, ?_⟩
    rw [htext (updateDto _ _) (List.mem_cons_of_mem _ List.mem_cons_self)]
    decide
  · obtain ⟨main, -, hdtos⟩ := dtos_withSuper ownNamed (s := superSettings) none rfl
    have htext := memberLines_variants ownNamed none "shop" (by decide) (by decide)
      (oneLine_of_unqualified ownNamed.allFields (by decide))
    refine ⟨main, _, _, hdtos, by decide, ?_⟩
    rw [htext (addDto _ _) List.mem_cons_self]
    decide

end Variants

end Artifact

end Scaffold
