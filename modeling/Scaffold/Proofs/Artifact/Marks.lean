import Mathlib.Data.List.Nodup
import Scaffold.Artifact.Dto
import Scaffold.Proofs.Entity.ColumnText

/-! Marks above the fields of a data transfer class. Each is of one class, and no field has two of a class; which of
them a field has follows from its type and its column. -/

namespace Scaffold.Artifact

open Scaffold.Text
open Scaffold.Entity (Field)

/-- The classes of annotations that mark fields. -/
inductive MarkClass where
  | length | notBlank | notNull | jsonFormat | excelProperty | excelIgnore
  deriving DecidableEq

namespace MarkClass

def name : MarkClass → String
  | .length => "Length"
  | .notBlank => "NotBlank"
  | .notNull => "NotNull"
  | .jsonFormat => "JsonFormat"
  | .excelProperty => "ExcelProperty"
  | .excelIgnore => "ExcelIgnore"

def package : MarkClass → String
  | .length => "org.hibernate.validator.constraints"
  | .notBlank | .notNull => "javax.validation.constraints"
  | .jsonFormat => "com.fasterxml.jackson.annotation"
  | .excelProperty | .excelIgnore => "com.alibaba.excel.annotation"

def qualified (m : MarkClass) : String := m.package ++ "." ++ m.name

/-- The line that imports the class. -/
def line (m : MarkClass) : String := "import " ++ m.qualified ++ ";"

theorem bracket_not_mem_name (m : MarkClass) : '(' ∉ m.name.toList := by
  cases m <;> decide

theorem name_injective {m m' : MarkClass} (h : m.name = m'.name) : m = m' := by
  revert h
  cases m <;> cases m' <;> decide

theorem qualified_injective {m m' : MarkClass} (h : m.qualified = m'.qualified) : m = m' := by
  revert h
  cases m <;> cases m' <;> decide

end MarkClass

/-- A mark of the class with a simple name, perhaps with arguments. -/
def Names (name mark : String) : Prop :=
  mark = "@" ++ name ∨ ∃ arguments, mark = "@" ++ name ++ "(" ++ arguments ++ ")"

/-- The marks above a field, in order. -/
def Dto.marks (d : Dto) (f : Field) : List String := (d.fieldMarks f).map (·.1)

/-- Whether a field has a mark of some class. -/
def Dto.Marked (d : Dto) (f : Field) (m : MarkClass) : Prop := ∃ mark ∈ d.marks f, Names m.name mark

section Names

variable {s t mark : String} {d : Dto} {f : Field} {m : MarkClass} {n : Nat} {entry : String × String}

theorem takeWhile_of_names (h : Names s mark) (hs : '(' ∉ s.toList) :
    (mark.toList.drop 1).takeWhile (· != '(') = s.toList := by
  have hall : ∀ c ∈ s.toList, (c != '(') = true := fun c hc => bne_iff_ne.2 fun heq => hs (heq ▸ hc)
  rcases h with rfl | ⟨arguments, rfl⟩
  · have hchars : ("@" ++ s).toList = '@' :: s.toList := String.toList_append
    rw [hchars, List.drop_one, List.tail_cons, List.takeWhile_eq_self_iff.2 hall]
  · have hchars : ("@" ++ s ++ "(" ++ arguments ++ ")").toList =
        '@' :: (s.toList ++ '(' :: (arguments.toList ++ [')'])) := by
      simp [String.toList_append]
    rw [hchars, List.drop_one, List.tail_cons, List.takeWhile_append_of_pos hall,
      List.takeWhile_cons_of_neg (by decide), List.append_nil]

theorem MarkClass.eq_of_names {m m' : MarkClass} (h : Names m.name mark) (h' : Names m'.name mark) : m = m' := by
  have hname := takeWhile_of_names h m.bracket_not_mem_name
  have hname' := takeWhile_of_names h' m'.bracket_not_mem_name
  exact name_injective (String.toList_inj.1 (hname.symm.trans hname'))

def Constraint.markClass : Constraint → MarkClass
  | .length _ => .length
  | .notBlank => .notBlank
  | .notNull => .notNull
  | .dateFormat _ => .jsonFormat

theorem Constraint.importName_eq (c : Constraint) : c.importName = c.markClass.qualified := by
  cases c <;> simp only [importName, markClass] <;> decide

theorem excelProperty_eq : excelProperty = MarkClass.excelProperty.qualified := by
  decide

theorem excelIgnore_eq : excelIgnore = MarkClass.excelIgnore.qualified := by
  decide

theorem Constraint.names_text (c : Constraint) : Names c.markClass.name c.text := by
  cases c with
  | length max =>
    have hopen : "@Length(max = " = "@" ++ "Length" ++ "(" ++ "max = " := by decide
    refine .inr ⟨"max = " ++ toString max, ?_⟩
    change "@Length(max = " ++ toString max ++ ")" = "@" ++ "Length" ++ "(" ++ ("max = " ++ toString max) ++ ")"
    rw [hopen]
    simp only [String.append_assoc]
  | notBlank => exact .inl (by decide)
  | notNull => exact .inl (by decide)
  | dateFormat pattern =>
    have hopen : "@JsonFormat(pattern = \"" = "@" ++ "JsonFormat" ++ "(" ++ "pattern = \"" := by decide
    have hclose : "\")" = "\"" ++ ")" := by decide
    refine .inr ⟨"pattern = \"" ++ pattern ++ "\"", ?_⟩
    change "@JsonFormat(pattern = \"" ++ pattern ++ "\")" =
      "@" ++ "JsonFormat" ++ "(" ++ ("pattern = \"" ++ pattern ++ "\"") ++ ")"
    rw [hopen, hclose]
    simp only [String.append_assoc]

/-- A mark of a field is one of its constraints or one for spreadsheets, and it names the class that is imported. -/
theorem Dto.fieldMarks_cases (h : entry ∈ d.fieldMarks f) :
    (∃ c ∈ constraints f, entry = (c.text, c.importName)) ∨
      ∃ m ∈ [MarkClass.excelProperty, .excelIgnore], entry.2 = m.qualified ∧ Names m.name entry.1 := by
  rcases List.mem_append.1 h with h | h
  · obtain ⟨c, hc, rfl⟩ := List.mem_map.1 h
    exact .inl ⟨c, hc, rfl⟩
  · right
    split at h
    · exact absurd h List.not_mem_nil
    split at h
    · rw [List.mem_singleton.1 h]
      exact ⟨.excelIgnore, by simp, excelIgnore_eq, .inl (by decide)⟩
    · rw [List.mem_singleton.1 h]
      refine ⟨.excelProperty, by simp, excelProperty_eq, .inr ⟨"\"" ++ stringLiteral f.title ++ "\"", ?_⟩⟩
      have hopen : "@ExcelProperty(\"" = "@" ++ "ExcelProperty" ++ "(" ++ "\"" := by decide
      have hclose : "\")" = "\"" ++ ")" := by decide
      change "@ExcelProperty(\"" ++ stringLiteral f.title ++ "\")" =
        "@" ++ "ExcelProperty" ++ "(" ++ ("\"" ++ stringLiteral f.title ++ "\"") ++ ")"
      rw [hopen, hclose]
      simp only [String.append_assoc]

theorem Dto.names_fieldMark (h : entry ∈ d.fieldMarks f) :
    ∃ m : MarkClass, entry.2 = m.qualified ∧ Names m.name entry.1 := by
  rcases fieldMarks_cases h with ⟨c, -, rfl⟩ | ⟨m, -, hm⟩
  · exact ⟨c.markClass, c.importName_eq, c.names_text⟩
  · exact ⟨m, hm⟩

theorem Dto.marked_iff : d.Marked f m ↔ m.qualified ∈ (d.fieldMarks f).map (·.2) := by
  constructor
  · rintro ⟨mark, hmark, hnames⟩
    obtain ⟨entry, hentry, rfl⟩ := List.mem_map.1 hmark
    obtain ⟨m', himport, hnames'⟩ := names_fieldMark hentry
    rw [MarkClass.eq_of_names hnames hnames', ← himport]
    exact List.mem_map_of_mem hentry
  · intro h
    obtain ⟨entry, hentry, himport⟩ := List.mem_map.1 h
    obtain ⟨m', himport', hnames⟩ := names_fieldMark hentry
    rw [← MarkClass.qualified_injective (himport.symm.trans himport')] at hnames
    exact ⟨entry.1, List.mem_map_of_mem hentry, hnames⟩

theorem Dto.mem_marks_iff (hexcel : m ≠ .excelProperty ∧ m ≠ .excelIgnore) (hnames : Names m.name mark) :
    mark ∈ d.marks f ↔ ∃ c ∈ constraints f, c.markClass = m ∧ c.text = mark := by
  constructor
  · intro h
    obtain ⟨entry, hentry, rfl⟩ := List.mem_map.1 h
    rcases fieldMarks_cases hentry with ⟨c, hc, rfl⟩ | ⟨m', hm', -, hnames'⟩
    · exact ⟨c, hc, MarkClass.eq_of_names c.names_text hnames, rfl⟩
    · obtain rfl := MarkClass.eq_of_names hnames hnames'
      simp [hexcel] at hm'
  · rintro ⟨c, hc, -, rfl⟩
    have hentry : (c.text, c.importName) ∈ d.fieldMarks f := List.mem_append_left _ (List.mem_map_of_mem hc)
    exact List.mem_map.2 ⟨_, hentry, rfl⟩

theorem holdsText_iff : holdsText f = true ↔ f.rawType ∈ Entity.stringTypes := by
  rw [holdsText, List.contains_iff_mem]

theorem length_mem_constraints_iff : .length n ∈ constraints f ↔ f.rawType ∈ Entity.stringTypes ∧ 0 < n ∧
    Entity.ColumnText.StatesLength n f.definitionText.toList := by
  -- The other two kinds of constraints state no length.
  have hlength : .length n ∈ constraints f ↔ .length n ∈ lengthConstraint f := by
    unfold constraints presenceConstraint formatConstraint
    simp only [List.mem_append]
    split_ifs <;> simp
  rw [hlength, lengthConstraint]
  split
  · next h =>
    obtain ⟨htext, hpos⟩ := Bool.and_eq_true_iff.1 h
    rw [List.mem_singleton, Constraint.length.injEq]
    rw [decide_eq_true_eq] at hpos
    constructor
    · intro hn
      rw [← hn] at hpos
      exact ⟨holdsText_iff.1 htext, hpos, (Entity.ColumnText.maxLength_eq_iff hpos).1 hn.symm⟩
    · rintro ⟨-, hn, hstates⟩
      exact ((Entity.ColumnText.maxLength_eq_iff hn).2 hstates).symm
  · next h =>
    refine iff_of_false List.not_mem_nil ?_
    rintro ⟨htext, hn, hstates⟩
    rw [← (Entity.ColumnText.maxLength_eq_iff hn).2 hstates] at hn
    exact h (Bool.and_eq_true_iff.2 ⟨holdsText_iff.2 htext, decide_eq_true hn⟩)

theorem eq_of_toString_eq {k : Nat} (h : toString k = toString n) : k = n := by
  rw [Nat.toString_eq_repr, Nat.toString_eq_repr, Nat.repr_eq_ofList_toDigits, Nat.repr_eq_ofList_toDigits,
    String.ofList_inj] at h
  have hvalue := congrArg (Nat.ofDigitChars 10 · 0) h
  rwa [Nat.ofDigitChars_toDigits (by decide) (by decide), Nat.ofDigitChars_toDigits (by decide) (by decide)] at hvalue

/-- A length is a mark with the number of the first length clause. -/
theorem Dto.length_mark_iff : "@Length(max = " ++ toString n ++ ")" ∈ d.marks f ↔ f.rawType ∈ Entity.stringTypes ∧
    0 < n ∧ Entity.ColumnText.StatesLength n f.definitionText.toList := by
  change (Constraint.length n).text ∈ d.marks f ↔ _
  rw [mem_marks_iff (m := .length) (by decide) (Constraint.length n).names_text, ← length_mem_constraints_iff]
  constructor
  · rintro ⟨c, hc, hclass, htext⟩
    cases c with
    | length max =>
      have hnumbers := String.append_right_inj _ |>.1 (String.append_left_inj _ |>.1 htext)
      rwa [eq_of_toString_eq hnumbers] at hc
    | notBlank | notNull | dateFormat => exact nomatch hclass
  · exact fun h => ⟨.length n, h, rfl, rfl⟩

theorem Dto.length_of_names (h : mark ∈ d.marks f) (hnames : Names "Length" mark) :
    ∃ n : Nat, mark = "@Length(max = " ++ toString n ++ ")" := by
  obtain ⟨c, -, hclass, rfl⟩ := (mem_marks_iff (m := .length) (by decide) hnames).1 h
  cases c with
  | length max => exact ⟨max, rfl⟩
  | notBlank | notNull | dateFormat => exact nomatch hclass

theorem occurs_iff {p s : List Char} : occurs p s = true ↔ p <:+: s := by
  induction s with
  | nil => simp [occurs, List.isEmpty_iff]
  | cons c s ih =>
    rw [occurs, Bool.or_eq_true, ih, List.infix_cons_iff, Option.isSome_iff_exists]
    simp only [after?_eq_some_iff]
    refine or_congr_left ⟨fun ⟨r, hr⟩ => ⟨r, hr.symm⟩, fun ⟨r, hr⟩ => ⟨r, hr.symm⟩⟩

theorem presenceConstraint_eq (f : Field) : ∃ c ∈ [Constraint.notBlank, .notNull],
    (Entity.ColumnText.SaysNotNull f.definitionText.toList ∧ f.isEnum = false ∧
        ¬"type".toList <:+: (lower f.rawType).toList → presenceConstraint f = [c]) ∧
      (¬(Entity.ColumnText.SaysNotNull f.definitionText.toList ∧ f.isEnum = false ∧
        ¬"type".toList <:+: (lower f.rawType).toList) → presenceConstraint f = []) := by
  have hcondition : (Entity.ColumnText.notNull f.definitionText && !f.isTypeMarker) = true ↔
      Entity.ColumnText.SaysNotNull f.definitionText.toList ∧ f.isEnum = false ∧
        ¬"type".toList <:+: (lower f.rawType).toList := by
    rw [Bool.and_eq_true, Entity.ColumnText.notNull_iff, Field.isTypeMarker, Bool.not_eq_true', Bool.or_eq_false_iff,
      ← Bool.not_eq_true (contains _ _), contains, occurs_iff]
  refine ⟨if holdsText f then .notBlank else .notNull, ?_, fun h => ?_, fun h => ?_⟩
  · split <;> simp
  · rw [presenceConstraint, if_pos (hcondition.2 h)]
  · rw [presenceConstraint, if_neg fun hc => h (hcondition.1 hc)]

theorem mem_presenceConstraint_iff {c : Constraint} (hc : c = .notBlank ∨ c = .notNull) :
    c ∈ presenceConstraint f ↔ c ∈ constraints f := by
  have hlength : c ∉ lengthConstraint f := by
    intro h
    rw [lengthConstraint] at h
    split at h
    · rw [List.mem_singleton.1 h] at hc
      exact hc.elim nofun nofun
    · exact List.not_mem_nil h
  have hformat : c ∉ formatConstraint f := by
    intro h
    obtain ⟨pattern, -, rfl⟩ := Option.map_eq_some_iff.1 (Option.mem_toList.1 h)
    exact hc.elim nofun nofun
  simp only [constraints, List.mem_append, hlength, hformat, or_false, false_or]

theorem Dto.marked_presence_iff {c : Constraint} (hc : c = .notBlank ∨ c = .notNull) :
    d.Marked f c.markClass ↔ c ∈ presenceConstraint f := by
  have hexcel : c.markClass ≠ .excelProperty ∧ c.markClass ≠ .excelIgnore := by
    rcases hc with rfl | rfl <;> decide
  rw [mem_presenceConstraint_iff hc]
  constructor
  · rintro ⟨mark, hmark, hnames⟩
    obtain ⟨c', hc', hclass, -⟩ := (mem_marks_iff hexcel hnames).1 hmark
    have heq : c' = c := by
      rcases hc with rfl | rfl <;> cases c' <;> first | rfl | exact nomatch hclass
    rwa [← heq]
  · exact fun h => ⟨c.text, (mem_marks_iff hexcel c.names_text).2 ⟨c, h, rfl, rfl⟩, c.names_text⟩

end Names

section Field

variable {d : Dto} {f : Field} {mark : String}

/-- What the type and the column of a field decide about its marks. -/
structure Dto.WellMarked (d : Dto) (f : Field) : Prop where
  known : ∀ mark ∈ d.marks f, ∃ m : MarkClass, Names m.name mark
  once : (d.marks f).Pairwise fun a b => ∀ m : MarkClass, Names m.name a → ¬ Names m.name b
  exclusive : ¬(d.Marked f .notBlank ∧ d.Marked f .notNull)
  present : d.Marked f .notBlank ∨ d.Marked f .notNull ↔ Entity.ColumnText.SaysNotNull f.definitionText.toList ∧
    f.isEnum = false ∧ ¬"type".toList <:+: (lower f.rawType).toList
  length : ∀ n : Nat, "@Length(max = " ++ toString n ++ ")" ∈ d.marks f ↔
    f.rawType ∈ Entity.stringTypes ∧ 0 < n ∧ Entity.ColumnText.StatesLength n f.definitionText.toList
  lengths : ∀ mark ∈ d.marks f, Names "Length" mark → ∃ n : Nat, mark = "@Length(max = " ++ toString n ++ ")"

theorem Dto.nodup_markImports (d : Dto) (f : Field) : ((d.fieldMarks f).map (·.2)).Nodup := by
  -- At most four marks, each from a source of its own, and never two of one class.
  have hlength : ((lengthConstraint f).map (·.markClass)).Sublist [.length] := by
    rw [lengthConstraint]
    split
    · exact List.Sublist.refl _
    · exact List.nil_sublist _
  have hpresence : ((presenceConstraint f).map (·.markClass)).Sublist
      [if holdsText f then .notBlank else .notNull] := by
    unfold presenceConstraint
    split_ifs <;> first | exact List.Sublist.refl _ | exact List.nil_sublist _
  have hformat : ((formatConstraint f).map (·.markClass)).Sublist [.jsonFormat] := by
    unfold formatConstraint
    cases datePatterns.lookup (lower f.rawType) with
    | none => exact List.nil_sublist _
    | some pattern => exact List.Sublist.refl _
  have hexcel : ((if !d.excel then [] else if f.isId then [("@ExcelIgnore", excelIgnore)]
      else [("@ExcelProperty(\"" ++ stringLiteral f.title ++ "\")", excelProperty)]).map (·.2)).Sublist
        ([if f.isId then .excelIgnore else .excelProperty].map MarkClass.qualified) := by
    rw [excelIgnore_eq, excelProperty_eq]
    split_ifs <;> first | exact List.Sublist.refl _ | exact List.nil_sublist _
  have himports : ((constraints f).map fun c => (c.text, c.importName)).map (·.2) =
      ((constraints f).map (·.markClass)).map MarkClass.qualified := by
    rw [List.map_map, List.map_map]
    exact List.map_congr_left fun c _ => c.importName_eq
  have hclasses : ((constraints f).map (·.markClass)).Sublist
      ([.length] ++ [if holdsText f then .notBlank else .notNull] ++ [.jsonFormat]) := by
    rw [constraints, List.map_append, List.map_append]
    exact (hlength.append hpresence).append hformat
  have hall : ([.length] ++ [if holdsText f then .notBlank else .notNull] ++ [.jsonFormat] ++
      [if f.isId then .excelIgnore else .excelProperty] : List MarkClass).Nodup := by
    cases holdsText f <;> cases f.isId <;> decide
  refine List.Sublist.nodup ?_ (List.Nodup.map (fun _ _ => MarkClass.qualified_injective) hall)
  rw [fieldMarks, List.map_append, himports, List.map_append]
  exact (hclasses.map MarkClass.qualified).append hexcel

theorem Dto.pairwise_marks (d : Dto) (f : Field) :
    (d.marks f).Pairwise fun a b => ∀ m : MarkClass, Names m.name a → ¬ Names m.name b := by
  have hdistinct := d.nodup_markImports f
  unfold List.Nodup at hdistinct
  unfold marks
  rw [List.pairwise_map] at hdistinct ⊢
  refine hdistinct.imp_of_mem fun {a b} ha hb hne m hma hmb => hne ?_
  obtain ⟨ma, hia, hna⟩ := names_fieldMark ha
  obtain ⟨mb, hib, hnb⟩ := names_fieldMark hb
  rw [hia, hib, ← MarkClass.eq_of_names hma hna, ← MarkClass.eq_of_names hmb hnb]

theorem Dto.wellMarked (d : Dto) (f : Field) : d.WellMarked f := by
  have hblank : d.Marked f .notBlank ↔ .notBlank ∈ presenceConstraint f := marked_presence_iff (.inl rfl)
  have hnull : d.Marked f .notNull ↔ .notNull ∈ presenceConstraint f := marked_presence_iff (.inr rfl)
  obtain ⟨c, hc, hsome, hnone⟩ := presenceConstraint_eq f
  refine ⟨fun mark hmark => ?_, d.pairwise_marks f, ?_, ?_, fun n => length_mark_iff, fun mark => length_of_names⟩
  · obtain ⟨entry, hentry, rfl⟩ := List.mem_map.1 hmark
    obtain ⟨m, -, hnames⟩ := names_fieldMark hentry
    exact ⟨m, hnames⟩
  · rw [hblank, hnull]
    rintro ⟨h, h'⟩
    by_cases hcondition : Entity.ColumnText.SaysNotNull f.definitionText.toList ∧ f.isEnum = false ∧
        ¬"type".toList <:+: (lower f.rawType).toList
    · rw [hsome hcondition, List.mem_singleton] at h h'
      exact nomatch h.trans h'.symm
    · rw [hnone hcondition] at h
      exact List.not_mem_nil h
  · rw [hblank, hnull]
    constructor
    · intro h
      by_contra hcondition
      rw [hnone hcondition] at h
      exact h.elim List.not_mem_nil List.not_mem_nil
    · intro hcondition
      rw [hsome hcondition, List.mem_singleton, List.mem_singleton]
      simp only [List.mem_cons, List.not_mem_nil, or_false] at hc
      exact hc.imp Eq.symm Eq.symm

end Field

end Scaffold.Artifact
