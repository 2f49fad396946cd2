import Mathlib.Data.List.Pairwise
import Scaffold.Proofs.Artifact.ImportBlock
import Scaffold.Proofs.Artifact.Marks
import Scaffold.Proofs.Artifact.TypeImports
import Scaffold.Proofs.Artifact.Variants

/-! The imports of a data transfer class, as its text has them above the class. Of the classes of marks there are those
that some field is marked with, and no other unless a type or the base asks for it. -/

namespace Scaffold.Artifact

open Scaffold.Text
open Scaffold.Entity (Field)

theorem nodup_sortedSet (xs : List String) : (sortedSet xs).Nodup := (pairwise_sortedSet xs).nodup

section Imports

variable {package simple name item : String} {items : List String} {d : Dto} {f : Field} {m : MarkClass}

/-- The type of the field is the class. -/
def MarkClass.IsTypeOf (m : MarkClass) (f : Field) : Prop :=
  ∃ q, f.qualifiedType = some q ∧ importedName q = m.qualified

/-- The class that the data transfer class extends is this one. -/
def MarkClass.IsBaseOf (m : MarkClass) (d : Dto) : Prop :=
  ∃ b, d.base = some b ∧ importedName b.qualifiedName = m.qualified

theorem MarkClass.importedName_qualified (m : MarkClass) : importedName m.qualified = m.qualified := by
  cases m <;> decide +kernel

theorem MarkClass.importLine?_qualified (m : MarkClass) (package : String) :
    importLine? package m.qualified = if m.package = package then none else some m.line := by
  have howner : owner? m.qualified = some m.package := by cases m <;> decide +kernel
  have hlang : (m.package == "java.lang") = false := by cases m <;> decide
  unfold importLine?
  dsimp only
  rw [m.importedName_qualified, howner]
  dsimp only
  rw [hlang, Bool.or_false]
  exact if_congr beq_iff_eq rfl rfl

theorem MarkClass.mem_importLines_iff (m : MarkClass) : m.line ∈ importLines package items ↔
    m.package ≠ package ∧ ∃ item ∈ items, importedName item = m.qualified := by
  have hline := m.importLine?_qualified package
  by_cases hpackage : m.package = package
  · rw [if_pos hpackage] at hline
    refine iff_of_false (fun h => ?_) fun h => h.1 hpackage
    obtain ⟨item, -, hitem⟩ := mem_importLines.1 h
    have hname : importedName item = m.qualified :=
      String.append_right_inj _ |>.1 (String.append_left_inj _ |>.1 (eq_of_importLine? hitem).symm)
    rw [← m.importedName_qualified] at hname
    unfold importLine? at hline hitem
    rw [hname, hline] at hitem
    exact nomatch hitem
  · rw [if_neg hpackage] at hline
    rw [Artifact.mem_importLines_iff hline, m.importedName_qualified]
    exact (and_iff_right hpackage).symm

theorem mem_of_libraryImport? (h : libraryImport? simple = some name) :
    name ∈ timeTypes.map ("java.time." ++ ·) ++ knownTypes.map (·.2) := by
  unfold libraryImport? at h
  split at h
  · next hmem =>
    cases h
    exact List.mem_append_left _ (List.mem_map_of_mem (List.contains_iff_mem.1 hmem))
  · exact List.mem_append_right _ (List.mem_map_of_mem (Entries.mem_of_lookup h))

theorem MarkClass.not_library (h : libraryImport? simple = some name) (m : MarkClass) :
    importedName name ≠ m.qualified := by
  have hlibrary : ∀ name ∈ timeTypes.map ("java.time." ++ ·) ++ knownTypes.map (·.2),
      "java.".toList <+: (importedName name).toList := by decide +kernel
  have hmark : ¬ "java.".toList <+: m.qualified.toList := by cases m <;> decide
  intro heq
  rw [← heq] at hmark
  exact hmark (hlibrary name (mem_of_libraryImport? h))

theorem prefix_importedName {front : List Char} {c : Char} (hblank : (front ++ [c]).any isBlank = false)
    (hend : (c == ';') = false) (himport : ¬ "import".toList <+: front ++ [c] ∧ ¬ front ++ [c] <+: "import".toList)
    (h : front ++ [c] <+: item.toList) : front ++ [c] <+: (importedName item).toList := by
  have hne : front ++ [c] ≠ [] := List.append_ne_nil_of_right_ne_nil _ (List.cons_ne_nil _ _)
  have hsolid : ∀ d ∈ front ++ [c], isBlank d = false := by
    simpa only [List.any_eq_false, Bool.not_eq_true] using hblank
  have htrimmed := prefix_trimChars hne hsolid h
  have hbare : after? "import".toList (trimChars item.toList) = none := by
    by_contra hsome
    obtain ⟨rest, hrest⟩ := Option.ne_none_iff_exists'.1 hsome
    have hword : "import".toList <+: trimChars item.toList := ⟨rest, (after?_eq_some_iff.1 hrest).symm⟩
    exact (List.prefix_or_prefix_of_prefix hword htrimmed).elim himport.1 himport.2
  unfold importedName
  dsimp only
  rw [hbare, String.toList_ofList]
  exact prefix_trimChars hne hsolid (prefix_dropWhileRight hend htrimmed)

theorem MarkClass.exists_typeImports_iff (m : MarkClass) (f : Field) :
    (∃ item ∈ typeImports f, importedName item = m.qualified) ↔ m.IsTypeOf f := by
  have hlibrary : ∀ item ∈ (libraryImport? f.rawType).toList, importedName item ≠ m.qualified :=
    fun item hitem => m.not_library (Option.mem_toList.1 hitem)
  constructor
  · rintro ⟨item, hitem, hname⟩
    rcases List.mem_append.1 hitem with houter | hargument
    · unfold outerImports at houter
      split at houter
      · next q hq =>
        obtain ⟨p, hp, hpq⟩ := Option.bind_eq_some_iff.1 hq
        split at houter
        · exact absurd hname (hlibrary item houter)
        · rw [List.mem_singleton.1 houter] at hname
          unfold nonempty? at hpq
          split at hpq
          · exact nomatch hpq
          · cases hpq
            exact ⟨_, hp, hname⟩
      · exact absurd hname (hlibrary item houter)
    · obtain ⟨simple, -, hsimple⟩ := List.mem_filterMap.1 hargument
      exact absurd hname (m.not_library hsimple)
  · rintro ⟨q, hq, hname⟩
    -- What is left out of the imports, as `java.lang` is, is none of the marks.
    have hlang : startsWith q "java.lang." = false := by
      rw [Bool.eq_false_iff]
      intro hprefix
      have hsplit : "java.lang.".toList = "java.lang".toList ++ ['.'] := by decide
      rw [startsWith_iff, hsplit] at hprefix
      have hbad := prefix_importedName (by decide) (by decide) (by decide) hprefix
      rw [hname] at hbad
      revert hbad
      cases m <;> decide
    have hpresent : nonempty? q = some q := by
      refine if_neg fun hempty => ?_
      rw [String.isEmpty_iff.1 hempty] at hname
      revert hname
      cases m <;> decide
    refine ⟨q, List.mem_append_left _ ?_, hname⟩
    unfold outerImports
    rw [hq, Option.bind_some, hpresent]
    dsimp only
    rw [hlang, if_neg Bool.false_ne_true]
    exact List.mem_singleton_self q

theorem Dto.exists_imports_iff : (∃ item ∈ d.imports, importedName item = m.qualified) ↔
    (∃ f ∈ d.fields, d.Marked f m ∨ m.IsTypeOf f) ∨ m.IsBaseOf d := by
  have hmarks (f : Field) : (∃ item ∈ (d.fieldMarks f).map (·.2), importedName item = m.qualified) ↔ d.Marked f m := by
    rw [marked_iff]
    constructor
    · rintro ⟨item, hitem, hname⟩
      obtain ⟨entry, hentry, rfl⟩ := List.mem_map.1 hitem
      obtain ⟨m', himport, -⟩ := names_fieldMark hentry
      rw [himport, m'.importedName_qualified] at hname
      rwa [← hname, ← himport]
    · exact fun h => ⟨_, h, m.importedName_qualified⟩
  have hbase : (∃ item ∈ (d.base.map (·.qualifiedName)).toList, importedName item = m.qualified) ↔ m.IsBaseOf d := by
    simp [MarkClass.IsBaseOf]
  rw [imports, ← hbase]
  constructor
  · rintro ⟨item, hitem, hname⟩
    refine (List.mem_append.1 hitem).imp (fun hfields => ?_) fun hitem => ⟨item, hitem, hname⟩
    obtain ⟨f, hf, hitem⟩ := List.mem_flatMap.1 hfields
    rcases List.mem_append.1 hitem with htype | hmark
    · exact ⟨f, hf, .inr ((m.exists_typeImports_iff f).1 ⟨item, htype, hname⟩)⟩
    · exact ⟨f, hf, .inl ((hmarks f).1 ⟨item, hmark, hname⟩)⟩
  · rintro (⟨f, hf, hmark | htype⟩ | ⟨item, hitem, hname⟩)
    · obtain ⟨item, hitem, hname⟩ := (hmarks f).2 hmark
      exact ⟨item, List.mem_append_left _ (List.mem_flatMap.2 ⟨f, hf, List.mem_append_right _ hitem⟩), hname⟩
    · obtain ⟨item, hitem, hname⟩ := (m.exists_typeImports_iff f).2 htype
      exact ⟨item, List.mem_append_left _ (List.mem_flatMap.2 ⟨f, hf, List.mem_append_left _ hitem⟩), hname⟩
    · exact ⟨item, List.mem_append_right _ hitem, hname⟩

end Imports

section Source

variable {package line text : String} {block : List String} {d : Dto} {f : Field}

/-- The lines of imports above the class in a source. -/
def importsAbove (text : String) : List String :=
  (((segments '\n' text.toList).map String.ofList).takeWhile (!startsWith · "public ")).filter (startsWith · "import ")

theorem segments_front {c : Char} {front : List Char} (h : c ∉ front) (s : List Char) :
    ∃ w ws, segments c (front ++ s) = (front ++ w) :: ws := by
  induction front with
  | nil => exact List.exists_cons_of_ne_nil (segments_ne_nil c s)
  | cons d front ih =>
    rw [List.mem_cons, not_or] at h
    obtain ⟨w, ws, hsegments⟩ := ih h.2
    refine ⟨w, ws, ?_⟩
    rw [List.cons_append, segments, if_neg (by simpa using Ne.symm h.1), hsegments]
    rfl

theorem importsAbove_line (h : '\n' ∉ line.toList) (hpublic : startsWith line "public " = false) (text : String) :
    importsAbove (line ++ "\n" ++ text) = [line].filter (startsWith · "import ") ++ importsAbove text := by
  have hchars : (line ++ "\n" ++ text).toList = line.toList ++ '\n' :: text.toList := by
    rw [String.toList_append, String.toList_append, List.append_assoc]
    rfl
  unfold importsAbove
  rw [hchars, segments_append, segments_of_not_mem h, List.singleton_append, List.map_cons, String.ofList_toList,
    List.takeWhile_cons_of_pos (by simp [hpublic])]
  exact List.filter_append [line] _

theorem startsWith_ofList (front : String) (rest : List Char) :
    startsWith (String.ofList (front.toList ++ rest)) front = true := by
  rw [startsWith_iff, String.toList_ofList]
  exact List.prefix_append _ _

theorem importsAbove_public (text : String) : importsAbove ("public " ++ text) = [] := by
  have hbreak : '\n' ∉ "public ".toList := by decide
  obtain ⟨w, ws, hsegments⟩ := segments_front hbreak text.toList
  unfold importsAbove
  rw [String.toList_append, hsegments, List.map_cons,
    List.takeWhile_cons_of_neg (by rw [startsWith_ofList]; exact Bool.false_ne_true), List.filter_nil]

theorem importsAbove_heading (h : '\n' ∉ package.toList) (text : String) :
    importsAbove (heading package ++ text) = importsAbove text := by
  unfold heading
  split
  · rw [String.empty_append]
  · have hbreaks : "package " ++ package ++ ";\n\n" ++ text =
        "package " ++ package ++ ";" ++ "\n" ++ ("" ++ "\n" ++ text) := by
      have hend : ";\n\n" = ";" ++ ("\n" ++ "\n") := by decide
      rw [hend, String.empty_append]
      simp only [String.append_assoc]
    have hline : '\n' ∉ ("package " ++ package ++ ";").toList := by
      simp +decide [String.toList_append, h]
    have hother {word : String} (hword : ¬ word.toList <+: "package ".toList ∧ ¬ "package ".toList <+: word.toList) :
        startsWith ("package " ++ package ++ ";") word = false := by
      rw [Bool.eq_false_iff, Ne, startsWith_iff, String.append_assoc, String.toList_append]
      exact fun hprefix => (List.prefix_or_prefix_of_prefix hprefix (List.prefix_append _ _)).elim hword.1 hword.2
    rw [hbreaks, importsAbove_line hline (hother (by decide)), importsAbove_line (by decide) (by decide),
      List.filter_singleton, hother (by decide)]
    rfl

theorem importsAbove_block (h : ∀ l ∈ block, '\n' ∉ l.toList ∧ ∃ name, l = "import " ++ name) (text : String) :
    importsAbove (String.join (block.map (· ++ "\n")) ++ text) = block ++ importsAbove text := by
  induction block with
  | nil => exact congrArg importsAbove String.empty_append
  | cons l block ih =>
    obtain ⟨⟨hbreak, name, hname⟩, hblock⟩ := List.forall_mem_cons.1 h
    have himport : startsWith l "import " = true := by
      rw [startsWith_iff, hname, String.toList_append]
      exact List.prefix_append _ _
    have hpublic : startsWith l "public " = false := by
      have hwords : ¬ "public ".toList <+: "import ".toList ∧ ¬ "import ".toList <+: "public ".toList := by decide
      rw [Bool.eq_false_iff, Ne, startsWith_iff]
      exact fun hprefix =>
        (List.prefix_or_prefix_of_prefix hprefix (startsWith_iff.1 himport)).elim hwords.1 hwords.2
    rw [List.map_cons, String.join_cons, String.append_assoc, importsAbove_line hbreak hpublic, ih hblock,
      List.filter_singleton, himport]
    rfl

theorem Dto.content_eq (d : Dto) (package : String) : ∃ rest, (d.template package).content =
    heading package ++ String.join ((importLines package d.imports).map (· ++ "\n")) ++
      (if importLines package d.imports = [] then "" else "\n") ++
      ("public class " ++ d.name ++ d.heritage ++ " \x7b\n" ++ paragraphs (d.fields.map d.declaration) ++ rest) := by
  have hfront : ("public class " ++ d.name ++ d.heritage ++ " \x7b\n").toList.head? = some 'p' :=
    head?_append (head?_append (head?_append rfl))
  have hinner : ∃ rest, paragraphs (List.filter (!·.isEmpty)
      [paragraphs (d.fields.map d.declaration), accessors d.name (d.fields.map member)]) =
        paragraphs (d.fields.map d.declaration) ++ rest := by
    generalize paragraphs (d.fields.map d.declaration) = declarations
    generalize accessors d.name (d.fields.map member) = methods
    cases hd : declarations.isEmpty with
    | true =>
      rw [String.isEmpty_iff.1 hd]
      exact ⟨_, String.empty_append.symm⟩
    | false =>
      rw [List.filter_cons_of_pos (by simp [hd]), List.filter_singleton]
      cases methods.isEmpty with
      | true => exact ⟨"", by simp [paragraphs]⟩
      | false => exact ⟨"\n\n" ++ methods, by simp [paragraphs, String.intercalate_cons_cons, String.append_assoc]⟩
  obtain ⟨rest, hinner⟩ := hinner
  refine ⟨rest ++ "\n\x7d" ++ "\n", ?_⟩
  have hbody : trim d.body = "public class " ++ d.name ++ d.heritage ++ " \x7b\n" ++
      paragraphs (d.fields.map d.declaration) ++ rest ++ "\n\x7d" := by
    unfold body
    dsimp only
    rw [trim_class hfront (by decide), hinner, ← String.append_assoc]
  -- The empty line behind the imports is there exactly if there are imports.
  have hblock : (if (importBlock package d.imports).isEmpty then heading package
      else heading package ++ importBlock package d.imports ++ "\n") =
      heading package ++ importBlock package d.imports ++ if importLines package d.imports = [] then "" else "\n" := by
    unfold importBlock
    cases importLines package d.imports with
    | nil => simp
    | cons l block =>
      have hpresent : (String.join ((l :: block).map (· ++ "\n"))).isEmpty = false := by
        rw [List.map_cons, String.join_cons, Bool.eq_false_iff, Ne, String.isEmpty_iff, ← String.toList_eq_nil_iff]
        simp
      rw [hpresent, if_neg Bool.false_ne_true, if_neg (List.cons_ne_nil l block)]
  unfold Dto.template javaTemplate sourceFile
  dsimp only
  rw [hbody]
  change (if (importBlock package d.imports).isEmpty then heading package
      else heading package ++ importBlock package d.imports ++ "\n") ++ _ ++ "\n" = _
  rw [hblock, importBlock]
  simp only [String.append_assoc]

/-- All that the class takes from its fields and from its base stands on one line. -/
structure Dto.OneLine (d : Dto) : Prop where
  fields : ∀ f ∈ d.fields, Artifact.OneLine f
  base : ∀ b, d.base = some b → '\n' ∉ b.qualifiedName.toList

theorem Dto.OneLine.imports (h : d.OneLine) : ∀ item ∈ d.imports, '\n' ∉ item.toList := by
  intro item hitem
  rcases List.mem_append.1 hitem with hitem | hbase
  · obtain ⟨f, hf, hitem⟩ := List.mem_flatMap.1 hitem
    rcases List.mem_append.1 hitem with htype | hmark
    · exact (h.fields f hf).typeImports item htype
    · obtain ⟨entry, hentry, rfl⟩ := List.mem_map.1 hmark
      obtain ⟨m, himport, -⟩ := names_fieldMark hentry
      rw [himport]
      cases m <;> decide
  · obtain ⟨b, hb, rfl⟩ := Option.map_eq_some_iff.1 (Option.mem_toList.1 hbase)
    exact h.base b hb

/-- Read line by line, the source imports what its block says. -/
theorem Dto.OneLine.importsAbove_template (h : d.OneLine) (hp : '\n' ∉ package.toList) :
    importsAbove (d.template package).content = importLines package d.imports := by
  obtain ⟨rest, hcontent⟩ := d.content_eq package
  have hlines : ∀ l ∈ importLines package d.imports, '\n' ∉ l.toList ∧ ∃ name, l = "import " ++ name := by
    intro l hl
    obtain ⟨item, hitem, hline⟩ := mem_importLines.1 hl
    have hname : '\n' ∉ (importedName item).toList := fun hmem =>
      h.imports item hitem (mem_of_mem_importedName hmem)
    rw [eq_of_importLine? hline]
    exact ⟨by simp +decide [String.toList_append, hname], importedName item ++ ";", String.append_assoc ..⟩
  have hclass (gap : String) (hgap : gap = "" ∨ gap = "\n") (body : String) :
      importsAbove (gap ++ ("public class " ++ body)) = [] := by
    have hword : "public class " = "public " ++ "class " := by decide
    rcases hgap with rfl | rfl
    · rw [String.empty_append, hword, String.append_assoc, importsAbove_public]
    · have hbreak : '\n' ∉ "".toList := by decide
      have hempty := importsAbove_line hbreak (by decide) ("public class " ++ body)
      rw [String.empty_append] at hempty
      rw [hempty, hword, String.append_assoc, importsAbove_public]
      decide
  rw [hcontent]
  simp only [String.append_assoc]
  rw [importsAbove_heading hp, importsAbove_block hlines, hclass _ (by split <;> simp), List.append_nil]

end Source

/-- A text that must be there. -/
def guestField : Field where
  name := "guest"
  typeName := "String"
  columnDefinition := some "VarChar( 40 ) NOT\tNULL"

def bookingDto : Dto where
  name := "BookingDTO"
  kind := .dto
  fields := [guestField]
  excel := true

end Scaffold.Artifact
