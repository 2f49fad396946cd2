import Mathlib.Data.List.DropRight
import Scaffold.Artifact.Persistence
import Scaffold.Artifact.Query
import Scaffold.Proofs.Artifact.Characters
import Scaffold.Proofs.Artifact.FileName
import Scaffold.Proofs.Artifact.ImportBlock
import Scaffold.Proofs.Java.Clauses

/-! Generated sources can be read. In a Java package the file of a shared type declares a type of the kind that the
types built on it need. -/

namespace Scaffold

namespace Source

open Scaffold.Java

/-- The kind of class that a source stands for: that of the first type in it that is called so, and a plain class if
there is none or the source cannot be read. -/
def kindOf (name source : String) : ClassKind :=
  match SourceUnit.read source with
  | .ok u => (((headsOf u.types).find? (·.name == name)).map fun d => classKind d.kind).getD .plain
  | .error _ => .plain

theorem kindOf_of_heads {name source : String} {u : SourceUnit} {kind : DeclKind} (h : SourceUnit.read source = .ok u)
    (hheads : (headsOf u.types).map (fun d => (d.kind, d.name)) = [(kind, name)]) :
    kindOf name source = classKind kind := by
  obtain ⟨d, hd, hpair⟩ := List.map_eq_singleton_iff.1 hheads
  obtain ⟨rfl, rfl⟩ := Prod.mk.inj hpair
  unfold kindOf
  rw [h]
  dsimp only
  rw [hd, List.find?_cons_of_pos (by simp)]
  rfl

end Source

/-- What a shared type of a kind has to be: repositories and mappers extend interfaces, queries a class. -/
def ArtifactKind.sharedKind : ArtifactKind → ClassKind
  | .baseRepository | .entityMapper => .interface
  | _ => .plain

namespace Artifact

open Scaffold.Text Scaffold.Java

variable {package body : String} {k : Nat}

section Normalized

theorem dropBlanksRight_append_trimChars {s : List Char} (h : trimChars s ≠ []) (front : List Char) :
    dropBlanksRight (front ++ trimChars s) = front ++ trimChars s := by
  have hback : (trimChars s).reverse.dropWhile isBlank = (trimChars s).reverse := by
    unfold trimChars dropBlanksRight
    rw [List.reverse_reverse, List.dropWhile_idempotent]
  have hne : ((trimChars s).reverse.dropWhile isBlank).isEmpty = false := by
    rw [hback]
    simpa using h
  rw [dropBlanksRight, List.reverse_append, List.dropWhile_append, hne, if_neg Bool.false_ne_true, hback,
    ← List.reverse_append, List.reverse_reverse]

theorem normalize_sourceFile {imports : List String} (h : trimChars body.toList ≠ []) :
    Store.normalize (sourceFile package imports body) = sourceFile package imports body := by
  unfold Store.normalize trimRight sourceFile trim
  dsimp only
  rw [← String.toList_inj]
  generalize (if (importBlock package imports).isEmpty = true then _ else _ : String) = front
  have hbreak : isBlank '\n' = true := by decide
  have hend (s : List Char) : dropBlanksRight (s ++ ['\n']) = dropBlanksRight s := by
    unfold dropBlanksRight
    rw [List.reverse_append, List.reverse_singleton, List.singleton_append, List.dropWhile_cons, if_pos hbreak]
  rw [String.toList_append, String.toList_ofList, String.toList_append, String.toList_append, String.toList_ofList]
  change dropBlanksRight (front.toList ++ trimChars body.toList ++ ['\n']) ++ ['\n'] = _
  rw [hend, dropBlanksRight_append_trimChars h]
  rfl

end Normalized

section Clauses

variable {names : List String}

theorem backslash_not_mem_clause {word : String} (hword : '\\' ∉ word.toList) (h : ∀ n ∈ names, IsName n) :
    '\\' ∉ (clause word names).toList := by
  unfold clause
  simp only [String.toList_append, List.mem_append, not_or]
  refine ⟨⟨⟨hword, by decide⟩, fun hmem => ?_⟩, by decide⟩
  rcases mem_of_mem_intercalate hmem with hdot | ⟨n, hn, hc⟩
  · exact absurd hdot (by decide)
  · exact absurd (List.all_eq_true.1 (h n hn).chars _ hc) (by decide)

theorem isDotted_intercalate (hne : names ≠ []) (h : ∀ n ∈ names, IsName n) : IsDotted (".".intercalate names) := by
  refine ⟨names, hne, rfl, fun n hn => ?_⟩
  obtain ⟨⟨hstarts, hchars⟩, -, -⟩ := h n hn
  refine ⟨?_, List.all_eq_true.1 hchars⟩
  rintro rfl
  exact nomatch hstarts

/-- The import lines of a class are clauses, each for one of the names it was given. -/
theorem importLines_clauses (package : String) {items : List (List String)}
    (h : ∀ names ∈ items, names ≠ [] ∧ ∀ n ∈ names, IsName n) :
    ∃ imports : List (List String), importLines package (items.map (".".intercalate ·)) =
      imports.map (clause "import" ·) ∧ ∀ names ∈ imports, names ≠ [] ∧ ∀ n ∈ names, IsName n := by
  have hline : ∀ line ∈ importLines package (items.map (".".intercalate ·)), ∃ names,
      (names ≠ [] ∧ ∀ n ∈ names, IsName n) ∧ line = clause "import" names := by
    intro line hmem
    obtain ⟨item, hitem, himport⟩ := mem_importLines.1 hmem
    obtain ⟨names, hnames, rfl⟩ := List.mem_map.1 hitem
    obtain ⟨hne, hn⟩ := h names hnames
    exact ⟨names, ⟨hne, hn⟩, ((isDotted_intercalate hne hn).importLine?_eq_some_iff.1 himport).2⟩
  generalize importLines package (items.map (".".intercalate ·)) = lines at hline
  induction lines with
  | nil => exact ⟨[], rfl, fun _ h => absurd h List.not_mem_nil⟩
  | cons line lines ih =>
    obtain ⟨names, hnames, rfl⟩ := hline line List.mem_cons_self
    obtain ⟨imports, rfl, himports⟩ := ih fun l hl => hline l (List.mem_cons_of_mem _ hl)
    exact ⟨names :: imports, rfl, List.forall_mem_cons.2 ⟨hnames, himports⟩⟩

theorem importLines_ne_nil {item : String} {items : List String} (hitem : item ∈ items)
    (h : importLine? package item ≠ none) : importLines package items ≠ [] := by
  obtain ⟨line, hline⟩ := Option.ne_none_iff_exists'.1 h
  exact List.ne_nil_of_mem (mem_importLines.2 ⟨item, hitem, hline⟩)

end Clauses

section Files

/-- The names that the package and the imports of a file are made of. -/
structure Preamble (package : String) (items : List String) (names : List String) (imports : List (List String)) :
    Prop where
  joined : package = ".".intercalate names
  unnamed : names = [] ↔ package = ""
  named : ∀ n ∈ names, IsName n
  lines : importLines package items = imports.map (clause "import" ·)
  imported : ∀ item ∈ imports, item ≠ [] ∧ ∀ n ∈ item, IsName n

theorem exists_preamble {items : List (List String)} (hpackage : IsJavaPackage package)
    (hitems : ∀ names ∈ items, names ≠ [] ∧ ∀ n ∈ names, IsName n) :
    ∃ names imports, Preamble package (items.map (".".intercalate ·)) names imports := by
  obtain ⟨imports, hlines, himports⟩ := importLines_clauses package hitems
  rcases hpackage with rfl | ⟨names, hne, rfl, hnames⟩
  · exact ⟨[], imports, rfl, ⟨fun _ => rfl, fun _ => rfl⟩, fun _ h => absurd h List.not_mem_nil, hlines, himports⟩
  · refine ⟨names, imports, rfl, ⟨fun h => absurd h hne, fun h => ?_⟩, hnames, hlines, himports⟩
    obtain ⟨c, r, hcs, -⟩ := head_intercalate hne hnames
    rw [h] at hcs
    exact nomatch hcs

namespace Preamble

variable {items names : List String} {imports : List (List String)} {ts : List Token}

theorem toList_sourceFile (h : Preamble package items names imports) (body : String) :
    (sourceFile package items body).toList =
      (if names = [] then [] else (clause "package" names).toList ++ ['\n', '\n']) ++
        (imports.flatMap (fun names => (clause "import" names).toList ++ ['\n']) ++
          ((if imports = [] then [] else ['\n']) ++ ((trim body).toList ++ ['\n']))) := by
  have hblock : (importBlock package items).toList =
      imports.flatMap fun names => (clause "import" names).toList ++ ['\n'] := by
    unfold importBlock
    rw [h.lines, String.toList_join, List.map_map, List.flatMap_map]
    simp only [Function.comp_def, String.toList_append]
    rfl
  have hempty : (importBlock package items).isEmpty = decide (imports = []) := by
    rw [Bool.eq_iff_iff, String.isEmpty_iff, ← String.toList_eq_nil_iff, hblock, decide_eq_true_eq]
    cases imports <;> simp
  have hhead : (if package.isEmpty then "" else "package " ++ package ++ ";\n\n").toList =
      if names = [] then [] else (clause "package" names).toList ++ ['\n', '\n'] := by
    by_cases hnone : names = []
    · rw [if_pos hnone, h.unnamed.1 hnone]
      rfl
    · have hne : package.isEmpty = false := by
        rw [Bool.eq_false_iff]
        exact fun hp => hnone (h.unnamed.2 (String.isEmpty_iff.1 hp))
      rw [if_neg hnone, hne, if_neg Bool.false_ne_true, h.joined]
      unfold clause
      simp
  -- The empty block brings no empty line with it.
  unfold sourceFile
  dsimp only
  rw [String.toList_append, String.toList_append, hempty]
  by_cases hnone : imports = []
  · rw [if_pos (decide_eq_true hnone), hhead, if_pos hnone, hnone]
    simp
  · rw [if_neg (by simpa using hnone), String.toList_append, String.toList_append, hhead, hblock, if_neg hnone]
    simp

theorem backslash_not_mem (h : Preamble package items names imports) (hbody : '\\' ∉ (trim body).toList) :
    '\\' ∉ (sourceFile package items body).toList := by
  rw [h.toList_sourceFile]
  simp only [List.mem_append, not_or]
  refine ⟨?_, ?_, ?_, hbody, by decide⟩
  · split
    · exact List.not_mem_nil
    · rw [List.mem_append, not_or]
      exact ⟨backslash_not_mem_clause (by decide) h.named, by decide⟩
  · intro hmem
    obtain ⟨item, hitem, hmem⟩ := List.mem_flatMap.1 hmem
    rcases List.mem_append.1 hmem with hmem | hmem
    · exact backslash_not_mem_clause (by decide) (h.imported item hitem).2 hmem
    · exact absurd hmem (by decide)
  · split <;> decide

theorem lexes (h : Preamble package items names imports) (hts : Lexes ((trim body).toList ++ ['\n']) ts) :
    Lexes (sourceFile package items body).toList (fileTokens names imports ts) := by
  rw [h.toList_sourceFile]
  have hbody : Lexes ((if imports = [] then [] else ['\n']) ++ ((trim body).toList ++ ['\n'])) ts := by
    by_cases hnone : imports = []
    · rw [if_pos hnone, List.nil_append]
      exact hts
    · rw [if_neg hnone, List.singleton_append]
      exact Lexes.blank (c := '\n') (by decide) hts
  have hblock := Lexes.imports h.imported hbody
  unfold fileTokens
  by_cases hnone : names = []
  · rw [if_pos hnone, if_pos hnone, List.nil_append, List.nil_append]
    exact hblock
  · rw [if_neg hnone, if_neg hnone, List.append_assoc, List.cons_append, List.cons_append, List.nil_append]
    exact Lexes.clause ⟨by decide, by decide⟩ hnone h.named
      (Lexes.blank (c := '\n') (by decide) (Lexes.blank (c := '\n') (by decide) hblock))

end Preamble

/-- A source file in a Java package is read if its body is, and declares what its body declares. -/
theorem read_sourceFile {items : List (List String)} {kind : TokenKind} {found : List (DeclKind × String)}
    (hpackage : IsJavaPackage package) (hitems : ∀ names ∈ items, names ≠ [] ∧ ∀ n ∈ names, IsName n)
    (hbelow : typesBelow? k ((trim body).toList ++ ['\n']) = some (kind, found)) (hplain : '\\' ∉ (trim body).toList)
    (hopen : package = "" → importLines package (items.map (".".intercalate ·)) = [] → kind ≠ .at) :
    ∃ u, SourceUnit.read (sourceFile package (items.map (".".intercalate ·)) body) = .ok u ∧
      (Source.headsOf u.types).map (fun d => (d.kind, d.name)) = found := by
  obtain ⟨names, imports, h⟩ := exists_preamble hpackage hitems
  refine read_of_typesBelow? names hbelow (h.backslash_not_mem hplain) h.imported ?_ fun ts hts => h.lexes hts
  intro hn hi
  refine hopen (h.unnamed.1 hn) ?_
  rw [h.lines, hi]
  rfl

/-- The class of a template, as it is known once the file is there. -/
theorem kindOf_javaTemplate (k : Nat) (opening : TokenKind) (declared : DeclKind) {items : List (List String)}
    {name : String} (hpackage : IsJavaPackage package)
    (hitems : ∀ names ∈ items, names ≠ [] ∧ ∀ n ∈ names, IsName n)
    (hbelow : typesBelow? k ((trim body).toList ++ ['\n']) = some (opening, [(declared, name)]))
    (hplain : '\\' ∉ (trim body).toList)
    (hopen : package = "" → importLines package (items.map (".".intercalate ·)) = [] → opening ≠ .at)
    (kind : ArtifactKind) :
    Source.kindOf name (Store.normalize (javaTemplate kind name package (items.map (".".intercalate ·)) body).content) =
      Source.classKind declared := by
  have hne : trimChars body.toList ≠ [] := by
    intro h
    rw [trim, String.toList_ofList, h] at hbelow
    exact nomatch hbelow
  obtain ⟨u, hread, hheads⟩ := read_sourceFile hpackage hitems hbelow hplain hopen
  change Source.kindOf name (Store.normalize (sourceFile _ _ _)) = _
  rw [normalize_sourceFile hne]
  exact Source.kindOf_of_heads hread hheads

end Files

section Shared

theorem kindOf_baseRepository (h : IsJavaPackage package) :
    Source.kindOf baseRepositoryName (Store.normalize (baseRepositoryTemplate package).content) = .interface := by
  let items := [["org", "springframework", "data", "jpa", "repository", "JpaRepository"],
    ["org", "springframework", "data", "jpa", "repository", "JpaSpecificationExecutor"],
    ["org", "springframework", "data", "repository", "NoRepositoryBean"]]
  have hitems : ∀ names ∈ items, names ≠ [] ∧ ∀ n ∈ names, IsName n := by decide
  have himports : ["org.springframework.data.jpa.repository.JpaRepository",
      "org.springframework.data.jpa.repository.JpaSpecificationExecutor",
      "org.springframework.data.repository.NoRepositoryBean"] = items.map (".".intercalate ·) := by
    decide
  have hopen : importLines "" (items.map (".".intercalate ·)) ≠ [] := by
    rw [← himports]
    exact importLines_ne_nil List.mem_cons_self (by decide +kernel)
  unfold baseRepositoryTemplate
  rw [himports]
  refine kindOf_javaTemplate 12 .at .interface h hitems ?_ ?_ ?_ _
  · simp only [trim, String.toList_ofList, baseRepositoryName, String.toList_append, String.reduceToList]
    decide +kernel
  · simp only [trim, String.toList_ofList, baseRepositoryName, String.toList_append, String.reduceToList]
    decide
  · rintro rfl hnone
    exact absurd hnone hopen

theorem kindOf_entityMapper (h : IsJavaPackage package) :
    Source.kindOf entityMapperName (Store.normalize (entityMapperTemplate package).content) = .interface := by
  let items := [["java", "util", "List"]]
  have hitems : ∀ names ∈ items, names ≠ [] ∧ ∀ n ∈ names, IsName n := by decide
  have himports : ["java.util.List"] = items.map (".".intercalate ·) := by decide
  unfold entityMapperTemplate
  rw [himports]
  refine kindOf_javaTemplate 12 .modifier .interface h hitems ?_ ?_ (by simp) _
  · simp only [trim, String.toList_ofList, entityMapperName, String.toList_append, String.reduceToList]
    decide +kernel
  · simp only [trim, String.toList_ofList, entityMapperName, String.toList_append, String.reduceToList]
    decide +kernel

set_option maxRecDepth 20000 in
theorem kindOf_baseQuery (h : IsJavaPackage package) :
    Source.kindOf baseQueryName (Store.normalize (baseQueryTemplate package).content) = .plain := by
  have hpage : Name.upperFirst "page" = "Page" := by decide +kernel
  have hsize : Name.upperFirst "size" = "Size" := by decide
  have horder : Name.upperFirst "orderBy" = "OrderBy" := by decide
  have hbody : typesBelow? 30 ((trim ("public class " ++ baseQueryName ++ " \x7b\n" ++ pagingText baseQueryName ++
        "\n\x7d\n")).toList ++ ['\n']) = some (.modifier, [(.plain, baseQueryName)]) ∧
      '\\' ∉ (trim ("public class " ++ baseQueryName ++ " \x7b\n" ++ pagingText baseQueryName ++
        "\n\x7d\n")).toList := by
    simp only [trim, String.toList_ofList, baseQueryName, pagingText, pagingMembers, pagingDeclaration, unlines,
      accessors, accessorLines, paragraphs, setterName, getterName, Member.declared, List.map_cons, List.map_nil, hpage,
      hsize, horder, String.intercalate_cons_cons, String.intercalate_singleton, String.toList_append,
      String.reduceToList, List.append_assoc]
    decide +kernel
  have hitems : ∀ names ∈ ([] : List (List String)), names ≠ [] ∧ ∀ n ∈ names, IsName n :=
    fun _ hn => absurd hn List.not_mem_nil
  exact kindOf_javaTemplate 30 .modifier .plain h hitems hbody.1 hbody.2 (by simp) _

/-- In a Java package a shared type is of the kind that the types built on it need. -/
theorem kindOf_shared {kind : ArtifactKind} {t : Template} (h : IsJavaPackage package)
    (ht : sharedTemplate? package kind = some t) :
    Source.kindOf t.name (Store.normalize t.content) = kind.sharedKind := by
  cases kind with
  | baseRepository =>
    cases ht
    exact kindOf_baseRepository h
  | entityMapper =>
    cases ht
    exact kindOf_entityMapper h
  | baseQuery =>
    cases ht
    exact kindOf_baseQuery h
  | _ => exact nomatch ht

end Shared

end Artifact

end Scaffold
