import Mathlib.Data.List.Infix
import Scaffold.Proofs.Artifact.Characters
import Scaffold.Proofs.Artifact.Rendering

/-! The head of a source: the line of its package and a blank line, or nothing in the unnamed package, and
behind it an import, an annotation or a public type. -/

namespace Scaffold.Artifact

open Scaffold.Text

def heading (package : String) : String := if package.isEmpty then "" else "package " ++ package ++ ";\n\n"

/-- What may stand behind the heading. -/
def openings : List String := ["import", "@", "public"]

/-- A text that an opening starts. -/
def Opens (text : String) : Prop := ∃ word ∈ openings, word.toList <+: text.toList

/-- A source in a package. -/
def Headed (package content : String) : Prop :=
  ∃ word ∈ openings, (heading package ++ word).toList <+: content.toList

theorem openings_not_blank : ∀ word ∈ openings, word.toList ≠ [] ∧ ∀ c ∈ word.toList, isBlank c = false := by
  have hall : ∀ word ∈ openings, word.toList ≠ [] ∧ word.toList.all (!isBlank ·) = true := by decide
  intro word hword
  obtain ⟨hne, hchars⟩ := hall word hword
  exact ⟨hne, fun c hc => (Bool.not_eq_true' _).mp (List.all_eq_true.1 hchars c hc)⟩

@[simp] theorem Opens.append {s : String} (h : Opens s) (t : String) : Opens (s ++ t) := by
  obtain ⟨word, hword, hs⟩ := h
  refine ⟨word, hword, ?_⟩
  rw [String.toList_append]
  exact hs.trans (List.prefix_append _ _)

theorem prefix_dropWhileRight {p : Char → Bool} {front s : List Char} {c : Char} (hc : p c = false)
    (h : front ++ [c] <+: s) : front ++ [c] <+: (s.reverse.dropWhile p).reverse := by
  obtain ⟨rest, rfl⟩ := h
  rw [List.reverse_append, List.dropWhile_append]
  split
  · rw [List.reverse_append, List.reverse_singleton, List.singleton_append, List.dropWhile_cons_of_neg (by simp [hc])]
    simp
  · rw [List.reverse_append, List.reverse_reverse]
    exact List.prefix_append _ _

theorem prefix_dropBlanksRight {front s : List Char} {c : Char} (hc : isBlank c = false)
    (h : front ++ [c] <+: s) : front ++ [c] <+: dropBlanksRight s := prefix_dropWhileRight hc h

theorem exists_last {word : List Char} (hne : word ≠ []) (hb : ∀ c ∈ word, isBlank c = false) :
    ∃ front c, word = front ++ [c] ∧ isBlank c = false :=
  ⟨word.dropLast, word.getLast hne, (List.dropLast_concat_getLast hne).symm, hb _ (List.getLast_mem hne)⟩

/-- A word at the start of a text is still there when the text is trimmed. -/
theorem prefix_trimChars {word s : List Char} (hne : word ≠ []) (hb : ∀ c ∈ word, isBlank c = false)
    (h : word <+: s) : word <+: trimChars s := by
  obtain ⟨front, c, hlast, hc⟩ := exists_last hne hb
  obtain ⟨d, ds, hfirst⟩ := List.exists_cons_of_ne_nil hne
  have hstart : dropBlanks s = s := by
    obtain ⟨rest, rfl⟩ := h
    rw [hfirst]
    exact dropBlanks_cons_of_not _ (hb d (by rw [hfirst]; exact List.mem_cons_self))
  unfold trimChars
  rw [hstart]
  rw [hlast] at h ⊢
  exact prefix_dropBlanksRight hc h

theorem Opens.trim {body : String} (h : Opens body) : Opens (trim body) := by
  obtain ⟨word, hword, hprefix⟩ := h
  obtain ⟨hne, hb⟩ := openings_not_blank word hword
  refine ⟨word, hword, ?_⟩
  unfold Text.trim
  rw [String.toList_ofList]
  exact prefix_trimChars hne hb hprefix

theorem opens_importBlock {package : String} {imports : List String}
    (h : (importBlock package imports).isEmpty = false) : Opens (importBlock package imports) := by
  unfold importBlock at h ⊢
  rcases hlines : importLines package imports with _ | ⟨line, rest⟩
  · rw [hlines] at h
    exact absurd h (by decide)
  · have hline : line ∈ importLines package imports := by rw [hlines]; exact List.mem_cons_self
    obtain ⟨item, -, himport⟩ := List.mem_filterMap.1 (mem_of_mem_sortedSet hline)
    have hopens : Opens line := by
      have hword : Opens "import " := ⟨"import", by decide, by decide⟩
      rw [eq_of_importLine? himport]
      exact (hword.append _).append _
    rw [List.map_cons, String.join_cons]
    exact (hopens.append _).append _

theorem headed_sourceFile {body : String} (h : Opens body) (package : String) (imports : List String) :
    Headed package (sourceFile package imports body) := by
  have happend {s : String} (hs : Opens s) : Headed package (heading package ++ s) := by
    obtain ⟨word, hword, hprefix⟩ := hs
    refine ⟨word, hword, ?_⟩
    rw [String.toList_append, String.toList_append]
    exact List.prefix_append_right_inj _ |>.2 hprefix
  unfold sourceFile
  dsimp only
  change Headed package ((if (importBlock package imports).isEmpty then heading package
    else heading package ++ importBlock package imports ++ "\n") ++ Text.trim body ++ "\n")
  cases hblock : (importBlock package imports).isEmpty with
  | true =>
    rw [if_pos rfl, String.append_assoc]
    exact happend (h.trim.append _)
  | false =>
    rw [if_neg (by decide)]
    simp only [String.append_assoc]
    exact happend ((opens_importBlock hblock).append _)

theorem Headed.normalize {package content : String} (h : Headed package content) :
    Headed package (Store.normalize content) := by
  obtain ⟨word, hword, hprefix⟩ := h
  obtain ⟨hne, hb⟩ := openings_not_blank word hword
  obtain ⟨front, c, hlast, hc⟩ := exists_last hne hb
  refine ⟨word, hword, ?_⟩
  unfold Store.normalize trimRight
  rw [String.toList_append, String.toList_append, String.toList_ofList]
  rw [String.toList_append] at hprefix
  rw [hlast, ← List.append_assoc] at hprefix ⊢
  exact (prefix_dropBlanksRight hc hprefix).trans (List.prefix_append _ _)

theorem headed_javaTemplate {body : String} (h : Opens body) (kind : ArtifactKind) (name package : String)
    (imports : List String) : Headed package (javaTemplate kind name package imports body).content :=
  headed_sourceFile h package imports

/-- A template for an entity in a directory whose package, if it is a class, it is written for. -/
structure Addressed (l : Run.Layout) (e : Entity) (t : Template) (directory : String) : Prop extends
    Belongs l e t directory where
  headed : t.kind.extension = ".java" → Headed (l.packageOf directory) t.content

theorem Annotated.opens {s : String} (h : Annotated s) : Opens s := by
  obtain ⟨rest, hs⟩ := h
  exact ⟨"@", by decide, by rw [hs]; exact ⟨rest, rfl⟩⟩

theorem opens_public {s : String} (h : "public".toList <+: s.toList) : Opens s := ⟨"public", by decide, h⟩

@[simp] theorem opens_interface : Opens "public interface " := opens_public (by decide)

@[simp] theorem opens_class : Opens "public class " := opens_public (by decide)

namespace Addressed

variable {l : Run.Layout} {e : Entity} {directory : String}

theorem of_class {kind : ArtifactKind} {name body : String} {imports : List String} (hb : Opens body)
    (h : Belongs l e (javaTemplate kind name (l.packageOf directory) imports body) directory) :
    Addressed l e (javaTemplate kind name (l.packageOf directory) imports body) directory :=
  ⟨h, fun _ => headed_javaTemplate hb _ _ _ _⟩

theorem baseRepository : Addressed l e (baseRepositoryTemplate (l.packageOf directory)) directory := by
  have hbody : Opens "@NoRepositoryBean\npublic interface " := Annotated.opens ⟨_, rfl⟩
  exact of_class (by simp [String.append_assoc, hbody]) .baseRepository

theorem repository (base : Handle) :
    Addressed l e (repositoryTemplate e (l.packageOf directory) base) directory :=
  of_class (by simp [String.append_assoc]) (.repository _ base)

theorem entityMapper : Addressed l e (entityMapperTemplate (l.packageOf directory)) directory :=
  of_class (by simp [String.append_assoc]) .entityMapper

theorem mapper (dto entityMapper : Handle) :
    Addressed l e (mapperTemplate e (l.packageOf directory) dto entityMapper) directory := by
  have hbody : Opens "@Mapper(componentModel = \"spring\")\npublic interface " := Annotated.opens ⟨_, rfl⟩
  exact of_class (by simp [String.append_assoc, hbody]) (.mapper _ dto entityMapper)

theorem baseQuery : Addressed l e (baseQueryTemplate (l.packageOf directory)) directory :=
  of_class (by simp [String.append_assoc]) .baseQuery

theorem query (base : Option Handle) :
    Addressed l e (queryTemplate e (l.packageOf directory) base) directory :=
  of_class (by simp [String.append_assoc]) (.query _ base)

theorem dao (s : Settings) (query : Handle) :
    Addressed l e (daoTemplate e s (l.packageOf directory) query) directory :=
  of_class (by simp [String.append_assoc]) (.dao s _ query)

theorem mapping {m : Mapping} (h : m.dao.name = e.baseName ++ "Dao") :
    Addressed l e m.template directory :=
  ⟨.mapping h, fun h => absurd h (by decide : ArtifactKind.daoXml.extension ≠ ".java")⟩

theorem dto {s : Settings} {base : Option Handle} {t : Template}
    (h : t ∈ dtoTemplates e s (l.packageOf directory) base) : Addressed l e t directory := by
  refine ⟨belongs_dto l h, fun _ => ?_⟩
  obtain ⟨d, -, rfl⟩ := List.mem_map.1 h
  have hbody : Opens d.body := ((((opens_class.append _).append _).append _).append _).append _
  exact headed_javaTemplate hbody _ _ _ _

theorem serviceClass {c : ServiceClass} (h : Belongs l e (c.template (l.packageOf directory)) directory) :
    Addressed l e (c.template (l.packageOf directory)) directory := by
  have hbody : Opens "@Service\n@Transactional\npublic class " := Annotated.opens ⟨_, rfl⟩
  have hclass : Opens c.body := ((((hbody.append _).append _).append _).append _).append _
  exact of_class hclass h

theorem service {p : ServicePlan} (h : p.entity = e) :
    Addressed l e (serviceTemplate p (l.packageOf directory)) directory :=
  serviceClass (.service h _)

theorem serviceImpl {p : ServicePlan} (h : p.entity = e) (interface : Handle) :
    Addressed l e (serviceImplTemplate p (l.packageOf directory) interface) directory :=
  serviceClass (.serviceImpl h _ interface)

theorem serviceInterface {p : ServicePlan} (h : p.entity = e) :
    Addressed l e (serviceInterfaceTemplate p (l.packageOf directory)) directory :=
  of_class (by simp [String.append_assoc]) (.serviceInterface h _)

theorem controller {c : Controller} (h : c.entity = e)
    (hs : c.options.suffix = "Controller" ∨ c.options.suffix = "Resource") :
    Addressed l e (c.template (l.packageOf directory)) directory := by
  have hbody : Opens c.body :=
    (((((c.annotated_header.opens.append _).append _).append _).append _).append _).append _
  exact of_class hbody (.controller h hs _)

theorem page (fields : List Entity.Field) (url : String) :
    Addressed l e (pageTemplate e fields url) directory :=
  ⟨.page fields url, fun h => absurd h (by decide : ArtifactKind.page.extension ≠ ".java")⟩

end Addressed

end Scaffold.Artifact
