import Mathlib.Data.List.Infix
import Scaffold.Artifact.Controller
import Scaffold.Artifact.Mapping
import Scaffold.Artifact.Service

/-! Rendered artifacts hold what they are made of: a class its methods and handlers, a mapping document its
sections. -/

namespace Scaffold.Artifact

open Scaffold.Text

theorem infix_intercalate {sep w : String} {ws : List String} (h : w ∈ ws) :
    w.toList <:+: (sep.intercalate ws).toList := by
  induction ws with
  | nil => exact absurd h List.not_mem_nil
  | cons v rest ih =>
    cases rest with
    | nil => rw [List.mem_singleton.1 h, String.intercalate_singleton]
    | cons u rest =>
      rw [String.intercalate_cons_cons, String.toList_append, String.toList_append]
      rcases List.mem_cons.1 h with rfl | h
      · rw [List.append_assoc]
        exact (List.prefix_append _ _).isInfix
      · exact (ih h).trans (List.suffix_append _ _).isInfix

theorem head?_append {s t : String} {c : Char} (h : s.toList.head? = some c) :
    (s ++ t).toList.head? = some c := by
  rw [String.toList_append, List.head?_append, h, Option.some_or]

def Annotated (s : String) : Prop := ∃ rest, s.toList = '@' :: rest

theorem Annotated.append {s : String} (h : Annotated s) (t : String) : Annotated (s ++ t) := by
  obtain ⟨rest, hs⟩ := h
  exact ⟨rest ++ t.toList, by rw [String.toList_append, hs, List.cons_append]⟩

theorem Annotated.head? {s : String} (h : Annotated s) : s.toList.head? = some '@' := by
  obtain ⟨rest, hs⟩ := h
  rw [hs, List.head?_cons]

theorem trim_class {front : String} {c : Char} (hfront : front.toList.head? = some c) (hc : isBlank c = false)
    (inner : String) : trim (front ++ inner ++ "\n\x7d\n") = front ++ inner ++ "\n\x7d" := by
  obtain ⟨rest, hfront⟩ := List.head?_eq_some_iff.1 hfront
  have hchars : (front ++ inner ++ "\n\x7d\n").toList = c :: (rest ++ inner.toList ++ ['\n', '\x7d', '\n']) := by
    rw [String.toList_append, String.toList_append, hfront, List.cons_append, List.cons_append]
    rfl
  have hshort : (front ++ inner ++ "\n\x7d").toList = c :: (rest ++ inner.toList ++ ['\n', '\x7d']) := by
    rw [String.toList_append, String.toList_append, hfront, List.cons_append, List.cons_append]
    rfl
  have hbreak : isBlank '\n' = true := by decide
  have hbrace : isBlank '\x7d' = false := by decide
  rw [← String.toList_inj, hshort]
  unfold trim trimChars dropBlanksRight
  rw [String.toList_ofList, hchars, dropBlanks_cons_of_not _ hc, List.reverse_cons, List.reverse_append]
  simp [hbreak, hbrace]

theorem infix_trim {x : List Char} {front inner : String} {c : Char} (hfront : front.toList.head? = some c)
    (hc : isBlank c = false) (h : x <:+: inner.toList) : x <:+: (trim (front ++ inner ++ "\n\x7d\n")).toList := by
  rw [trim_class hfront hc, String.toList_append, String.toList_append]
  exact h.trans ⟨_, _, rfl⟩

theorem infix_javaTemplate {x : List Char} {body : String} (h : x <:+: (trim body).toList)
    (kind : ArtifactKind) (name package : String) (imports : List String) :
    x <:+: (javaTemplate kind name package imports body).content.toList := by
  unfold javaTemplate sourceFile
  dsimp only
  rw [String.toList_append, String.toList_append]
  exact h.trans ⟨_, _, rfl⟩

/-- What stands between the braces of a service: its members, then its methods in order. -/
theorem ServiceClass.infix_blocks (c : ServiceClass) (package : String) :
    (paragraphs (c.plan.memberText c.name :: c.emitted.map fun m => m.render (c.overrides m))).toList <:+:
      (c.template package).content.toList := by
  have hservice : Annotated "@Service\n@Transactional\npublic class " := ⟨_, rfl⟩
  have hfront := (((hservice.append c.name).append c.heritage).append " \x7b\n").head?
  exact infix_javaTemplate (infix_trim hfront (by decide) (List.infix_refl _)) _ _ _ _

theorem ServiceClass.infix_template {c : ServiceClass} {m : Method} (h : m ∈ c.emitted) (package : String) :
    (m.render (c.overrides m)).toList <:+: (c.template package).content.toList := by
  refine List.IsInfix.trans (infix_intercalate ?_) (c.infix_blocks package)
  exact List.mem_cons_of_mem _ (List.mem_map_of_mem (f := fun m => m.render (c.overrides m)) h)

theorem infix_serviceInterface (p : ServicePlan) (package : String) :
    (paragraphs ((interfaceMethods p).map fun m => "    " ++ m.signature ++ ";")).toList <:+:
      (serviceInterfaceTemplate p package).content.toList := by
  have hfront : ("public interface " ++ (p.entity.baseName ++ "Service") ++ " \x7b\n").toList.head? = some 'p' :=
    head?_append (head?_append rfl)
  exact infix_javaTemplate (infix_trim hfront (by decide) (List.infix_refl _)) _ _ _ _

theorem Controller.annotated_header (c : Controller) : Annotated (unlines c.header) := by
  have hfirst : Annotated "@RestController" := ⟨_, rfl⟩
  unfold unlines Controller.header
  rw [List.cons_append, List.cons_append, String.intercalate_cons_cons, String.append_assoc]
  exact hfirst.append _

theorem Controller.infix_template {c : Controller} {h : Handler} (hh : h ∈ c.handlers) (package : String) :
    (h.render c.options.swagger).toList <:+: (c.template package).content.toList := by
  refine infix_javaTemplate (infix_trim (Annotated.head? ?_) (by decide) (infix_intercalate ?_)) _ _ _ _
  · exact (((c.annotated_header.append _).append _).append _).append _
  · exact List.mem_append_left _ (List.mem_append_right _ (List.mem_map_of_mem hh))

theorem Mapping.infix_template {m : Mapping} {part : List String} (h : part ∈ m.sections) :
    (unlines part).toList <:+: m.template.content.toList := by
  unfold Mapping.template Mapping.text
  dsimp only
  rw [String.toList_append]
  exact (infix_intercalate (List.mem_map_of_mem h)).trans (List.prefix_append _ _).isInfix

end Scaffold.Artifact
