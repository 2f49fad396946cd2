import Scaffold.Artifact.Controller
import Scaffold.Proofs.Java.StringLiteral
import Scaffold.Source.Entity

/-! Texts on their way from a literal of a source to a literal of an artifact. On the way in only escaped quotes are
undone, on the way out quotes and backslashes are escaped, so that a text with any other escape comes out as another
text. -/

namespace Scaffold.Artifact

open Scaffold.Text
open Scaffold.Java

section Written

variable {s : String} {c : Char} {cs : List Char} {us ns : List Nat}

/-- A text as a string literal. -/
def quotedLiteral (s : String) : String := "\"" ++ stringLiteral s ++ "\""

theorem toList_quotedLiteral (s : String) :
    (quotedLiteral s).toList = '"' :: (s.toList.flatMap escapeChar ++ ['"']) := by
  unfold quotedLiteral stringLiteral
  simp only [String.toList_append, String.toList_ofList, List.append_assoc]
  rfl

theorem escapeChar_special (h : c = '\\' ∨ c = '"') : escapeChar c = ['\\', c] := by
  unfold escapeChar
  rw [if_pos (by simpa using h)]

theorem escapeChar_plain (h : ¬ (c = '\\' ∨ c = '"')) : escapeChar c = [c] := by
  unfold escapeChar
  rw [if_neg (by simpa using h)]

/-- What is written holds no unicode escape: behind each backslash that could open one stands a backslash or a quote. -/
theorem sourceUnits_escapeChar (c : Char) (s : List Char) :
    sourceUnits (escapeChar c ++ s) = (sourceUnits s).map (utf16 (escapeChar c) ++ ·) := by
  by_cases hspecial : c = '\\' ∨ c = '"'
  · have hletter : c ≠ 'u' := by
      rintro rfl
      exact absurd hspecial (by decide)
    rw [escapeChar_special hspecial]
    exact sourceUnits_slash hletter s
  · rw [not_or] at hspecial
    rw [escapeChar_plain (not_or.2 hspecial), utf16, List.flatMap_singleton]
    exact sourceUnits_plain hspecial.1 s

theorem sourceUnits_escaped (cs : List Char) :
    sourceUnits (cs.flatMap escapeChar ++ ['"']) = some (cs.flatMap (fun c => utf16 (escapeChar c)) ++ [34]) := by
  induction cs with
  | nil =>
    have hquote : '\\' ∉ ['"'] := by decide
    exact sourceUnits_of_not_mem hquote
  | cons c cs ih =>
    rw [List.flatMap_cons, List.flatMap_cons, List.append_assoc, sourceUnits_escapeChar, ih, Option.map_some,
      List.append_assoc]

theorem unescape_plain (h : ∀ n ∈ ns, n ≠ 34 ∧ n ≠ 92 ∧ n ≠ 10 ∧ n ≠ 13) (us : List Nat) :
    unescape (ns ++ us) = (unescape us).map (ns ++ ·) := by
  induction ns with
  | nil => simp
  | cons n r ih =>
    rw [List.forall_mem_cons] at h
    obtain ⟨hquote, hslash, hfeed, hreturn⟩ := h.1
    rw [List.cons_append, unescape_cons_of_plain hslash (by simp [hquote, hfeed, hreturn]), ih h.2, Option.map_map]
    rfl

theorem unescape_escapeChar (h : c ≠ '\n' ∧ c ≠ '\r') (us : List Nat) :
    unescape (utf16 (escapeChar c) ++ us) = (unescape us).map (codeUnits c.toNat ++ ·) := by
  by_cases hspecial : c = '\\' ∨ c = '"'
  · rw [escapeChar_special hspecial]
    rcases hspecial with rfl | rfl
    · have hescaped : escaped? (92 :: us) = some (92, 1) := rfl
      exact unescape_slash _ hescaped
    · have hescaped : escaped? (34 :: us) = some (34, 1) := rfl
      exact unescape_slash _ hescaped
  · rw [not_or] at hspecial
    have hnumber {d : Char} (hd : c ≠ d) : c.toNat ≠ d.toNat := fun heq => hd (Char.toNat_inj.1 heq)
    -- A unit that is no character of its own is half of a pair, and far above all that is special.
    have hunits : ∀ n ∈ codeUnits c.toNat, n ≠ 34 ∧ n ≠ 92 ∧ n ≠ 10 ∧ n ≠ 13 := by
      intro n hn
      have hslash : c.toNat ≠ 92 := hnumber hspecial.1
      have hquote : c.toNat ≠ 34 := hnumber hspecial.2
      have hfeed : c.toNat ≠ 10 := hnumber h.1
      have hreturn : c.toNat ≠ 13 := hnumber h.2
      rcases of_mem_codeUnits hn with rfl | hhigh
      · exact ⟨hquote, hslash, hfeed, hreturn⟩
      · omega
    rw [escapeChar_plain (not_or.2 hspecial), utf16, List.flatMap_singleton]
    exact unescape_plain hunits us

theorem unescape_escaped (h : ∀ c ∈ cs, c ≠ '\n' ∧ c ≠ '\r') :
    unescape (cs.flatMap fun c => utf16 (escapeChar c)) = some (utf16 cs) := by
  induction cs with
  | nil =>
    rw [List.flatMap_nil, unescape]
    rfl
  | cons c cs ih =>
    rw [List.forall_mem_cons] at h
    rw [List.flatMap_cons, unescape_escapeChar h.1, ih h.2]
    rfl

theorem denoted?_quotedLiteral (h : ∀ c ∈ s.toList, c ≠ '\n' ∧ c ≠ '\r') :
    denoted? (quotedLiteral s).toList = some (utf16 s.toList) := by
  have hquote : '"' ≠ '\\' := by decide
  have hsource : sourceUnits (quotedLiteral s).toList =
      some (34 :: (s.toList.flatMap (fun c => utf16 (escapeChar c)) ++ [34])) := by
    rw [toList_quotedLiteral, sourceUnits_plain hquote, sourceUnits_escaped]
    rfl
  rw [denoted?_of_sourceUnits hsource, unescape_escaped h]

end Written

section Carried

variable {l : List Char} {us : List Nat}

theorem value?_last {a : Annot} {before : List (String × Value)} {key : String} {value : Value}
    (h : a.element = some (.pairs (before ++ [(key, value)]))) : a.value? key = nonempty? value.text := by
  unfold Annot.value? Annot.values
  rw [h]
  dsimp only
  rw [List.map_append, Entries.putAll, List.foldl_append]
  exact congrArg (Option.bind · nonempty?) (Entries.lookup_put_self key value.text _)

theorem tag_mem_header {u : SourceUnit} {lookup : Source.Lookup} {d : DeclHead} {a : Annot} {comment : String}
    {c : Controller} (hfirst : d.annots.find? (·.name == Source.commentTable) = some a)
    (hvalue : a.value? "comment" = some comment) (hentity : c.entity = Source.entityOf u lookup d)
    (hswagger : c.options.swagger = true) (hcomment : comment ≠ "") :
    "@Api(tags = " ++ quotedLiteral comment ++ ")" ∈ c.header := by
  have hread : c.entity.comment = some comment := by
    rw [hentity]
    change Source.tableComment? d.annots = some comment
    rw [Source.tableComment?, hfirst, Option.bind_some, hvalue, Option.some_or]
  have htag : c.tag = comment := by
    rw [Controller.tag, hread, Option.bind_some, nonempty?, if_neg (by simpa using hcomment)]
    rfl
  have hline : "@Api(tags = " ++ quotedLiteral comment ++ ")" = "@Api(tags = \"" ++ stringLiteral comment ++ "\")" := by
    have hopen : "@Api(tags = \"" = "@Api(tags = " ++ "\"" := rfl
    have hclose : "\")" = "\"" ++ ")" := rfl
    rw [quotedLiteral, hopen, hclose]
    simp only [String.append_assoc]
  rw [hline, Controller.header, hswagger, if_pos rfl, htag]
  exact List.mem_append_right _ List.mem_cons_self

/-- An entity whose comment has an escaped line feed. -/
def commented : Entity where
  name := "Item"
  package := ""
  annotations := ["Table"]
  comment := some "a\\nb"

/-- Its controller in a project that documents these. -/
def documented : Controller where
  entity := commented
  settings := {}
  deps := { service := default, dto := default, query := default }
  options := { swagger := true }

end Carried

end Scaffold.Artifact
