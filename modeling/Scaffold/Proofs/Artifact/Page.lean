import Mathlib.Data.List.Infix
import Scaffold.Artifact.Page
import Scaffold.Proofs.Artifact.Characters
import Scaffold.Proofs.Java.Identifiers
import Scaffold.Proofs.Json.Reflow
import Scaffold.Proofs.Text.Lines

/-! What a page says about its address and its columns: both are literals, and are read where their labels stand. The
columns go through the lines of their text, so that one line break inside of a title is enough to lose them all. -/

namespace Scaffold.Artifact

open Scaffold.Text
open Scaffold.Entity (Field)

section Labels

variable {label w s t : List Char}

/-- What stands behind the first place of a label in a text. -/
def behind? (label : List Char) : List Char → Option (List Char)
  | [] => none
  | c :: r =>
    match after? label (c :: r) with
    | some t => some t
    | none => behind? label r

/-- The value that stands behind the first place of a label, and what follows it. -/
def readBehind? (label : String) (s : List Char) : Option (Json.Value × List Char) := do
  let s ← behind? label.toList s
  (Json.readValue (2 * s.length + 2) s).toOption

/-- The label does not begin anywhere in a text, whatever follows it. -/
def Passed (label w : List Char) : Prop := ∀ t, behind? label (w ++ t) = behind? label t

theorem Passed.append (hs : Passed label s) (ht : Passed label t) : Passed label (s ++ t) := fun u => by
  rw [List.append_assoc, hs, ht]

theorem passed_of_suffixes (h : ∀ u, u <:+ w → u ≠ [] → ¬ u <+: label ∧ ¬ label <+: u) : Passed label w := by
  intro t
  induction w with
  | nil => rfl
  | cons c w ih =>
    have hnone : after? label (c :: (w ++ t)) = none := by
      by_contra hsome
      obtain ⟨rest, hrest⟩ := Option.ne_none_iff_exists'.1 hsome
      have hlabel : label <+: c :: w ++ t := ⟨rest, (after?_eq_some_iff.1 hrest).symm⟩
      have hwhole := h (c :: w) (List.suffix_refl _) (List.cons_ne_nil c w)
      exact (List.prefix_or_prefix_of_prefix hlabel (List.prefix_append _ _)).elim hwhole.2 hwhole.1
    rw [List.cons_append, behind?, hnone]
    exact ih fun u hu => h u (hu.trans (List.suffix_cons c w))

instance decidableSuffixes : Decidable (∀ u, u <:+ w → u ≠ [] → ¬ u <+: label ∧ ¬ label <+: u) :=
  decidable_of_iff (∀ u ∈ w.tails, u ≠ [] → ¬ u <+: label ∧ ¬ label <+: u) (by simp only [List.mem_tails])

theorem passed_of_lacking {c d : Char} (hc : c ∈ label) (hd : d ∉ label) (hw : c ∉ w) (hne : c ≠ d) :
    Passed label (w ++ [d]) := by
  refine passed_of_suffixes fun u hu hempty => ⟨fun hpart => ?_, fun hwhole => ?_⟩
  · have hlast : d ∈ u := by
      obtain ⟨front, hfront⟩ := hu
      have hends := congrArg List.getLast? hfront
      rw [List.getLast?_append_of_ne_nil front hempty, List.getLast?_concat] at hends
      exact List.mem_of_getLast? hends
    exact hd (hpart.subset hlast)
  · have hmem := hu.subset (hwhole.subset hc)
    rw [List.mem_append, List.mem_singleton] at hmem
    exact hmem.elim hw hne

theorem behind?_label {label : List Char} (hne : label ≠ []) (t : List Char) : behind? label (label ++ t) = some t := by
  obtain ⟨c, r, rfl⟩ := List.exists_cons_of_ne_nil hne
  rw [List.cons_append, behind?, ← List.cons_append, after?_eq_some_iff.2 rfl]

end Labels

section Lines

variable {s : List Char}

/-- Lines with `n` spaces in front of all but the first. -/
theorem exists_linesFrom (n : Nat) (line : List Char) (hr : '\r' ∉ s)
    (hlast : ∀ c ∈ s.getLast?, isLineBreak c = false) (hne : line ≠ [] ∨ s ≠ []) :
    ∃ w ws, linesFrom line s = w :: ws ∧
      w ++ ws.flatMap (fun l => '\n' :: (List.replicate n ' ' ++ l)) = line.reverse ++ Json.reflow n s := by
  -- The line that is being read stands in `line` from its end on. A line break is never the last character, so that no
  -- line is missing behind it.
  fun_induction linesFrom line s with
  | case1 line hempty => exact absurd (List.isEmpty_iff.1 hempty) (hne.resolve_right fun h => h rfl)
  | case2 line hempty => exact ⟨_, _, rfl, rfl⟩
  | case3 line r ih => exact absurd List.mem_cons_self hr
  | case4 line c r _ hc ih =>
    rw [List.mem_cons, not_or] at hr
    cases r with
    | nil =>
      exact absurd hc (Bool.eq_false_iff.1 (hlast c rfl))
    | cons d r =>
      obtain ⟨w, ws, hlines, hjoined⟩ := ih hr.2 hlast (.inr (List.cons_ne_nil d r))
      refine ⟨line.reverse, _, rfl, ?_⟩
      rw [hlines, List.flatMap_cons, Json.reflow_cons_break hc, List.cons_append, List.append_assoc, hjoined]
      rfl
  | case5 line c r _ hc ih =>
    rw [List.mem_cons, not_or] at hr
    have hrest : ∀ d ∈ r.getLast?, isLineBreak d = false := by
      cases r with
      | nil =>
        rintro d ⟨⟩
      | cons d r => exact hlast
    obtain ⟨w, ws, hlines, hjoined⟩ := ih hr.2 hrest (.inl (List.cons_ne_nil c line))
    refine ⟨w, ws, hlines, ?_⟩
    rw [hjoined, Json.reflow_cons_of_not (Bool.eq_false_iff.2 hc), List.reverse_cons, List.append_assoc]
    rfl

theorem toList_unlines_cons (l : String) (ls : List String) :
    (unlines (l :: ls)).toList = l.toList ++ ls.flatMap fun m => '\n' :: m.toList := by
  induction ls generalizing l with
  | nil => rw [unlines, String.intercalate_singleton, List.flatMap_nil, List.append_nil]
  | cons m ls ih =>
    unfold unlines at ih ⊢
    rw [String.intercalate_cons_cons, String.toList_append, String.toList_append, ih, List.flatMap_cons,
      List.append_assoc]
    rfl

theorem toList_hang (n : Nat) {s : String} {c : Char} (hr : '\r' ∉ s.toList) (hlast : s.toList.getLast? = some c)
    (hc : isLineBreak c = false) : (hang n s).toList = Json.reflow n s.toList := by
  have hend : ∀ d ∈ s.toList.getLast?, isLineBreak d = false := by
    rw [hlast]
    rintro d ⟨⟩
    exact hc
  have hne : s.toList ≠ [] := by
    intro hempty
    rw [hempty] at hlast
    cases hlast
  obtain ⟨w, ws, hlines, hjoined⟩ := exists_linesFrom n [] hr hend (.inr hne)
  rw [List.reverse_nil, List.nil_append] at hjoined
  unfold hang lines
  rw [hlines, List.map_cons]
  dsimp only
  rw [toList_unlines_cons, List.map_map, List.flatMap_map, String.toList_ofList, ← hjoined]
  refine congrArg (w ++ ·) (List.flatMap_congr fun l _ => ?_)
  rw [Function.comp_apply, String.toList_append, spaces, String.toList_ofList, String.toList_ofList]

end Lines

section Columns

variable {f : Field} {c : PageColumn} {columns : List PageColumn}

theorem ColumnType.isWhole_width (t : ColumnType) : Json.IsWhole (toString t.width) := by
  cases t <;> exact ⟨by decide, List.all_eq_true.1 rfl, by decide⟩

theorem PageColumn.plain (c : PageColumn) : Json.Plain c.value := by
  refine .object (by simp) ?_
  simp only [List.forall_mem_cons]
  exact ⟨.string _, .string _, .string _, .number c.type.isWhole_width, List.forall_mem_nil _⟩

theorem PageColumn.broken_iff (c : PageColumn) : Json.Broken c.value ↔ Json.Breaks c.field ∨ Json.Breaks c.title := by
  have hkeys : ¬ Json.Breaks "field" ∧ ¬ Json.Breaks "type" ∧ ¬ Json.Breaks "title" ∧ ¬ Json.Breaks "width" := by decide
  have htype : ¬ Json.Breaks c.type.label := by cases c.type <;> decide
  have hwidth (text : String) : ¬ Json.Broken (.number text) := nofun
  rw [value, Json.broken_object_iff]
  simp [Json.broken_string_iff, hkeys, htype, hwidth]

theorem plain_columns (columns : List PageColumn) : Json.Plain (.array (columns.map PageColumn.value)) :=
  .array fun v hv => by
    obtain ⟨c, -, rfl⟩ := List.mem_map.1 hv
    exact c.plain

theorem toList_hang_columns (columns : List PageColumn) :
    (hang 6 (columnsText columns)).toList = Json.hung 6 0 (.array (columns.map PageColumn.value)) := by
  refine toList_hang 6 ((plain_columns columns).cr_not_mem_write 0) (c := ']') ?_ (by decide)
  rw [columnsText, Json.Value.write]
  exact Json.getLast?_bracketed _

end Columns

section Page

variable {e : Entity} {columns : List PageColumn}

/-- The lines of a page before its name. -/
def pageHead : List String :=
  ["<template>", "  <crud-page :url=\"url\" :columns=\"columns\"/>", "</template>", "", "<script>",
    "export default \x7b"]

/-- The lines behind the name, up to the indented label of the address. -/
def pageData : List String := ["", "  data() \x7b", "    return \x7b", "      "]

/-- A page up to the label of its address. -/
def pageFront (base : String) : String :=
  unlines pageHead ++ "\n" ++ "  name: \"" ++ base ++ "Page\"," ++ unlines pageData

/-- What closes a page behind the literal of its columns. -/
def pageEnd : String := "\n    \x7d\n  \x7d\n\x7d\n</script>\n"

theorem pageText_eq (base url : String) (columns : List PageColumn) : pageText base url columns =
    pageFront base ++ "url: " ++ Json.stringText .ascii url ++ ",\n      " ++ "columns: " ++
      hang 6 (columnsText columns) ++ pageEnd := by
  have hurl (rest : String) : "      " ++ ("url: " ++ rest) = "      url: " ++ rest := by
    rw [← String.append_assoc]
    rfl
  have hcolumns (rest : String) :
      ",\n      " ++ ("columns: " ++ rest) = "," ++ ("\n" ++ ("      columns: " ++ rest)) := by
    have hline : ",\n      " ++ "columns: " = "," ++ ("\n" ++ "      columns: ") := by decide
    rw [← String.append_assoc, hline]
    simp only [String.append_assoc]
  have hend : pageEnd =
      "\n" ++ ("    \x7d" ++ ("\n" ++ ("  \x7d" ++ ("\n" ++ ("\x7d" ++ ("\n" ++ ("</script>" ++ "\n"))))))) := by
    decide
  unfold pageText pageFront pageHead pageData unlines
  simp only [String.intercalate_cons_cons, String.intercalate_singleton]
  rw [hend]
  simp only [String.append_assoc, String.empty_append, hurl, hcolumns]

theorem passed_pageFront {base : String} (h : ':' ∉ base.toList) : Passed "url: ".toList (pageFront base).toList := by
  -- Only the name is not fixed, and a label in it or across its ends would need a colon.
  have hhead : Passed "url: ".toList (unlines pageHead ++ "\n" ++ "  name: \"").toList :=
    passed_of_suffixes (by decide +kernel)
  have hname : Passed "url: ".toList (base.toList ++ "Page\"".toList ++ [',']) :=
    passed_of_lacking (c := ':') (by decide) (by decide) (by simp [h]) (by decide)
  have hdata : Passed "url: ".toList (unlines pageData).toList := passed_of_suffixes (by decide +kernel)
  have hcomma : "Page\",".toList = "Page\"".toList ++ [','] := by decide
  have hwhole := (hhead.append hname).append hdata
  unfold pageFront
  rw [String.toList_append, String.toList_append, String.toList_append, hcomma]
  simpa only [List.append_assoc] using hwhole

theorem readBehind?_label {label : String} {front : List Char} (hne : label.toList ≠ [])
    (h : Passed label.toList front) (t : List Char) :
    readBehind? label (front ++ (label.toList ++ t)) = (Json.readValue (2 * t.length + 2) t).toOption := by
  rw [readBehind?, h, behind?_label hne]
  rfl

/-- What follows the address of a page. -/
def behindUrl (columns : List PageColumn) : List Char :=
  ",\n      ".toList ++ ("columns: ".toList ++
    (Json.hung 6 0 (.array (columns.map PageColumn.value)) ++ pageEnd.toList))

theorem readBehind?_url {base : String} (h : ':' ∉ base.toList) (url : String) (columns : List PageColumn) :
    readBehind? "url: " (pageText base url columns).toList = some (.string url, behindUrl columns) := by
  rw [pageText_eq]
  simp only [String.toList_append, List.append_assoc]
  rw [readBehind?_label (by decide) (passed_pageFront h), Json.readValue_stringText, toList_hang_columns]
  rfl

/-- A column with a title, or a name, that does not stand on one line. -/
def PageColumn.Torn (c : PageColumn) : Prop := Json.Breaks c.field ∨ Json.Breaks c.title

theorem comes_columns (columns : List PageColumn) : ∃ r : Except Json.Fault (Json.Value × List Char),
    readBehind? "columns: " (behindUrl columns) = r.toOption ∧
      Json.Comes (.array (columns.map PageColumn.value)) pageEnd.toList r := by
  have hpassed : Passed "columns: ".toList ",\n      ".toList := passed_of_suffixes (by decide)
  have hends : Json.Follows pageEnd.toList := by
    have hhead : pageEnd.toList.head? = some '\n' := by decide
    rw [Json.Follows, hhead]
    rintro c ⟨⟩
    decide
  refine ⟨_, readBehind?_label (by decide) hpassed _, (plain_columns columns).shows 6 0 _ _ ?_ hends⟩
  rw [List.length_append]
  omega

theorem broken_columns_iff : Json.Broken (.array (columns.map PageColumn.value)) ↔ ∃ c ∈ columns, c.Torn := by
  rw [Json.broken_array_iff]
  constructor
  · rintro ⟨v, hv, hbroken⟩
    obtain ⟨c, hc, rfl⟩ := List.mem_map.1 hv
    exact ⟨c, hc, c.broken_iff.1 hbroken⟩
  · rintro ⟨c, hc, htorn⟩
    exact ⟨c.value, List.mem_map_of_mem hc, c.broken_iff.2 htorn⟩

theorem readBehind?_columns (h : ∀ c ∈ columns, ¬ c.Torn) :
    readBehind? "columns: " (behindUrl columns) = some (.array (columns.map PageColumn.value), pageEnd.toList) := by
  obtain ⟨r, hread, hcomes⟩ := comes_columns columns
  have hsound : ¬ Json.Broken (.array (columns.map PageColumn.value)) := fun hbroken =>
    (broken_columns_iff.1 hbroken).elim fun c hc => h c hc.1 hc.2
  rw [hread, hcomes.1 hsound]
  rfl

theorem readBehind?_columns_torn (h : ∃ c ∈ columns, c.Torn) :
    readBehind? "columns: " (behindUrl columns) = none := by
  obtain ⟨r, hread, hcomes⟩ := comes_columns columns
  obtain ⟨f, hf⟩ := hcomes.2 (broken_columns_iff.2 h)
  rw [hread, hf]
  rfl

theorem colon_not_mem_baseName (h : Java.IsIdentifier e.name) : ':' ∉ e.baseName.toList := by
  intro hmem
  have hcolon := h.chars ':' (Name.mem_of_mem_base hmem)
  exact absurd hcolon (by decide)

/-- Address and columns of a page are read back where they stand. The columns are so if no name and no title has one of
the line breaks that are not escaped, and with such a line break nothing is read. -/
theorem page_literals_read_back (h : Java.IsIdentifier e.name) (fields : List Field) (url : String) :
    ∃ rest, readBehind? "url: " (pageTemplate e fields url).content.toList = some (.string url, rest) ∧
      ((∀ f ∈ fields, ¬ Json.Breaks f.name ∧ ¬ Json.Breaks f.title) → readBehind? "columns: " rest =
        some (.array (fields.map fun f => (PageColumn.ofField f).value),
          "\n    \x7d\n  \x7d\n\x7d\n</script>\n".toList)) ∧
      ((∃ f ∈ fields, Json.Breaks f.name ∨ Json.Breaks f.title) → readBehind? "columns: " rest = none) := by
  refine ⟨_, readBehind?_url (colon_not_mem_baseName h) url _, fun hsound => ?_, fun ⟨f, hf, htorn⟩ => ?_⟩
  · rw [readBehind?_columns, List.map_map]
    · rfl
    · intro c hc
      obtain ⟨f, hf, rfl⟩ := List.mem_map.1 hc
      exact not_or.2 (hsound f hf)
  · exact readBehind?_columns_torn ⟨PageColumn.ofField f, List.mem_map_of_mem hf, htorn⟩

def itemEntity : Entity where
  name := "Item"
  package := "shop"

theorem isIdentifier_item : Java.IsIdentifier itemEntity.name := ⟨by decide, List.all_eq_true.1 rfl⟩

/-- A field with a line feed, a quote and a character beyond the first plane in its title. -/
def labelField : Field where
  name := "label"
  typeName := "String"
  columnDefinition := some "varchar(8) comment 'a\n\"😀'"

theorem page_literals_read_back_item : ∃ rest,
    readBehind? "url: " (pageTemplate itemEntity [labelField] "/api/é").content.toList = some (.string "/api/é", rest) ∧
    readBehind? "columns: " rest = some (.array [(PageColumn.ofField labelField).value],
      "\n    \x7d\n  \x7d\n\x7d\n</script>\n".toList) := by
  obtain ⟨rest, hurl, hcolumns, -⟩ := page_literals_read_back isIdentifier_item [labelField] "/api/é"
  exact ⟨rest, hurl, hcolumns (by decide)⟩

/-- A field with a line separator in its title. -/
def noteField : Field where
  name := "note"
  typeName := "String"
  columnDefinition := some "varchar(8) comment 'a\u2028b'"

theorem page_columns_unreadable : noteField.title = "a\u2028b" ∧ ∃ rest,
    readBehind? "url: " (pageTemplate itemEntity [noteField] "/api/item").content.toList =
      some (.string "/api/item", rest) ∧
    readBehind? "columns: " rest = none := by
  have htitle : noteField.title = "a\u2028b" := by decide
  refine ⟨htitle, _, readBehind?_url (colon_not_mem_baseName isIdentifier_item) "/api/item" _, ?_⟩
  refine readBehind?_columns_torn ⟨_, List.mem_singleton_self _, .inr ?_⟩
  change Json.Breaks noteField.title
  rw [htitle]
  decide

end Page

end Scaffold.Artifact
