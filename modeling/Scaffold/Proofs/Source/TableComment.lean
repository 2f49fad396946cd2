import Scaffold.Source.Entity

/-! The table and the comment of an entity. Where every annotation that tells of them occurs once at most, what they say
does not depend on the order of the annotations. -/

namespace Scaffold.Java

deriving instance DecidableEq for Value, Element, Annot

end Scaffold.Java

namespace Scaffold.Source

open Scaffold.Text
open Scaffold.Java

section Single

variable {α β : Type} {p q : α → Bool} {l : List α} {f : α → Option β} {b : β}

theorem filter_of_countP_le_one (h : l.countP p ≤ 1) : l.filter p = [] ∨ ∃ a, l.filter p = [a] := by
  rw [List.countP_eq_length_filter] at h
  match hl : l.filter p with
  | [] => exact .inl rfl
  | [a] => exact .inr ⟨a, rfl⟩
  | a :: b :: r =>
    rw [hl] at h
    exact absurd h (by simp)

/-- Where one element at most is looked for, the first one found says what any of them says. -/
theorem find?_bind_eq_some_iff (h : l.countP p ≤ 1) :
    (l.find? p).bind f = some b ↔ ∃ a ∈ l, p a = true ∧ f a = some b := by
  simp only [← and_assoc, ← List.mem_filter]
  rw [← List.head?_filter]
  rcases filter_of_countP_le_one h with hnone | ⟨a, hone⟩
  · simp [hnone]
  · simp [hone]

theorem getLast?_filterMap_eq_some_iff (h : l.countP p ≤ 1) :
    ((l.filter p).filterMap f).getLast? = some b ↔ ∃ a ∈ l, p a = true ∧ f a = some b := by
  simp only [← and_assoc, ← List.mem_filter]
  rcases filter_of_countP_le_one h with hnone | ⟨a, hone⟩
  · simp [hnone]
  · cases hf : f a <;> simp [hone, hf]

/-- Where one element at most meets `p`, to leave out the first of them is to leave out all. -/
theorem filter_zipIdx (h : l.countP p ≤ 1) (n : Nat) :
    ((l.zipIdx n).filter fun x => q x.1 && some x.2 != (l.findIdx? p).map (· + n)).map (·.1) =
      l.filter fun a => q a && !p a := by
  induction l generalizing n with
  | nil => rfl
  | cons a l ih =>
    rw [List.zipIdx_cons, List.findIdx?_cons, List.filter_cons, List.filter_cons]
    rw [List.countP_cons] at h
    by_cases hp : p a = true
    · -- The first one is left out, and there is no other one behind it.
      rw [if_pos hp] at h
      have hnone : l.findIdx? p = none := by
        rw [List.findIdx?_eq_none_iff]
        intro x hx
        exact Bool.eq_false_iff.2 (List.countP_eq_zero.1 (by omega) x hx)
      have hrest := ih (by omega) (n + 1)
      rw [hnone] at hrest
      have hbehind : (l.zipIdx (n + 1)).filter (fun x => q x.1 && some x.2 != some n) =
          (l.zipIdx (n + 1)).filter fun x => q x.1 && some x.2 != none := by
        refine List.filter_congr fun x hx => ?_
        have hle := List.le_snd_of_mem_zipIdx hx
        have hne : (some x.2 != some n) = true := by
          rw [bne_iff_ne]
          exact fun heq => absurd (Option.some.inj heq) (by omega)
        rw [hne]
        rfl
      simp only [hp, if_true, Option.map_some, Nat.zero_add, bne_self_eq_false, Bool.and_false, Bool.not_true,
        Bool.false_eq_true, if_false, hbehind]
      exact hrest
    · -- Another one comes first, and the place of the one that is left out moves along.
      have hshift : ((l.findIdx? p).map (· + 1)).map (· + n) = (l.findIdx? p).map (· + (n + 1)) := by
        rw [Option.map_map]
        exact congrArg (Option.map · _) (funext fun i => by simp only [Function.comp]; omega)
      have hne : (some n != (l.findIdx? p).map (· + (n + 1))) = true := by
        rw [bne_iff_ne]
        intro heq
        obtain ⟨i, -, hi⟩ := Option.map_eq_some_iff.1 heq.symm
        omega
      have hrest := ih (by simpa [hp] using h) (n + 1)
      simp only [hp, if_false, Bool.false_eq_true, hshift, hne, Bool.and_true, Bool.not_false]
      split
      · rw [List.map_cons, hrest]
      · exact hrest

end Single

/-- The annotations of the class that is read from a source. -/
def classAnnots? (source : String) : Option (List Annot) :=
  match SourceUnit.read source with
  | .ok u => ((u.types.map Decl.head).find? (·.kind == .plain)).map (·.annots)
  | .error _ => none

/-- Each annotation that can tell of the table or the comment occurs once at most. -/
structure Unrepeated (as : List Annot) : Prop where
  commentTable : as.countP (·.name == commentTable) ≤ 1
  table : as.countP (fun a => a.simpleName == "Table" && !(a.name == Source.commentTable)) ≤ 1
  comment : as.countP (·.simpleName == "Comment") ≤ 1

/-- One of the annotations that are called so has the text for a key. -/
def Says (as : List Annot) (called : Annot → Prop) (key text : String) : Prop :=
  ∃ a ∈ as, called a ∧ a.value? key = some text

section Reading

variable {source source' : String} {lookup lookup' : Lookup} {as as' : List Annot} {name text : String}

theorem tableAnnots_eq (h : as.countP (·.name == commentTable) ≤ 1) :
    tableAnnots as = as.filter fun a => a.simpleName == "Table" && !(a.name == commentTable) := by
  have hfilter := filter_zipIdx (q := fun a : Annot => a.simpleName == "Table") h 0
  simp only [Nat.add_zero, Option.map_id'] at hfilter
  exact hfilter

theorem tableName?_eq_some_iff (h : Unrepeated as) :
    tableName? as = some name ↔ Says as (fun a => a.simpleName = "Table" ∧ a.name ≠ commentTable) "name" name := by
  rw [tableName?, tableAnnots_eq h.commentTable, getLast?_filterMap_eq_some_iff h.table]
  simp [Says]

/-- The comment of the table annotation for comments comes first, then the two of a comment annotation. -/
theorem tableComment?_eq_some_iff (h : Unrepeated as) : tableComment? as = some text ↔
    Says as (·.name = commentTable) "comment" text ∨ (∀ t, ¬Says as (·.name = commentTable) "comment" t) ∧
      (Says as (·.simpleName = "Comment") "value" text ∨ (∀ t, ¬Says as (·.simpleName = "Comment") "value" t) ∧
        Says as (·.simpleName = "Comment") "entityName" text) := by
  have hsays {key t : String} {p : Annot → Bool} {called : Annot → Prop} (hp : as.countP p ≤ 1)
      (hcalled : ∀ a, p a = true ↔ called a) : (as.find? p).bind (·.value? key) = some t ↔ Says as called key t := by
    rw [find?_bind_eq_some_iff hp]
    exact exists_congr fun a => and_congr_right fun _ => and_congr_left fun _ => hcalled a
  have hhibernate {t : String} : (as.find? (·.name == commentTable)).bind (·.value? "comment") = some t ↔
      Says as (·.name = commentTable) "comment" t :=
    hsays h.commentTable fun _ => beq_iff_eq
  have hcomment {key t : String} : (as.find? (·.simpleName == "Comment")).bind (·.value? key) = some t ↔
      Says as (·.simpleName = "Comment") key t :=
    hsays h.comment fun _ => beq_iff_eq
  have hboth : ((annotNamed? "Comment" as).bind fun a => (a.value? "value").or (a.value? "entityName")) =
      ((as.find? (·.simpleName == "Comment")).bind (·.value? "value")).or
        ((as.find? (·.simpleName == "Comment")).bind (·.value? "entityName")) := by
    unfold annotNamed?
    cases as.find? (·.simpleName == "Comment") <;> rfl
  rw [tableComment?, hboth, Option.or_eq_some_iff, Option.or_eq_some_iff, Option.eq_none_iff_forall_ne_some,
    Option.eq_none_iff_forall_ne_some]
  simp only [ne_eq, hhibernate, hcomment]

theorem Unrepeated.perm (h : Unrepeated as) (hperm : as'.Perm as) : Unrepeated as' where
  commentTable := (hperm.countP_eq _).symm ▸ h.commentTable
  table := (hperm.countP_eq _).symm ▸ h.table
  comment := (hperm.countP_eq _).symm ▸ h.comment

theorem says_perm (hperm : as'.Perm as) {called : Annot → Prop} {key : String} :
    Says as' called key text ↔ Says as called key text :=
  exists_congr fun _ => and_congr_left fun _ => hperm.mem_iff

theorem entity_of_classAnnots (h : classAnnots? source = some as) (lookup : Lookup) :
    ∃ e, entity source lookup = .ok e ∧ e.comment = tableComment? as ∧
      e.table = (tableName? as).map fun name => { name, comment := tableComment? as } := by
  unfold classAnnots? at h
  unfold entity
  cases hread : SourceUnit.read source with
  | error f =>
    rw [hread] at h
    exact nomatch h
  | ok u =>
    rw [hread] at h
    obtain ⟨d, hd, rfl⟩ := Option.map_eq_some_iff.1 h
    dsimp only
    rw [hd]
    exact ⟨_, rfl, rfl, rfl⟩

/-- Sources whose classes have the same annotations in any order have the same table and the same comment. The table is
the one that an annotation other than that for comments names. The comment is that of this annotation, or else the value
of the comment annotation, or else its entity name, and it is the comment of the table, too. -/
theorem table_read_in_any_order (h : classAnnots? source = some as) (h' : classAnnots? source' = some as')
    (hperm : as'.Perm as) (hsingle : Unrepeated as) (lookup lookup' : Lookup) :
    ∃ e e', entity source lookup = .ok e ∧ entity source' lookup' = .ok e' ∧ e'.table = e.table ∧
      e'.comment = e.comment ∧ (∀ t ∈ e.table, t.comment = e.comment) ∧
      (∀ name, e.table.map (·.name) = some name ↔
        Says as (fun a => a.simpleName = "Table" ∧ a.name ≠ commentTable) "name" name) ∧
      ∀ text, e.comment = some text ↔
        Says as (·.name = commentTable) "comment" text ∨ (∀ t, ¬Says as (·.name = commentTable) "comment" t) ∧
          (Says as (·.simpleName = "Comment") "value" text ∨ (∀ t, ¬Says as (·.simpleName = "Comment") "value" t) ∧
            Says as (·.simpleName = "Comment") "entityName" text) := by
  obtain ⟨e, he, hcomment, htable⟩ := entity_of_classAnnots h lookup
  obtain ⟨e', he', hcomment', htable'⟩ := entity_of_classAnnots h' lookup'
  have hsingle' := hsingle.perm hperm
  have hsameComment : tableComment? as' = tableComment? as := by
    refine Option.ext fun text => ?_
    simp only [tableComment?_eq_some_iff hsingle', tableComment?_eq_some_iff hsingle, says_perm hperm]
  have hsameName : tableName? as' = tableName? as := by
    refine Option.ext fun name => ?_
    rw [tableName?_eq_some_iff hsingle', tableName?_eq_some_iff hsingle, says_perm hperm]
  refine ⟨e, e', he, he', ?_, ?_, ?_, fun name => ?_, fun text => ?_⟩
  · rw [htable', htable, hsameName, hsameComment]
  · rw [hcomment', hcomment, hsameComment]
  · intro t ht
    rw [htable] at ht
    obtain ⟨name, -, rfl⟩ := Option.map_eq_some_iff.1 ht
    exact hcomment.symm
  · rw [htable, Option.map_map, ← tableName?_eq_some_iff hsingle]
    simp [Function.comp_def]
  · rw [hcomment, tableComment?_eq_some_iff hsingle]

end Reading

section Sample

/-- The annotations of a class whose comment stands in two of them and whose table is named by a third one. -/
def itemAnnots : List Annot :=
  [⟨"Comment", some (.single (.literal "\"item\""))⟩, ⟨"Entity", none⟩,
   ⟨"org.hibernate.annotations.Table", some (.pairs [("comment", .literal "\"goods\"")])⟩,
   ⟨"Table", some (.pairs [("name", .literal "\"t_item\"")])⟩]

def itemSource : String :=
  "@Comment(\"item\") @Entity @org.hibernate.annotations.Table(comment = \"goods\") @Table(name = \"t_item\")
  class Item \x7b \x7d"

/-- The same class with its annotations from the last one to the first. -/
def reversedSource : String :=
  "@Table(name = \"t_item\") @org.hibernate.annotations.Table(comment = \"goods\") @Entity @Comment(\"item\")
  class Item \x7b \x7d"

theorem table_read_in_any_order_reversed :
    classAnnots? itemSource = some itemAnnots ∧ classAnnots? reversedSource = some itemAnnots.reverse ∧
    itemAnnots.reverse.Perm itemAnnots ∧ Unrepeated itemAnnots ∧
    ∃ e, entity reversedSource (fun _ => none) = .ok e ∧ e.comment = some "goods" ∧
      e.table.map (·.name) = some "t_item" ∧ ∀ t ∈ e.table, t.comment = some "goods" := by
  have hread : classAnnots? itemSource = some itemAnnots := by decide +kernel
  have hread' : classAnnots? reversedSource = some itemAnnots.reverse := by decide +kernel
  have hperm : itemAnnots.reverse.Perm itemAnnots := List.reverse_perm itemAnnots
  have hsingle : Unrepeated itemAnnots := ⟨by decide, by decide, by decide⟩
  obtain ⟨e, e', -, he', htable, hcomment, hsame, hname, htext⟩ :=
    table_read_in_any_order hread hread' hperm hsingle (fun _ => none) (fun _ => none)
  have hgoods : e.comment = some "goods" := (htext "goods").2 (.inl ⟨itemAnnots[2], by decide, rfl, by decide⟩)
  have hitem : e.table.map (·.name) = some "t_item" := (hname "t_item").2 ⟨itemAnnots[3], by decide, by decide, by decide⟩
  refine ⟨hread, hread', hperm, hsingle, e', he', hcomment.trans hgoods, ?_, fun t ht => ?_⟩
  · rw [htable, hitem]
  · rw [htable] at ht
    exact (hsame t ht).trans hgoods

end Sample

end Scaffold.Source
