import Scaffold.Proofs.Java.Identifiers
import Scaffold.Source.Members

/-! The name of a type, read off its text. Whatever arguments and dimensions the text has, what remains without them is
the name of the last segment, by which imports and enums are looked up. -/

namespace Scaffold

open Scaffold.Text
open Scaffold.Java

namespace Entity

variable {word rest : List Char} {name text : String}

theorem dropDimensions_cons {c : Char} (hc : c ≠ '[') (rest : List Char) :
    dropDimensions (c :: rest) = c :: dropDimensions rest := by
  rw [dropDimensions]
  exact fun _ heq _ => hc heq

theorem dropDimensions_append (h : '[' ∉ word) (rest : List Char) :
    dropDimensions (word ++ rest) = word ++ dropDimensions rest := by
  induction word with
  | nil => rfl
  | cons c word ih =>
    have hc : c ≠ '[' := fun heq => h (heq ▸ List.mem_cons_self)
    have hword : '[' ∉ word := fun hmem => h (List.mem_cons_of_mem c hmem)
    rw [List.cons_append, dropDimensions_cons hc, ih hword, List.cons_append]

theorem dropDimensions_dimensionText (n : Nat) : dropDimensions (dimensionText n).toList = [] := by
  unfold dimensionText
  rw [String.toList_ofList]
  induction n with
  | zero => rfl
  | succ n ih =>
    rw [List.replicate_succ, List.flatten_cons]
    exact ih

theorem not_blank_dimensionText (n : Nat) : ∀ c ∈ (dimensionText n).toList, isBlank c = false := by
  intro c hc
  unfold dimensionText at hc
  rw [String.toList_ofList, List.mem_flatten] at hc
  obtain ⟨pair, hpair, hmem⟩ := hc
  rw [(List.mem_replicate.1 hpair).2] at hmem
  have hbrackets : ∀ d ∈ ['[', ']'], isBlank d = false :=
    List.forall_mem_cons.2 ⟨by decide, List.forall_mem_singleton.2 (by decide)⟩
  exact hbrackets c hmem

theorem trimChars_append (hne : word ≠ []) (h : ∀ c ∈ word, isBlank c = false) (rest : List Char) :
    trimChars (word ++ rest) = word ++ dropBlanksRight rest := by
  obtain ⟨c, cs, rfl⟩ := List.exists_cons_of_ne_nil hne
  have hfront : dropBlanks (c :: cs ++ rest) = c :: cs ++ rest := dropBlanks_cons_of_not _ (h c List.mem_cons_self)
  rw [trimChars, hfront, dropBlanksRight_append h]

theorem rawOf_of_arguments (h : IsIdentifier name) {rest : List Char} (ht : text.toList = name.toList ++ '<' :: rest) :
    rawOf text = name := by
  have hopen : '<' ∉ name.toList := h.not_mem (by decide)
  have hword : ∀ c ∈ name.toList, (c != '<') = true := fun c hc => bne_iff_ne.2 fun heq => hopen (heq ▸ hc)
  have hchars : dropDimensions (trimChars text.toList) =
      name.toList ++ '<' :: dropDimensions (dropBlanksRight rest) := by
    rw [ht, trimChars_append h.toList_ne_nil h.not_blank, dropBlanksRight_cons (by decide),
      dropDimensions_append (h.not_mem (by decide)), dropDimensions_cons (by decide)]
  have hfront : (name.toList ++ '<' :: dropDimensions (dropBlanksRight rest)).takeWhile (· != '<') = name.toList := by
    rw [List.takeWhile_append_of_pos hword, List.takeWhile_cons_of_neg (by decide), List.append_nil]
  unfold rawOf
  dsimp only
  rw [hchars, if_pos (by simp), hfront]
  exact trim_of_not_blank h.not_blank

theorem rawOf_of_dimensions (h : IsIdentifier name) {n : Nat} (ht : text = name ++ dimensionText n) :
    rawOf text = name := by
  have hend : dropBlanksRight (dimensionText n).toList = (dimensionText n).toList := by
    have hkept := dropBlanksRight_append (not_blank_dimensionText n) []
    rwa [List.append_nil, show dropBlanksRight [] = [] from rfl, List.append_nil] at hkept
  have hchars : dropDimensions (trimChars text.toList) = name.toList := by
    rw [ht, String.toList_append, trimChars_append h.toList_ne_nil h.not_blank, hend,
      dropDimensions_append (h.not_mem (by decide)), dropDimensions_dimensionText, List.append_nil]
  have hopen : ¬ name.toList.contains '<' = true := by
    rw [List.contains_iff_mem]
    exact h.not_mem (by decide)
  unfold rawOf
  dsimp only
  rw [hchars, if_neg hopen, String.ofList_toList]

end Entity

namespace Java

/-- The arguments of the last segment. -/
def TypePath.lastArguments : TypePath → TypeArguments
  | last _ arguments => arguments
  | dot _ _ rest => rest.lastArguments

theorem TypePath.text_eq (p : TypePath) : p.text = withArguments p.lastName p.lastArguments.texts :=
  match p with
  | .last _ _ => rfl
  | .dot _ _ rest => rest.text_eq

/-- The text of a type begins with the name of its last segment, and its arguments or dimensions follow at once. -/
theorem rawOf_text {t : TypeRef} (h : IsIdentifier t.path.lastName) : Entity.rawOf t.text = t.path.lastName := by
  have htext : t.text = withArguments t.path.lastName t.path.lastArguments.texts ++ dimensionText t.dimensions := by
    rw [TypeRef.text, TypePath.text_eq]
  cases harguments : t.path.lastArguments.texts with
  | nil =>
    rw [harguments] at htext
    exact Entity.rawOf_of_dimensions h htext
  | cons first others =>
    have hchars : t.text.toList = t.path.lastName.toList ++
        '<' :: (", ".intercalate (first :: others) ++ ">" ++ dimensionText t.dimensions).toList := by
      rw [htext, harguments, withArguments]
      · simp [String.toList_append, List.append_assoc]
      · exact List.cons_ne_nil first others
    exact Entity.rawOf_of_arguments h hchars

end Java

namespace Source

open Scaffold.Entity (Field)

section Lookup

variable (s : Scope) (owner : DeclHead) (lookup : Lookup)

theorem isEnum_fieldType (t : TypeRef) : (fieldType s owner lookup t).isEnum =
    (owner.enums.contains t.path.lastName ||
      (lookup ((t.path.qualified?.or (s.imported? t.path.lastName)).getD t.path.lastName)).any (·.isEnum)) := by
  unfold fieldType
  dsimp only
  cases owner.enums.contains t.path.lastName with
  | true => rfl
  | false =>
    rw [if_neg Bool.false_ne_true, Bool.false_or]
    cases lookup ((t.path.qualified?.or (s.imported? t.path.lastName)).getD t.path.lastName) <;> rfl

theorem qualified_fieldType (t : TypeRef) : (fieldType s owner lookup t).qualified =
    (t.path.qualified?.or (s.imported? t.path.lastName)).or
      (if owner.enums.contains t.path.lastName then
        some (qualify s.package owner.name ++ "." ++ t.path.lastName)
      else
        (lookup ((t.path.qualified?.or (s.imported? t.path.lastName)).getD t.path.lastName)).map
          (·.qualifiedName)) := by
  unfold fieldType
  dsimp only
  cases owner.enums.contains t.path.lastName with
  | true => rfl
  | false =>
    rw [if_neg Bool.false_ne_true, if_neg Bool.false_ne_true]
    cases lookup ((t.path.qualified?.or (s.imported? t.path.lastName)).getD t.path.lastName) with
    | some h => rfl
    | none => rw [Option.map_none, Option.or_none]

end Lookup

/-- The raw type of a field is the name of the last segment of its type, if that is an identifier, with whatever
qualifiers, arguments, wildcards and dimensions the type is written. In a declared field it is the name under which
imports, the enums of the declaration and other classes are looked up. -/
theorem raw_type_is_last_name {t : TypeRef} (h : IsIdentifier t.path.lastName) :
    (∀ f : Field, f.typeName = t.text → f.rawType = t.path.lastName) ∧
      ∀ (s : Scope) (owner : DeclHead) (lookup : Lookup) (d : FieldDecl), d.type = t →
        ∀ f ∈ declaredFields s owner lookup d,
          let known := t.path.qualified?.or (s.imported? f.rawType)
          f.typeName = t.text ∧ f.rawType = t.path.lastName ∧
            f.isEnum = (owner.enums.contains f.rawType || (lookup (known.getD f.rawType)).any (·.isEnum)) ∧
            f.qualifiedType = known.or
              (if owner.enums.contains f.rawType then some (qualify s.package owner.name ++ "." ++ f.rawType)
              else (lookup (known.getD f.rawType)).map (·.qualifiedName)) := by
  have hraw : ∀ f : Field, f.typeName = t.text → f.rawType = t.path.lastName := by
    intro f hf
    rw [Field.rawType, hf]
    exact rawOf_text h
  refine ⟨hraw, fun s owner lookup d hd f hf => ?_⟩
  subst hd
  unfold declaredFields at hf
  obtain ⟨name, -, rfl⟩ := List.mem_map.1 hf
  refine ⟨rfl, hraw _ rfl, ?_, ?_⟩
  · rw [hraw _ rfl]
    exact isEnum_fieldType s owner lookup d.type
  · rw [hraw _ rfl]
    exact qualified_fieldType s owner lookup d.type

section Sample

/-- As in `util.Map<?, List<int[]>[]>[][]`. -/
def nestedType : TypeRef where
  path := .dot "util" .none
    (.last "Map" (.wildcard (.type (.last "List" (.type (.last "int" .none) 1 .none)) 1 .none)))
  dimensions := 2

theorem raw_type_is_last_name_nested : IsIdentifier nestedType.path.lastName ∧
    nestedType.text = "Map<?, List<int[]>[]>[][]" ∧
      (declaredFields ⟨"shop", []⟩ { kind := .plain, name := "Item" } (fun _ => none)
        { isStatic := false, annots := [], type := nestedType, names := ["parts"] }).map
        (fun f => (f.rawType, f.qualifiedType)) = [("Map", some "util.Map")] := by
  have hname : IsIdentifier nestedType.path.lastName := ⟨by decide, List.all_eq_true.1 rfl⟩
  obtain ⟨hraw, hfields⟩ := raw_type_is_last_name hname
  refine ⟨hname, by decide +kernel, ?_⟩
  have hfield := hfields ⟨"shop", []⟩ { kind := .plain, name := "Item" } (fun _ => none)
    { isStatic := false, annots := [], type := nestedType, names := ["parts"] } rfl _ List.mem_cons_self
  obtain ⟨-, hlast, -, hqualified⟩ := hfield
  rw [declaredFields, List.map_singleton, List.map_singleton, hqualified, hlast]
  decide +kernel

end Sample

end Source

end Scaffold
