import Mathlib.Data.List.TakeWhile
import Scaffold.Proofs.Artifact.Alignment

/-! Rows of a result map as elements of a document: which of them are read as the attributes that were written. A
value ends at the next double quote, and what stands in it is read behind its references to entities. -/

namespace Scaffold

namespace Xml

open Scaffold.Text

/-- A text with the predefined entities in place of the references to them. Bare ampersands and opening brackets are
refused. -/
def decode : List Char → Option (List Char)
  | [] => some []
  | '&' :: 'a' :: 'm' :: 'p' :: ';' :: r => (decode r).map ('&' :: ·)
  | '&' :: 'l' :: 't' :: ';' :: r => (decode r).map ('<' :: ·)
  | '&' :: 'g' :: 't' :: ';' :: r => (decode r).map ('>' :: ·)
  | '&' :: 'q' :: 'u' :: 'o' :: 't' :: ';' :: r => (decode r).map ('"' :: ·)
  | '&' :: 'a' :: 'p' :: 'o' :: 's' :: ';' :: r => (decode r).map ('\'' :: ·)
  | c :: r => if c = '&' ∨ c = '<' then none else (decode r).map (c :: ·)

/-- The value of an attribute, and what follows its closing quote. -/
def value? (s : List Char) : Option (List Char × List Char) :=
  match s.dropWhile (· != '"') with
  | [] => none
  | _ :: rest => (decode (s.takeWhile (· != '"'))).map (·, rest)

def isSpace (c : Char) : Bool := c == ' ' || c == '\t' || c == '\r' || c == '\n'

def isNameChar (c : Char) : Bool := isWord c || c == '-' || c == '.' || c == ':'

/-- The attribute that stands behind a blank, and what follows it. -/
def attribute? : List Char → Option ((String × String) × List Char)
  | [] => none
  | c :: s =>
    let t := s.dropWhile isSpace
    match t.takeWhile isNameChar, t.dropWhile isNameChar with
    | d :: name, '=' :: '"' :: r =>
      if isSpace c then
        (value? r).map fun (value, rest) => ((String.ofList (d :: name), String.ofList value), rest)
      else none
    | _, _ => none

/-- The attributes up to the end of an element without content. There are at most `n` of them. -/
def attributes? (n : Nat) (s : List Char) : Option (List (String × String)) :=
  if s.dropWhile isSpace = ['/', '>'] then some []
  else match n with
    | 0 => none
    | n + 1 => (attribute? s).bind fun (a, rest) => (attributes? n rest).map (a :: ·)

structure Element where
  name : String
  attributes : List (String × String)
  deriving DecidableEq

def Element.attribute? (x : Element) (name : String) : Option String := x.attributes.lookup name

/-- An element without content whose attributes have different names. -/
def read? (s : String) : Option Element :=
  match s.toList.dropWhile isSpace with
  | '<' :: r =>
    (attributes? s.length (r.dropWhile isNameChar)).bind fun attributes =>
      if (attributes.map Prod.fst).Nodup then some ⟨String.ofList (r.takeWhile isNameChar), attributes⟩ else none
  | _ => none

/-- A text that stands for itself between double quotes. -/
def Verbatim (s : List Char) : Prop := ∀ c ∈ s, c ≠ '"' ∧ c ≠ '<' ∧ c ≠ '&'

instance (s : List Char) : Decidable (Verbatim s) := List.decidableBAll _ s

theorem decode_of_verbatim {s : List Char} (h : Verbatim s) : decode s = some s := by
  fun_induction decode s with
  | case1 => rfl
  | case2 | case3 | case4 | case5 | case6 => exact absurd rfl (h '&' List.mem_cons_self).2.2
  | case7 c r _ _ _ _ _ hc =>
    obtain ⟨-, hopen, hand⟩ := h c List.mem_cons_self
    exact (hc.elim hand hopen).elim
  | case8 c r _ _ _ _ _ hc ih => rw [ih fun d hd => h d (List.mem_cons_of_mem c hd), Option.map_some]

theorem length_decode {s t : List Char} (h : decode s = some t) :
    t.length ≤ s.length ∧ (s.length ≤ t.length → ∀ c ∈ s, c ≠ '<' ∧ c ≠ '&') := by
  fun_induction decode s generalizing t with
  | case1 =>
    cases h
    exact ⟨le_rfl, fun _ => nofun⟩
  -- Each of the five references is longer than the one character that it stands for.
  | case2 r ih | case3 r ih | case4 r ih | case5 r ih | case6 r ih =>
    obtain ⟨u, hu, rfl⟩ := Option.map_eq_some_iff.1 h
    have hshort := (ih hu).1
    constructor
    · simp only [List.length_cons]
      omega
    · intro hlong
      simp only [List.length_cons] at hlong
      omega
  | case7 => exact nomatch h
  | case8 c r _ _ _ _ _ hc ih =>
    obtain ⟨u, hu, rfl⟩ := Option.map_eq_some_iff.1 h
    obtain ⟨hshort, hplain⟩ := ih hu
    refine ⟨Nat.succ_le_succ hshort, fun hlong => List.forall_mem_cons.2 ⟨?_, hplain (Nat.le_of_succ_le_succ hlong)⟩⟩
    exact ⟨fun h => hc (.inr h), fun h => hc (.inl h)⟩

theorem value?_of_verbatim {w : List Char} (h : Verbatim w) (rest : List Char) :
    value? (w ++ '"' :: rest) = some (w, rest) := by
  have hw : ∀ c ∈ w, (c != '"') = true := fun c hc => bne_iff_ne.2 (h c hc).1
  unfold value?
  rw [List.dropWhile_append_of_pos hw, List.takeWhile_append_of_pos hw]
  simp [decode_of_verbatim h]

theorem verbatim_of_value? {w rest rest' : List Char} (h : value? (w ++ '"' :: rest) = some (w, rest')) :
    Verbatim w := by
  have hraw : ∃ raw, raw <+: w ∧ '"' ∉ raw ∧ decode raw = some w := by
    refine ⟨(w ++ '"' :: rest).takeWhile (· != '"'), ?_, fun hmem => ?_, ?_⟩
    · rw [List.takeWhile_append]
      split
      · simp
      · exact List.takeWhile_prefix _
    · simpa using List.mem_takeWhile_imp hmem
    · unfold value? at h
      split at h
      · exact nomatch h
      · obtain ⟨u, hu, hpair⟩ := Option.map_eq_some_iff.1 h
        rw [hu, (Prod.mk.inj hpair).1]
  obtain ⟨raw, hprefix, hquote, hdecode⟩ := hraw
  obtain ⟨hshort, hplain⟩ := length_decode hdecode
  -- What was decoded is as long as the value, so it is all of it, and none of it was a reference.
  have hwhole : raw = w := hprefix.eq_of_length_le hshort
  rw [hwhole] at hplain hquote
  intro c hc
  exact ⟨fun hq => hquote (hq ▸ hc), hplain le_rfl c hc⟩

/-- An attribute as it is written behind a blank. -/
def written (name : String) (value rest : List Char) : List Char :=
  ' ' :: (name.toList ++ '=' :: '"' :: (value ++ '"' :: rest))

theorem attributes?_end (n : Nat) : attributes? n ['/', '>'] = some [] := by
  cases n <;> rfl

section Written

variable {name : String} (hname : name.toList ≠ [] ∧ name.toList.all isNameChar = true) (value rest : List Char)

include hname

theorem dropWhile_written :
    (written name value rest).dropWhile isSpace = name.toList ++ '=' :: '"' :: (value ++ '"' :: rest) := by
  obtain ⟨hne, hall⟩ := hname
  obtain ⟨c, cs, hcons⟩ := List.exists_cons_of_ne_nil hne
  have hc : isNameChar c = true := List.all_eq_true.1 hall c (by rw [hcons]; exact List.mem_cons_self)
  have hspaces : [' ', '\t', '\r', '\n'].all (!isNameChar ·) = true := by decide
  have hspace : isSpace c ≠ true := fun hspace => by
    have hmem : c ∈ [' ', '\t', '\r', '\n'] := by simpa [isSpace, or_assoc] using hspace
    have hother := List.all_eq_true.1 hspaces c hmem
    rw [hc] at hother
    exact Bool.false_ne_true hother
  rw [written, List.dropWhile_cons_of_pos (by decide), hcons, List.cons_append, List.dropWhile_cons_of_neg hspace]

theorem attribute?_written : attribute? (written name value rest) =
    (value? (value ++ '"' :: rest)).map fun (read, rest') => ((name, String.ofList read), rest') := by
  have hskip := dropWhile_written hname value rest
  obtain ⟨hne, hall⟩ := hname
  have hchars := List.all_eq_true.1 hall
  obtain ⟨c, cs, hcons⟩ := List.exists_cons_of_ne_nil hne
  have hdrop : (name.toList ++ '=' :: '"' :: (value ++ '"' :: rest)).dropWhile isNameChar =
      '=' :: '"' :: (value ++ '"' :: rest) := by
    rw [List.dropWhile_append_of_pos hchars, List.dropWhile_cons_of_neg (by decide)]
  have htake : (name.toList ++ '=' :: '"' :: (value ++ '"' :: rest)).takeWhile isNameChar = c :: cs := by
    rw [List.takeWhile_append_of_pos hchars, List.takeWhile_cons_of_neg (by decide), List.append_nil, hcons]
  have hword : String.ofList (c :: cs) = name := by rw [← hcons, String.ofList_toList]
  rw [written, List.dropWhile_cons_of_pos (by decide)] at hskip
  unfold attribute? written
  simp only [hskip, hdrop, htake, hword]
  rfl

theorem attributes?_written (n : Nat) : attributes? (n + 1) (written name value rest) =
    (value? (value ++ '"' :: rest)).bind fun (read, rest') =>
      (attributes? n rest').map ((name, String.ofList read) :: ·) := by
  have hmore : (written name value rest).dropWhile isSpace ≠ ['/', '>'] := by
    intro heq
    have hmem : '=' ∈ ['/', '>'] := by
      rw [← heq, dropWhile_written hname]
      exact List.mem_append_right _ List.mem_cons_self
    exact absurd hmem (by decide)
  rw [attributes?, if_neg hmore]
  simp only [attribute?_written hname, Option.bind_map]
  rfl

/-- An attribute is read back exactly if its value stands for itself. -/
theorem lookup_written (n : Nat) {as : List (String × String)}
    (has : attributes? (n + 1) (written name value rest) = some as) (h : as.lookup name = some (String.ofList value)) :
    Verbatim value ∧ ∃ more, attributes? n rest = some more ∧ as = (name, String.ofList value) :: more := by
  rw [attributes?_written hname] at has
  obtain ⟨⟨read, rest'⟩, hread, hmore⟩ := Option.bind_eq_some_iff.1 has
  obtain ⟨more, hrest, rfl⟩ := Option.map_eq_some_iff.1 hmore
  rw [List.lookup_cons_self, Option.some_inj, String.ofList_inj] at h
  subst h
  have hverbatim := verbatim_of_value? hread
  rw [value?_of_verbatim hverbatim, Option.some_inj, Prod.mk.injEq] at hread
  exact ⟨hverbatim, more, hread.2 ▸ hrest, rfl⟩

end Written

end Xml

namespace Artifact

open Scaffold.Entity (Field)
open Scaffold.Text

namespace MappingRow

def tag (r : MappingRow) : String := if r.isId then "id" else "result"

/-- What stands behind the property of a row. -/
def tail (r : MappingRow) : List Char :=
  if r.isEnum then Xml.written "typeHandler" enumHandler.toList ['/', '>'] else ['/', '>']

/-- What is read of a row whose column and property stand for themselves. -/
def asElement (r : MappingRow) : Xml.Element where
  name := r.tag
  attributes := [("column", r.column), ("property", r.property)]
    ++ if r.isEnum then [("typeHandler", enumHandler)] else []

/-- What stands behind the tag of a row. -/
def behindTag (r : MappingRow) : List Char :=
  Xml.written "column" r.column.toList (Xml.written "property" r.property.toList r.tail)

theorem element_toList (r : MappingRow) :
    r.element.toList = List.replicate 8 ' ' ++ '<' :: (r.tag.toList ++ r.behindTag) := by
  unfold element behindTag tail Xml.written tag
  cases r.isId <;> cases r.isEnum <;> simp

theorem read?_element (r : MappingRow) : ∃ n, Xml.read? r.element =
    (Xml.attributes? (n + 3) r.behindTag).bind fun attributes =>
      if (attributes.map Prod.fst).Nodup then some ⟨r.tag, attributes⟩ else none := by
  obtain ⟨n, hn⟩ : ∃ n, r.element.length = n + 3 := by
    refine ⟨r.element.length - 3, (Nat.sub_add_cancel ?_).symm⟩
    rw [← String.length_toList, element_toList, List.length_append, List.length_replicate]
    omega
  have hname : r.tag.toList.all Xml.isNameChar = true := by
    unfold tag
    cases r.isId <;> decide
  have htag := List.all_eq_true.1 hname
  have hmargin : ∀ c ∈ List.replicate 8 ' ', Xml.isSpace c = true := fun c hc => by
    rw [List.eq_of_mem_replicate hc]
    decide
  have hdrop : r.behindTag.dropWhile Xml.isNameChar = r.behindTag := List.dropWhile_cons_of_neg (by decide)
  have htake : r.behindTag.takeWhile Xml.isNameChar = [] := List.takeWhile_cons_of_neg (by decide)
  refine ⟨n, ?_⟩
  unfold Xml.read?
  rw [element_toList, List.dropWhile_append_of_pos hmargin, List.dropWhile_cons_of_neg (by decide), hn]
  simp only [List.dropWhile_append_of_pos htag, List.takeWhile_append_of_pos htag, hdrop, htake, List.append_nil,
    String.ofList_toList]

theorem attributes?_tail (r : MappingRow) (n : Nat) :
    Xml.attributes? (n + 1) r.tail = some (if r.isEnum then [("typeHandler", enumHandler)] else []) := by
  unfold tail
  cases r.isEnum with
  | false => exact Xml.attributes?_end _
  | true =>
    have hhandler : Xml.Verbatim enumHandler.toList := by decide
    rw [if_pos rfl, Xml.attributes?_written (by decide), Xml.value?_of_verbatim hhandler]
    simp [Xml.attributes?_end]

theorem read?_of_verbatim {r : MappingRow} (hc : Xml.Verbatim r.column.toList) (hp : Xml.Verbatim r.property.toList) :
    Xml.read? r.element = some r.asElement := by
  obtain ⟨n, hread⟩ := r.read?_element
  rw [hread, behindTag, Xml.attributes?_written (by decide), Xml.value?_of_verbatim hc]
  simp only [Option.bind_some, String.ofList_toList]
  rw [Xml.attributes?_written (by decide), Xml.value?_of_verbatim hp]
  simp only [Option.bind_some, String.ofList_toList, attributes?_tail, Option.map_some]
  unfold asElement
  cases r.isEnum <;> simp

theorem verbatim_of_read? {r : MappingRow} {x : Xml.Element} (hread : Xml.read? r.element = some x)
    (hc : x.attribute? "column" = some r.column) (hp : x.attribute? "property" = some r.property) :
    Xml.Verbatim r.column.toList ∧ Xml.Verbatim r.property.toList := by
  obtain ⟨n, helement⟩ := r.read?_element
  rw [helement] at hread
  obtain ⟨as, has, hx⟩ := Option.bind_eq_some_iff.1 hread
  have hattributes : x.attributes = as := by
    split at hx
    · rw [← Option.some.inj hx]
    · exact nomatch hx
  rw [Xml.Element.attribute?, hattributes] at hc hp
  obtain ⟨hcolumn, more, hmore, rfl⟩ := Xml.lookup_written (by decide) _ _ _ has (by rw [hc, String.ofList_toList])
  have hproperty : more.lookup "property" = some (String.ofList r.property.toList) := by
    rw [String.ofList_toList, ← hp]
    rfl
  obtain ⟨hproperty, -⟩ := Xml.lookup_written (by decide) _ _ _ hmore hproperty
  exact ⟨hcolumn, hproperty⟩

end MappingRow

namespace Mapping

/-- A field is read back from its row of the result map exactly if its column and its name hold no double quote, no
opening bracket and no ampersand. Then the row is an element that is marked as the id if the field is the id, and has
besides these two attributes at most the handler of enums. -/
theorem attributes_read_back (m : Mapping) {i : Nat} {f : Field} (hf : m.entity.allFields[i]? = some f) :
    ∃ row, m.rows[i]? = some row ∧ row.element.toList <:+: m.template.content.toList ∧
      ((∃ x, Xml.read? row.element = some x ∧ x.attribute? "column" = some f.column ∧
        x.attribute? "property" = some f.name) ↔ Xml.Verbatim f.column.toList ∧ Xml.Verbatim f.name.toList) ∧
      (Xml.Verbatim f.column.toList ∧ Xml.Verbatim f.name.toList →
        Xml.read? row.element = some ⟨if m.entity.idIndex? = some i then "id" else "result",
          [("column", f.column), ("property", f.name)] ++
            if f.isEnum then [("typeHandler", enumHandler)] else []⟩) := by
  have hrow : m.rows[i]? = some (MappingRow.ofField (m.entity.idIndex? == some i) f) := by
    rw [rows, List.getElem?_mapIdx, hf, Option.map_some]
  refine ⟨_, hrow, ?_, ⟨?_, ?_⟩, ?_⟩
  · have hresult : unlines (m.rows.map (·.element)) ∈ m.header ++ m.resultMap :=
      List.mem_append_right _ (by simp [resultMap])
    have hline := List.mem_map_of_mem (f := MappingRow.element) (List.mem_of_getElem? hrow)
    exact infix_of_line (infix_intercalate hline) hresult (by simp [sections])
  · rintro ⟨x, hread, hcolumn, hproperty⟩
    exact MappingRow.verbatim_of_read? hread hcolumn hproperty
  · rintro ⟨hcolumn, hproperty⟩
    exact ⟨_, MappingRow.read?_of_verbatim hcolumn hproperty, rfl, rfl⟩
  · rintro ⟨hcolumn, hproperty⟩
    rw [MappingRow.read?_of_verbatim hcolumn hproperty]
    simp [MappingRow.asElement, MappingRow.tag, MappingRow.ofField]
    rfl

/-- Two columns, one of which is named by a quoted identifier. -/
def quotedEntity : Entity where
  name := "Item"
  package := "shop"
  annotations := ["Entity"]
  fields := [{ name := "id", typeName := "Long", isId := true },
    { name := "order", typeName := "Integer", columnName := some "\"order\"" }]

def quotedMapping : Mapping := { entity := quotedEntity, dao := { name := "ItemDao", package := "shop" } }

theorem attributes_read_back_id : ∃ row, quotedMapping.rows[0]? = some row ∧
    Xml.read? row.element = some ⟨"id", [("column", "id"), ("property", "id")]⟩ := by
  have hcolumn : Entity.Field.column { name := "id", typeName := "Long", isId := true } = "id" := by decide
  obtain ⟨row, hrow, -, -, hread⟩ := attributes_read_back quotedMapping (i := 0)
    (f := { name := "id", typeName := "Long", isId := true }) rfl
  rw [hcolumn] at hread
  exact ⟨row, hrow, hread (by decide)⟩

/-- The quote that opens the identifier ends the value. -/
theorem quotedColumn_not_read : ∃ f row, quotedMapping.entity.allFields[1]? = some f ∧ '\n' ∉ f.column.toList ∧
    '\n' ∉ f.name.toList ∧ quotedMapping.rows[1]? = some row ∧ Xml.read? row.element = none := by
  refine ⟨_, _, rfl, ?_, ?_, rfl, ?_⟩ <;> decide +kernel

end Mapping

end Artifact

end Scaffold
