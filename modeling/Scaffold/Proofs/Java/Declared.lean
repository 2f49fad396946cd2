import Scaffold.Proofs.Java.Finds
import Scaffold.Proofs.Java.Readers
import Scaffold.Source.Handles

/-! Type declarations as they are read. Main statement: in a source that is read, every declaration at every depth
has an identifier for a name and names the enums declared in it. -/

namespace Scaffold.Java

open Scaffold.Source (heads headsOf)

mutual

/-- A declaration and those nested in it, at every depth. -/
def declarations : Decl → List Decl
  | .mk head nested => .mk head nested :: declarationsOf nested

def declarationsOf : List Decl → List Decl
  | [] => []
  | d :: r => declarations d ++ declarationsOf r

end

mutual

theorem heads_eq : ∀ d : Decl, heads d = (declarations d).map Decl.head
  | .mk head nested => by
    rw [heads, declarations, List.map_cons, headsOf_eq nested]
    rfl

theorem headsOf_eq : ∀ ds : List Decl, headsOf ds = (declarationsOf ds).map Decl.head
  | [] => rfl
  | d :: r => by rw [headsOf, declarationsOf, List.map_append, heads_eq d, headsOf_eq r]

end

theorem mem_declarationsOf {ds : List Decl} {e : Decl} : e ∈ declarationsOf ds ↔ ∃ d ∈ ds, e ∈ declarations d := by
  induction ds with
  | nil => simp [declarationsOf]
  | cons d r ih => simp [declarationsOf, ih]

mutual

theorem declarations_trans : ∀ {c d e : Decl}, d ∈ declarations c → e ∈ declarations d → e ∈ declarations c
  | .mk head nested, d, e, hd, he => by
    rw [declarations] at hd ⊢
    rcases List.mem_cons.1 hd with rfl | hd
    · rwa [declarations] at he
    · exact List.mem_cons_of_mem _ (declarationsOf_trans hd he)

theorem declarationsOf_trans :
    ∀ {ds : List Decl} {d e : Decl}, d ∈ declarationsOf ds → e ∈ declarations d → e ∈ declarationsOf ds
  | [], _, _, hd, _ => absurd hd List.not_mem_nil
  | c :: r, d, e, hd, he => by
    rw [declarationsOf] at hd ⊢
    rcases List.mem_append.1 hd with hd | hd
    · exact List.mem_append_left _ (declarations_trans hd he)
    · exact List.mem_append_right _ (declarationsOf_trans hd he)

end

/-- The names of the enums declared in a declaration, itself included. -/
def enumNames (d : Decl) : List String := ((heads d).filter (·.kind == .enum)).map (·.name)

theorem mem_enumNames {d : Decl} {name : String} :
    name ∈ enumNames d ↔ ∃ e ∈ declarations d, e.head.kind = .enum ∧ e.head.name = name := by
  unfold enumNames
  rw [heads_eq]
  simp only [List.mem_map, List.mem_filter, beq_iff_eq]
  constructor
  · rintro ⟨_, ⟨⟨e, he, rfl⟩, hkind⟩, hname⟩
    exact ⟨e, he, hkind, hname⟩
  · rintro ⟨e, he, hkind, hname⟩
    exact ⟨_, ⟨⟨e, he, rfl⟩, hkind⟩, hname⟩

theorem mem_enumNames_mk {head : DeclHead} {nested : List Decl} {name : String} :
    name ∈ enumNames (.mk head nested) ↔
      (head.kind = .enum ∧ head.name = name) ∨ ∃ d ∈ nested, name ∈ enumNames d := by
  simp only [mem_enumNames, declarations, List.mem_cons, or_and_right, exists_or, exists_eq_left, mem_declarationsOf]
  refine or_congr Iff.rfl ?_
  constructor
  · rintro ⟨e, ⟨d, hd, he⟩, h⟩
    exact ⟨d, hd, e, he, h⟩
  · rintro ⟨d, hd, e, he, h⟩
    exact ⟨e, ⟨d, hd, he⟩, h⟩

/-- A declaration with a proper name, which names all enums in it. -/
structure Decl.Named (d : Decl) : Prop where
  name : IsIdentifier d.head.name
  enums : enumNames d ⊆ d.head.enums

namespace Parser

/-- A declaration before it is told which enums were met in it. All of them are known. -/
structure Fresh (known : List String) (d : Decl) : Prop where
  name : IsIdentifier d.head.name
  nested : ∀ e ∈ declarationsOf d.nested, e.Named
  enums : enumNames d ⊆ known

/-- A declaration all of which is told so. The enums in it are known. -/
structure Told (known : List String) (d : Decl) : Prop where
  named : ∀ e ∈ declarations d, e.Named
  enums : enumNames d ⊆ known

section

variable {known es : List String} {d : Decl}

theorem Told.mono (h : Told known d) (hk : known ⊆ es) : Told es d := ⟨h.named, List.Subset.trans h.enums hk⟩

theorem Fresh.mono (h : Fresh known d) (hk : known ⊆ es) : Fresh es d :=
  ⟨h.name, h.nested, List.Subset.trans h.enums hk⟩

theorem Fresh.told (h : Fresh known d) (hk : known ⊆ es) : Told es (withEnums known d) := by
  obtain ⟨head, nested⟩ := d
  have henums : enumNames (.mk { head with enums := known } nested) ⊆ known := by
    intro name hn
    -- Which enums are in a declaration does not depend on those that it is told of.
    have hmet := mem_enumNames_mk.1 hn
    exact h.enums (mem_enumNames_mk.2 hmet)
  refine ⟨fun e he => ?_, List.Subset.trans henums hk⟩
  rw [withEnums, declarations] at he
  rcases List.mem_cons.1 he with rfl | he
  · exact ⟨h.name, henums⟩
  · exact h.nested e he

theorem fresh_declOf {head : DeclHead} {members : List Member} (hname : IsIdentifier head.name)
    (henum : head.kind = .enum → head.name ∈ known) (hmembers : ∀ d, .type d ∈ members → Told known d) :
    Fresh known (declOf head members) := by
  have hnested : ∀ d ∈ nestedOf members, Told known d := by
    intro d hd
    obtain ⟨m, hm, hd⟩ := List.mem_filterMap.1 hd
    cases m with
    | type _ =>
      cases hd
      exact hmembers d hm
    | field _ | method _ | other => exact nomatch hd
  refine ⟨hname, fun e he => ?_, fun name hn => ?_⟩
  · obtain ⟨d, hd, he⟩ := mem_declarationsOf.1 he
    exact (hnested d hd).named e he
  · rcases mem_enumNames_mk.1 hn with ⟨hkind, rfl⟩ | ⟨d, hd, hn⟩
    · exact henum hkind
    · exact (hnested d hd).enums hn

theorem finds_declOf {p : Parse (List Member)} [Steady p] {head : DeclHead}
    (hp : Finds known p fun es ms => ∀ m ∈ ms, ∀ d, m = .type d → Told es d) (hname : IsIdentifier head.name)
    (henum : head.kind = .enum → head.name ∈ known) :
    Finds known (do return some (declOf head (← p))) fun es o => ∀ d, o = some d → Fresh es d := by
  refine .bind hp fun es ms hes hms => .pure fun es' hes' d hd => ?_
  cases hd
  exact fresh_declOf hname (fun h => hes' (hes (henum h))) fun d hd => (hms _ hd d rfl).mono hes'

end

namespace Grammar

variable (g : Grammar) [g.Steady] {known : List String}

-- The members of the next three readers are fields, methods and constructors, so no types.
theorem finds_fieldRest (kind : BodyKind) (modifiers : List String) (annots : List Annot) (type : TypeRef)
    (name : String) : Finds known (g.fieldRest kind modifiers annots type name) fun _ m => ∀ d, m ≠ .type d := by
  unfold fieldRest
  refine .ite (.after fun _ => .after fun more => ?_) (.after fun _ => .after fun more => ?_)
  · exact .after fun _ => .pure fun _ _ _ h => nomatch h
  · exact .after fun _ => .pure fun _ _ _ h => nomatch h

theorem finds_typedMember (kind : BodyKind) (modifiers : List String) (annots : List Annot) :
    Finds known (g.typedMember kind modifiers annots) fun _ m => ∀ d, m ≠ .type d := by
  unfold typedMember
  refine .after fun type => .after fun name => .after fun _ => .ite (.ite ?_ ?_) ?_
  · exact .after fun _ => .after fun _ => .pure fun _ _ _ h => nomatch h
  · exact .after fun _ => .pure fun _ _ _ h => nomatch h
  · exact finds_fieldRest g kind modifiers annots type name

theorem finds_genericMember (kind : BodyKind) : Finds known (g.genericMember kind) fun _ m => ∀ d, m ≠ .type d := by
  unfold genericMember
  refine .after fun _ => .after fun _ => .ite ?_ (.after fun _ => .ite ?_ ?_)
  · exact .after fun _ => .after fun _ => .pure fun _ _ _ h => nomatch h
  · exact .after fun _ => .after fun _ => .after fun _ => .pure fun _ _ _ h => nomatch h
  · exact .after fun _ => .after fun _ => .pure fun _ _ _ h => nomatch h

-- The next three are one level of the recursion each, with what the level below finds as the hypothesis.
theorem finds_members {fuel : Nat} {kind : BodyKind}
    (hmember : ∀ known modifiers annots, Finds known (g.member fuel kind modifiers annots)
      fun es m => ∀ d, m = .type d → Fresh es d) :
    Finds known (g.members (fuel + 1) kind) fun es ms => ∀ m ∈ ms, ∀ d, m = .type d → Told es d := by
  have hother : ∀ es d, Member.other = .type d → Told es d := by
    intro _ _ h
    cases h
  have hmono : ∀ (es es' : List String) (m : Member), es ⊆ es' → (∀ d, m = .type d → Told es d) →
      ∀ d, m = .type d → Told es' d :=
    fun _ _ _ hes h d hd => (h d hd).mono hes
  unfold members
  refine .upTo hmono (.after fun _ => .ite ?_ (.after fun _ => .ite ?_ (.after fun _ => .after fun _ =>
    .ite ?_ ?_)))
  · exact .after fun _ => .pure fun es _ => hother es
  · exact .after fun _ => .pure fun es _ => hother es
  · exact .after fun _ => .after fun _ => .pure fun es _ => hother es
  · -- A member is told of the enums that were met from its first token on.
    refine .bind (.collectingEnums (.after fun marks => hmember [] marks.1 marks.2))
      fun es found _ hfound => .pure fun es' hes d hd => ?_
    obtain ⟨m, inner⟩ := found
    obtain ⟨hinner, hfresh⟩ := hfound
    cases m with
    | type fresh =>
      cases hd
      exact (hfresh fresh rfl).told (List.Subset.trans hinner hes)
    | field _ | method _ | other => cases hd

theorem finds_member {fuel : Nat} {annots : List Annot} (kind : BodyKind) (modifiers : List String)
    (htype : Finds known (g.typeDecl? fuel annots) fun es o => ∀ d, o = some d → Fresh es d) :
    Finds known (g.member (fuel + 1) kind modifiers annots) fun es m => ∀ d, m = .type d → Fresh es d := by
  unfold member
  refine .bind htype fun es found _ hfound => ?_
  cases found with
  | some d =>
    refine .pure fun es' hes d' hd => ?_
    cases hd
    exact (hfound d rfl).mono hes
  | none =>
    refine .after fun _ => .ite ?_ (.after fun _ => .ite ?_ (.after fun _ => .ite ?_ ?_))
    · exact .after fun _ => .after fun _ => .after fun _ => .pure fun _ _ _ h => by cases h
    · exact (g.finds_genericMember kind).weaken fun _ _ _ h d hd => absurd hd (h d)
    · exact .after fun _ => .after fun _ => .pure fun _ _ _ h => by cases h
    · exact (g.finds_typedMember kind modifiers annots).weaken fun _ _ _ h d hd => absurd hd (h d)

theorem finds_typeDecl? {fuel : Nat} (annots : List Annot)
    (hmembers : ∀ known kind, Finds known (g.members fuel kind)
      fun es ms => ∀ m ∈ ms, ∀ d, m = .type d → Told es d) :
    Finds known (g.typeDecl? (fuel + 1) annots) fun es o => ∀ d, o = some d → Fresh es d := by
  -- In the order in which the keywords are tried: class, enum, interface and annotation type.
  unfold typeDecl?
  refine .after fun _ => .ite (.bind .identifier fun es name _ hname => ?_) (.after fun _ => .ite
    (.bind .identifier fun es name _ hname => ?_) (.after fun _ => .ite
      (.bind .identifier fun es name _ hname => ?_) (.after fun _ => .ite
        (.after fun _ => .after fun _ => .bind .identifier fun es name _ hname => ?_)
        (.pure fun _ _ _ h => by cases h))))
  · exact .after fun _ => .after fun _ => .after fun _ => .after fun _ =>
      finds_declOf (hmembers es .ofClass) hname fun h => by cases h
  · refine .bind (.noteEnum name) fun es' _ _ hnote => .after fun _ => .after fun _ => .after fun _ =>
      .after fun _ => .ite ?_ (.after fun _ => ?_)
    · exact finds_declOf (hmembers es' .ofClass) hname fun _ => hnote
    · exact finds_declOf (.pure fun _ _ _ h => absurd h List.not_mem_nil) hname fun _ => hnote
  · exact .after fun _ => .after fun _ => .after fun _ =>
      finds_declOf (hmembers es .ofInterface) hname fun h => by cases h
  · exact .after fun _ => finds_declOf (hmembers es .ofMarker) hname fun h => by cases h

/-- The members that a body declares, and the declarations that it opens. -/
theorem finds_bodies (fuel : Nat) :
    (∀ known kind, Finds known (g.members fuel kind) fun es ms => ∀ m ∈ ms, ∀ d, m = .type d → Told es d) ∧
      (∀ known kind modifiers annots, Finds known (g.member fuel kind modifiers annots)
        fun es m => ∀ d, m = .type d → Fresh es d) ∧
      ∀ known annots, Finds known (g.typeDecl? fuel annots) fun es o => ∀ d, o = some d → Fresh es d := by
  induction fuel with
  | zero => exact ⟨fun _ _ => .fail, fun _ _ _ _ => .fail, fun _ _ => .fail⟩
  | succ fuel ih =>
    obtain ⟨hmembers, hmember, htype⟩ := ih
    refine ⟨fun known kind => ?_, fun known kind modifiers annots => ?_, fun known annots => ?_⟩
    · exact finds_members g fun known => hmember known kind
    · exact finds_member g kind modifiers (htype known annots)
    · exact finds_typeDecl? g annots hmembers

theorem finds_readDeclaration : Finds known g.readDeclaration fun es d => Told es d := by
  unfold readDeclaration
  refine .bind (.collectingEnums (Q := fun es d => Fresh es d) (.after fun marks => .after fun c =>
    .bind ((g.finds_bodies _).2.2 _ marks.2) fun es found _ hfound => ?_)) fun es found _ hfound =>
      .pure fun es' hes => hfound.2.told (List.Subset.trans hfound.1 hes)
  cases found with
  | none => exact .fail
  | some d => exact .pure fun es' hes => (hfound d rfl).mono hes

theorem finds_declaration (n : Nat) : Finds known (Grammar.ofDepth n).declaration fun es d => Told es d := by
  cases n with
  | zero => exact .fail
  | succ n => exact finds_readDeclaration (Grammar.ofDepth n)

variable {g}

theorem finds_types (h : ∀ known, Finds known g.declaration fun es d => Told es d) :
    Finds known g.types fun es ds => ∀ d ∈ ds, Told es d := by
  unfold types
  have hmono : ∀ (es es' : List String) (o : Option Decl), es ⊆ es' → (∀ d, o = some d → Told es d) →
      ∀ d, o = some d → Told es' d :=
    fun _ _ _ hes h d hd => (h d hd).mono hes
  refine .bind (.repeatWhile hmono (.after fun _ => .ite ?_ (.after fun _ => .ite ?_ ?_)))
    fun es found _ hfound => .pure fun es' hes d hd => ?_
  · exact .pure fun _ _ _ h => nomatch h
  · refine .pure fun _ _ a ha d hd => ?_
    cases ha
    exact nomatch hd
  · refine .bind (.rethrow (h []) _) fun es d _ hd => .pure fun es' hes a ha e he => ?_
    cases ha
    cases he
    exact hd.mono hes
  · obtain ⟨_, ho, rfl⟩ := List.mem_filterMap.1 hd
    exact (hfound _ ho d rfl).mono hes

theorem finds_package? : Finds known g.package? fun _ o => ∀ name, o = some name → IsPackage name := by
  unfold package?
  refine .after fun _ => .after fun _ => .after fun _ => .ite ?_ ?_
  · refine .bind .qualifiedName fun _ names _ hnames => .after fun _ => .pure fun _ _ name hname => ?_
    cases hname
    exact isPackage_intercalate hnames.1 hnames.2
  · intro c _ _ o ho name hname
    cases ho
    exact nomatch hname

theorem package?_tokens (c : Cursor) : Cursor.tokens (g.package? c).2 ⊆ c.tokens := by
  unfold package?
  refine Steady.tokens_bind (fun _ => Steady.tokens_bind fun _ => Steady.tokens_bind fun found c => ?_) c
  by_cases hfound : found = true
  · rw [if_pos hfound]
    exact Steady.tokens c
  · -- Without a package clause it goes back to the anchor, where all that was read is still ahead.
    rw [if_neg hfound]
    exact List.append_subset.2 ⟨List.subset_append_right _ _, List.subset_append_right _ _⟩

theorem sourceUnit_named (h : ∀ known, Finds known g.declaration fun es d => Told es d) {c : Cursor} (hc : c.Formed)
    {u : SourceUnit} (hu : (g.sourceUnit c).1 = .ok u) :
    (∀ name, u.package = some name → IsPackage name) ∧ ∀ d ∈ declarationsOf u.types, d.Named := by
  have hformed : Cursor.Formed (g.package? c).2 := fun t ht => hc t (package?_tokens c ht)
  have hpackage := finds_package? (g := g) c hc (List.nil_subset _)
  have hrest : ∀ package, Finds [] (do
      let imports ← repeatWhile import?
      return ({ package, imports, types := ← g.types } : SourceUnit))
      fun _ u => u.package = package ∧ ∀ d ∈ declarationsOf u.types, d.Named := by
    refine fun package => .after fun imports => .bind (finds_types h) fun es ds _ hds => .pure fun _ _ => ⟨rfl, ?_⟩
    intro d hd
    obtain ⟨e, he, hd⟩ := mem_declarationsOf.1 hd
    exact (hds e he).named d hd
  unfold sourceUnit at hu
  rw [bind_apply] at hu
  rcases hx : g.package? c with ⟨e | package, d⟩ <;> rw [hx] at hu hformed hpackage
  · exact nomatch hu
  · obtain ⟨hsame, hnamed⟩ := hrest package d hformed (List.nil_subset _) u hu
    exact ⟨fun name hname => hpackage package rfl name (by rw [← hsame, hname]), hnamed⟩

end Grammar

end Parser

/-- In a source that is read, the package and every declaration have proper names, and every declaration names the
enums declared in it. -/
theorem read_named {source : String} {u : SourceUnit} (h : SourceUnit.read source = .ok u) :
    (∀ name, u.package = some name → IsPackage name) ∧ ∀ d ∈ declarationsOf u.types, d.Named := by
  unfold SourceUnit.read at h
  split at h
  · exact nomatch h
  · exact nomatch h
  · next ts htokens =>
    have hformed : Parser.Cursor.Formed ⟨ts, ts, []⟩ := fun t ht =>
      tokens_formed htokens t ((List.mem_append.1 ht).elim id id)
    split at h
    · next u' hunit =>
      cases h
      exact Parser.Grammar.sourceUnit_named (fun _ => Parser.Grammar.finds_declaration _) hformed hunit
    all_goals exact nomatch h

end Scaffold.Java
