import Scaffold.Proofs.Symbols.Sources
import Scaffold.Proofs.Symbols.Table
import Mathlib.Data.List.Nodup

/-! Sources in different orders. The types that they declare are the same in every order, but each source is
read against what those before it left in the table: what is known of the type of a field depends on whether
the source of this type came first. -/

namespace Scaffold

open Scaffold.Java

/-- A field without what is known of its type. -/
def Entity.Field.untyped (f : Entity.Field) : Entity.Field := { f with qualifiedType := none, isEnum := false }

/-- A handle without what is known of the types of its fields. -/
def Handle.untyped (h : Handle) : Handle := { h with fields := h.fields.map Entity.Field.untyped }

theorem Handle.package_untyped (h : Handle) : h.untyped.package = h.package := rfl

theorem Handle.qualifiedName_untyped (h : Handle) : h.untyped.qualifiedName = h.qualifiedName := rfl

theorem Handle.isEnum_untyped (h : Handle) : h.untyped.isEnum = h.isEnum := rfl

namespace Source

variable {s : Scope} {owner : DeclHead} {lookup lookup' : Lookup} {path : Option String}

/-- The name by which the type of a field is looked up, unless it is an enum of the declaration. -/
def soughtName? (s : Scope) (owner : DeclHead) (t : TypeRef) : Option String :=
  if owner.enums.contains t.path.lastName then none
  else some ((t.path.qualified?.or (s.imported? t.path.lastName)).getD t.path.lastName)

/-- The type of a field is known by the name and the kind of what is found, not by its fields. -/
theorem fieldType_congr {t : TypeRef}
    (h : ∀ name, soughtName? s owner t = some name →
      (lookup name).map Handle.untyped = (lookup' name).map Handle.untyped) :
    fieldType s owner lookup t = fieldType s owner lookup' t := by
  unfold fieldType
  dsimp only
  by_cases hlocal : owner.enums.contains t.path.lastName = true
  · rw [if_pos hlocal, if_pos hlocal]
  · rw [if_neg hlocal, if_neg hlocal]
    have hfound := h _ (if_neg hlocal)
    cases hl : lookup ((t.path.qualified?.or (s.imported? t.path.lastName)).getD t.path.lastName) with
    | none =>
      rw [hl, Option.map_none, eq_comm, Option.map_eq_none_iff] at hfound
      rw [hfound]
    | some h =>
      rw [hl, Option.map_some, eq_comm, Option.map_eq_some_iff] at hfound
      obtain ⟨h', hl', hu⟩ := hfound
      rw [hl']
      dsimp only
      rw [← h.qualifiedName_untyped, ← h.isEnum_untyped, ← hu]
      rfl

theorem handleOf_congr
    (h : ∀ f ∈ owner.fields, f.isStatic = false → ∀ name, soughtName? s owner f.type = some name →
      (lookup name).map Handle.untyped = (lookup' name).map Handle.untyped) :
    handleOf s lookup path owner = handleOf s lookup' path owner := by
  have hfields : fieldsOf s lookup owner = fieldsOf s lookup' owner := by
    refine List.flatMap_congr fun f hf => ?_
    obtain ⟨hmem, hstatic⟩ := List.mem_filter.1 hf
    unfold declaredFields
    rw [fieldType_congr (h f hmem (Bool.not_eq_true' _ ▸ hstatic))]
  unfold handleOf
  rw [hfields]

theorem untyped_handleOf : (handleOf s lookup path owner).untyped = (handleOf s lookup' path owner).untyped := by
  have hfields : (fieldsOf s lookup owner).map Entity.Field.untyped =
      (fieldsOf s lookup' owner).map Entity.Field.untyped := by
    unfold fieldsOf declaredFields
    simp only [List.map_flatMap, List.map_map]
    rfl
  unfold handleOf Handle.untyped
  dsimp only
  rw [hfields]

/-- The simple names of the types that a source declares. -/
def typeNames (text : String) : List String :=
  match SourceUnit.read text with
  | .ok u => (headsOf u.types).map (·.name)
  | .error _ => []

theorem typeNames_of_read {text : String} {u : SourceUnit} (hu : SourceUnit.read text = .ok u) :
    typeNames text = (headsOf u.types).map (·.name) := by
  unfold typeNames
  rw [hu]

theorem mem_typeNames {text name : String} :
    name ∈ typeNames text ↔ ∃ u, SourceUnit.read text = .ok u ∧ ∃ d ∈ headsOf u.types, d.name = name := by
  constructor
  · intro h
    unfold typeNames at h
    split at h
    · exact ⟨_, ‹_›, List.mem_map.1 h⟩
    · exact absurd h List.not_mem_nil
  · rintro ⟨u, hu, h⟩
    rw [typeNames_of_read hu]
    exact List.mem_map.2 h

end Source

namespace Symbols

section Enter

variable {h k : Handle} {w : Wanted} {bucket : List Handle}

theorem find?_enter :
    (enter h bucket).find? w.fits =
      ((bucket.filter (·.package != h.package)).find? w.fits).or (if w.fits h then some h else none) := by
  rw [enter, List.find?_append, List.find?_singleton]

/-- Handles that differ in what is known of their fields alone are entered alike. -/
theorem find?_enter_untyped (hu : h.untyped = k.untyped) :
    ((enter h bucket).find? w.fits).map Handle.untyped = ((enter k bucket).find? w.fits).map Handle.untyped := by
  have hpackage : h.package = k.package := by rw [← h.package_untyped, hu, k.package_untyped]
  have hfits : w.fits h = w.fits k := by
    unfold Wanted.fits
    rw [hpackage]
  rw [find?_enter, find?_enter, hpackage, hfits]
  cases (bucket.filter (·.package != k.package)).find? w.fits with
  | some f => rfl
  | none =>
    cases hk : w.fits k with
    | false => rfl
    | true => exact congrArg some hu

/-- A handle of another package is entered without a trace. -/
theorem find?_enter_of_not_fits (hf : w.fits h = false) : (enter h bucket).find? w.fits = bucket.find? w.fits := by
  have hfit : ∀ f : Handle, decide ((f.package != h.package) = true ∧ w.fits f = true) = w.fits f := by
    intro f
    rw [Bool.decide_and, Bool.decide_eq_true, Bool.decide_eq_true]
    cases hw : w.fits f with
    | false => exact Bool.and_false _
    | true =>
      have hne : f.package ≠ h.package := by
        intro hpackage
        unfold Wanted.fits at hf hw
        rw [hpackage, hf] at hw
        cases hw
      rw [bne_iff_ne.2 hne]
      rfl
  rw [find?_enter, List.find?_filter, hf, if_neg Bool.false_ne_true, Option.or_none]
  exact congrArg (bucket.find? ·) (funext hfit)

end Enter

theorem bucket_registerAll_of_ne {hs : List Handle} {name : String} (h : ∀ k ∈ hs, k.name ≠ name)
    (s : Symbols) : (s.registerAll hs).bucket name = s.bucket name := by
  induction hs generalizing s with
  | nil => rfl
  | cons k rest ih =>
    exact (ih (fun j hj => h j (List.mem_cons_of_mem _ hj)) (s.register k)).trans
      (bucket_register_of_ne (h k List.mem_cons_self))

/-- Of handles with names of their own each enters what stood under its name. -/
theorem bucket_registerAll {hs : List Handle} (hn : (hs.map (·.name)).Nodup) {h : Handle} (hh : h ∈ hs)
    (s : Symbols) : (s.registerAll hs).bucket h.name = enter h (s.bucket h.name) := by
  induction hs generalizing s with
  | nil => exact absurd hh List.not_mem_nil
  | cons k rest ih =>
    rw [List.map_cons, List.nodup_cons] at hn
    rcases List.mem_cons.1 hh with hk | hrest
    · subst hk
      have hothers : ∀ j ∈ rest, j.name ≠ h.name := fun j hj hjk => hn.1 (List.mem_map.2 ⟨j, hj, hjk⟩)
      exact (bucket_registerAll_of_ne hothers _).trans (bucket_register_self rfl)
    · have hne : k.name ≠ h.name := fun hkh => hn.1 (List.mem_map.2 ⟨h, hrest, hkh.symm⟩)
      refine (ih hn.2 hrest (s.register k)).trans ?_
      rw [bucket_register_of_ne hne]

theorem find?_of_wanted {name : String} {w : Wanted} (hw : Wanted.of? name = some w) (s : Symbols) :
    s.find? name = (s.bucket w.name).find? w.fits := by
  unfold find? findWhere?
  rw [hw]
  simp only [Bool.and_true]
  rfl

/-- The types of a source, read against what is known. -/
def typesOf (lookup : Source.Lookup) (x : String × Option String) : List Handle :=
  match SourceUnit.read x.1 with
  | .ok u => Source.handlesOf u lookup x.2
  | .error _ => []

theorem typesOf_of_read {lookup : Source.Lookup} {x : String × Option String} {u : SourceUnit}
    (hu : SourceUnit.read x.1 = .ok u) : typesOf lookup x = Source.handlesOf u lookup x.2 := by
  unfold typesOf
  rw [hu]

theorem names_typesOf (lookup : Source.Lookup) (x : String × Option String) :
    (typesOf lookup x).map (·.name) = Source.typeNames x.1 := by
  unfold typesOf Source.typeNames
  cases SourceUnit.read x.1 with
  | error e => rfl
  | ok u => exact List.map_map

/-- The table that sources leave, one after the other. -/
def after (s : Symbols) (xs : List (String × Option String)) : Symbols :=
  xs.foldl (fun s x => s.registerAll (typesOf s.find? x)) s

theorem after_cons (s : Symbols) (x : String × Option String) (xs : List (String × Option String)) :
    s.after (x :: xs) = (s.registerAll (typesOf s.find? x)).after xs := rfl

theorem after_append (s : Symbols) (xs ys : List (String × Option String)) :
    s.after (xs ++ ys) = (s.after xs).after ys := List.foldl_append

theorem registerSources_after {xs : List (String × Option String)} (h : ∀ x ∈ xs, Source.parses x.1 = true)
    (s : Symbols) : ∃ hs, s.registerSources xs = .ok (hs, s.after xs) := by
  induction xs generalizing s with
  | nil => exact ⟨[], rfl⟩
  | cons x rest ih =>
    obtain ⟨u, hu⟩ := Source.read_of_parses (h x List.mem_cons_self)
    obtain ⟨ks, hrest⟩ := ih (fun y hy => h y (List.mem_cons_of_mem _ hy))
      (s.registerAll (Source.handlesOf u s.find? x.2))
    rw [after_cons, typesOf_of_read hu]
    exact ⟨_, registerSources_cons hu hrest⟩

/-- No two types that the sources declare have the same simple name. -/
def Distinct (xs : List (String × Option String)) : Prop := (xs.flatMap fun x => Source.typeNames x.1).Nodup

section Distinct

variable {x : String × Option String} {xs b a : List (String × Option String)} {name : String}

theorem Distinct.before (h : Distinct (b ++ a)) : Distinct b := by
  unfold Distinct at h ⊢
  rw [List.flatMap_append, List.nodup_append] at h
  exact h.1

theorem Distinct.alone (h : Distinct (b ++ x :: a)) :
    (Source.typeNames x.1).Nodup ∧
      ∀ name ∈ Source.typeNames x.1, (∀ y ∈ b, name ∉ Source.typeNames y.1) ∧ ∀ y ∈ a, name ∉ Source.typeNames y.1 := by
  unfold Distinct at h
  rw [List.flatMap_append, List.flatMap_cons, List.nodup_append, List.nodup_append] at h
  obtain ⟨-, ⟨hx, -, hafter⟩, hbefore⟩ := h
  refine ⟨hx, fun name hname => ⟨fun y hy hdeclared => ?_, fun y hy hdeclared => ?_⟩⟩
  · exact hbefore name (List.mem_flatMap.2 ⟨y, hy, hdeclared⟩) name (List.mem_append_left _ hname) rfl
  · exact hafter name hname name (List.mem_flatMap.2 ⟨y, hy, hdeclared⟩) rfl

theorem bucket_after_of_not_mem (h : ∀ x ∈ xs, name ∉ Source.typeNames x.1) (s : Symbols) :
    (s.after xs).bucket name = s.bucket name := by
  induction xs generalizing s with
  | nil => rfl
  | cons x rest ih =>
    have hne : ∀ k ∈ typesOf s.find? x, k.name ≠ name := by
      intro k hk hkn
      refine h x List.mem_cons_self ?_
      rw [← names_typesOf s.find?]
      exact List.mem_map.2 ⟨k, hk, hkn⟩
    rw [after_cons, ih (fun y hy => h y (List.mem_cons_of_mem _ hy)), bucket_registerAll_of_ne hne]

/-- Under the name of a type stands what stood there at first, and the type as it was read against the
sources before its own. -/
theorem bucket_after (hd : Distinct (b ++ x :: a)) {u : SourceUnit} (hu : SourceUnit.read x.1 = .ok u)
    {d : DeclHead} (hmem : d ∈ Source.headsOf u.types) (s : Symbols) :
    (s.after (b ++ x :: a)).bucket d.name =
      enter (Source.handleOf (Source.Scope.of u) (s.after b).find? x.2 d) (s.bucket d.name) := by
  obtain ⟨hnodup, hothers⟩ := hd.alone
  obtain ⟨hbefore, hafter⟩ := hothers d.name (Source.mem_typeNames.2 ⟨u, hu, d, hmem, rfl⟩)
  have hh : Source.handleOf (Source.Scope.of u) (s.after b).find? x.2 d ∈ typesOf (s.after b).find? x := by
    rw [typesOf_of_read hu]
    exact List.mem_map_of_mem hmem
  rw [← names_typesOf (s.after b).find?] at hnodup
  -- No source before its own and none after it touches the name.
  rw [after_append, after_cons, bucket_after_of_not_mem hafter,
    ← bucket_after_of_not_mem hbefore s]
  exact bucket_registerAll hnodup hh (s.after b)

end Distinct

/-- A source declares a type that a name stands for. -/
def names (name : String) (x : String × Option String) : Bool :=
  (Wanted.of? name).any fun w => (SourceUnit.read x.1).toOption.any fun u =>
    w.package.all (· == u.packageName) && (Source.headsOf u.types).any (·.name == w.name)

/-- A source has a field whose type is looked up by a name for a type that another source declares. -/
def refers (x y : String × Option String) : Bool :=
  (SourceUnit.read x.1).toOption.any fun u => (Source.headsOf u.types).any fun d => d.fields.any fun f =>
    !f.isStatic && (Source.soughtName? (Source.Scope.of u) d f.type).any (names · y)

section Lookup

variable {u : SourceUnit} {d : DeclHead} {w : Wanted} {name : String} {x y : String × Option String}
  {xs ys a b : List (String × Option String)}

theorem names_iff :
    names name x = true ↔ ∃ w, Wanted.of? name = some w ∧ ∃ u, SourceUnit.read x.1 = .ok u ∧
      w.package.all (· == u.packageName) = true ∧ ∃ d ∈ Source.headsOf u.types, d.name = w.name := by
  unfold names
  simp only [Option.any_eq_true, Bool.and_eq_true, List.any_eq_true, beq_iff_eq]
  cases SourceUnit.read x.1 <;> simp [Except.toOption]

theorem names_or_none (name : String) (xs : List (String × Option String)) :
    (∃ x ∈ xs, names name x = true) ∨ ∀ x ∈ xs, names name x = false := by
  by_cases h : ∃ x ∈ xs, names name x = true
  · exact .inl h
  · exact .inr fun x hx => Bool.eq_false_iff.2 fun hname => h ⟨x, hx, hname⟩

theorem refers_of_mem {f : FieldDecl} (hu : SourceUnit.read x.1 = .ok u) (hd : d ∈ Source.headsOf u.types)
    (hf : f ∈ d.fields) (hstatic : f.isStatic = false)
    (hsought : Source.soughtName? (Source.Scope.of u) d f.type = some name) (hy : names name y = true) :
    refers x y = true := by
  have hfield : (!f.isStatic && (Source.soughtName? (Source.Scope.of u) d f.type).any (names · y)) = true := by
    rw [hstatic, hsought, Bool.not_false, Bool.true_and, Option.any_some]
    exact hy
  simp only [refers, hu, Except.toOption, Option.any_some, List.any_eq_true]
  exact ⟨d, hd, f, hf, hfield⟩

theorem find?_after_of_mem (hd : Distinct (b ++ x :: a)) (hu : SourceUnit.read x.1 = .ok u)
    (hmem : d ∈ Source.headsOf u.types) (hw : Wanted.of? name = some w) (hn : d.name = w.name) (s : Symbols) :
    (s.after (b ++ x :: a)).find? name =
      (enter (Source.handleOf (Source.Scope.of u) (s.after b).find? x.2 d) (s.bucket w.name)).find? w.fits := by
  rw [find?_of_wanted hw, ← hn, bucket_after hd hu hmem]

/-- Sources leave alone what a name stands for unless one of them declares a type for it. -/
theorem find?_after_of_not_names (hd : Distinct xs) (h : ∀ x ∈ xs, names name x = false) (s : Symbols) :
    (s.after xs).find? name = s.find? name := by
  cases hw : Wanted.of? name with
  | none =>
    unfold find? findWhere?
    rw [hw]
    rfl
  | some w =>
    rw [find?_of_wanted hw s]
    -- A type of that simple name may still come, in a package that the name does not ask for.
    by_cases hdeclared : ∃ x ∈ xs, w.name ∈ Source.typeNames x.1
    · obtain ⟨x, hx, hname⟩ := hdeclared
      obtain ⟨u, hu, d, hmem, hn⟩ := Source.mem_typeNames.1 hname
      obtain ⟨b, a, rfl⟩ := List.append_of_mem hx
      rw [find?_after_of_mem hd hu hmem hw hn]
      refine find?_enter_of_not_fits (Bool.eq_false_iff.2 fun hfits => ?_)
      exact Bool.eq_false_iff.1 (h x hx) (names_iff.2 ⟨w, hw, u, hu, hfits, d, hmem, hn⟩)
    · rw [find?_of_wanted hw, bucket_after_of_not_mem fun x hx hname => hdeclared ⟨x, hx, hname⟩]

/-- Up to the types of fields a name stands for the same in two tables if the same sources declare types
for it. -/
theorem find?_after_untyped (hxs : Distinct xs) (hys : Distinct ys)
    (hsame : ∀ x, names name x = true → (x ∈ xs ↔ x ∈ ys)) (s : Symbols) :
    ((s.after xs).find? name).map Handle.untyped = ((s.after ys).find? name).map Handle.untyped := by
  rcases names_or_none name xs with ⟨x, hx, hname⟩ | hnone
  · have hy : x ∈ ys := (hsame x hname).1 hx
    obtain ⟨w, hw, u, hu, -, d, hmem, hn⟩ := names_iff.1 hname
    obtain ⟨b, a, rfl⟩ := List.append_of_mem hx
    obtain ⟨b', a', rfl⟩ := List.append_of_mem hy
    rw [find?_after_of_mem hxs hu hmem hw hn, find?_after_of_mem hys hu hmem hw hn]
    exact find?_enter_untyped Source.untyped_handleOf
  · have hnone' : ∀ x ∈ ys, names name x = false := fun x hx =>
      Bool.eq_false_iff.2 fun hname => Bool.eq_false_iff.1 (hnone x ((hsame x hname).2 hx)) hname
    rw [find?_after_of_not_names hxs hnone, find?_after_of_not_names hys hnone']

theorem sublist_pair (hd : Distinct (b ++ x :: a)) (hx : Source.typeNames x.1 ≠ []) :
    List.Sublist [y, x] (b ++ x :: a) ↔ y ∈ b := by
  obtain ⟨name, hname⟩ := List.exists_mem_of_ne_nil _ hx
  have hafter : x ∉ a := fun h => ((hd.alone.2 name hname).2 x h) hname
  rw [List.cons_sublist_iff]
  constructor
  · rintro ⟨r, r', happend, hy, hrest⟩
    have hmem : x ∈ r' := List.singleton_sublist.1 hrest
    rcases List.append_eq_append_iff.1 happend with ⟨c, rfl, hc⟩ | ⟨c, rfl, -⟩
    · cases c with
      | nil => rwa [List.append_nil] at hy
      | cons z c =>
        obtain ⟨-, rfl⟩ := List.cons.inj hc
        exact absurd (List.mem_append_right _ hmem) hafter
    · exact List.mem_append_left _ hy
  · intro hy
    exact ⟨b, x :: a, rfl, hy, List.singleton_sublist.2 List.mem_cons_self⟩

/-- A name stands for the same in two tables if the source that declares a type for it came, in both orders,
behind the same of the sources that it refers to. -/
theorem find?_after_eq (hxs : Distinct xs) (hys : Distinct ys) (hperm : xs.Perm ys)
    (horder : ∀ x ∈ xs, names name x = true → ∀ y ∈ xs, refers x y = true →
      (List.Sublist [y, x] xs ↔ List.Sublist [y, x] ys))
    (s : Symbols) : (s.after xs).find? name = (s.after ys).find? name := by
  rcases names_or_none name xs with ⟨x, hx, hname⟩ | hnone
  · have hbefore := horder x hx hname
    obtain ⟨w, hw, u, hu, -, d, hmem, hn⟩ := names_iff.1 hname
    have hdeclares : Source.typeNames x.1 ≠ [] :=
      List.ne_nil_of_mem (Source.mem_typeNames.2 ⟨u, hu, d, hmem, rfl⟩)
    obtain ⟨b, a, rfl⟩ := List.append_of_mem hx
    obtain ⟨b', a', rfl⟩ := List.append_of_mem (hperm.mem_iff.1 hx)
    -- Both times the source was read against tables that agree on all names that its fields look up.
    have hhandle : Source.handleOf (Source.Scope.of u) (s.after b).find? x.2 d =
        Source.handleOf (Source.Scope.of u) (s.after b').find? x.2 d := by
      refine Source.handleOf_congr fun f hf hstatic sought hsought => ?_
      refine find?_after_untyped hxs.before hys.before (fun y hy => ?_) s
      by_cases hmemy : y ∈ b ++ x :: a
      · have hsub := hbefore y hmemy (refers_of_mem hu hmem hf hstatic hsought hy)
        rwa [sublist_pair hxs hdeclares, sublist_pair hys hdeclares] at hsub
      · exact iff_of_false (fun h => hmemy (List.mem_append_left _ h))
          fun h => hmemy (hperm.mem_iff.2 (List.mem_append_left _ h))
    rw [find?_after_of_mem hxs hu hmem hw hn, find?_after_of_mem hys hu hmem hw hn, hhandle]
  · have hnone' : ∀ x ∈ ys, names name x = false := fun x hx => hnone x (hperm.mem_iff.2 hx)
    rw [find?_after_of_not_names hxs hnone, find?_after_of_not_names hys hnone']

end Lookup

/-- Sources that declare types of different names enter the table in every order. Up to the types of fields
the tables are the same. A name stands for the very same class in both tables if the source of this class
came, in both orders, behind the same of those that it refers to. -/
theorem registration_order {xs ys : List (String × Option String)} (hperm : xs.Perm ys)
    (hparses : ∀ x ∈ xs, Source.parses x.1 = true) (hdistinct : Distinct xs) (s : Symbols) :
    ∃ hs tx ks ty, s.registerSources xs = .ok (hs, tx) ∧ s.registerSources ys = .ok (ks, ty) ∧
      ∀ name, (tx.find? name).map Handle.untyped = (ty.find? name).map Handle.untyped ∧
        ((∀ x ∈ xs, names name x = true → ∀ y ∈ xs, refers x y = true →
            (List.Sublist [y, x] xs ↔ List.Sublist [y, x] ys)) →
          tx.find? name = ty.find? name) := by
  have hdistinct' : Distinct ys := (hperm.flatMap_right _).nodup_iff.1 hdistinct
  have hparses' : ∀ y ∈ ys, Source.parses y.1 = true := fun y hy => hparses y (hperm.mem_iff.2 hy)
  obtain ⟨hs, hhs⟩ := registerSources_after hparses s
  obtain ⟨ks, hks⟩ := registerSources_after hparses' s
  refine ⟨hs, s.after xs, ks, s.after ys, hhs, hks, fun name => ⟨?_, ?_⟩⟩
  · exact find?_after_untyped hdistinct hdistinct' (fun x _ => hperm.mem_iff) s
  · intro horder
    exact find?_after_eq hdistinct hdistinct' hperm horder s

section Sample

def enumSource : String × Option String := ("package p; enum B { X }", none)

def fieldSource : String × Option String := ("package p; class A { B b; }", none)

def outerSource : String × Option String := ("package p; class C { A a; }", none)

/-- The class behind the enum that it refers to is the same in both orders; the other one is not. -/
theorem registration_order_sample :
    Distinct [enumSource, fieldSource, outerSource] ∧
      ∃ hs tx ks ty, registerSources {} [enumSource, fieldSource, outerSource] = .ok (hs, tx) ∧
        registerSources {} [enumSource, outerSource, fieldSource] = .ok (ks, ty) ∧
        tx.find? "p.A" = ty.find? "p.A" ∧
        (tx.find? "p.C").map Handle.untyped = (ty.find? "p.C").map Handle.untyped := by
  have hdistinct : Distinct [enumSource, fieldSource, outerSource] := by
    unfold Distinct
    decide +kernel
  have hperm : [enumSource, fieldSource, outerSource].Perm [enumSource, outerSource, fieldSource] := by
    decide +kernel
  obtain ⟨hs, tx, ks, ty, hhs, hks, hfound⟩ := registration_order hperm (by decide +kernel) hdistinct {}
  exact ⟨hdistinct, hs, tx, ks, ty, hhs, hks, (hfound "p.A").2 (by decide +kernel), (hfound "p.C").1⟩

/-- What is known of the types of the fields of a class once some sources are registered. -/
def knownTypes (name : String) (xs : List (String × Option String)) : Option (List (Bool × Option String)) :=
  ((registerSources {} xs).toOption.bind (·.2.find? name)).map fun h =>
    h.fields.map fun f => (f.isEnum, f.qualifiedType)

/-- A field of an enum whose source comes later is no enum field. -/
theorem knownTypes_forward :
    Distinct [fieldSource, enumSource] ∧ knownTypes "p.A" [fieldSource, enumSource] = some [(false, none)] ∧
      knownTypes "p.A" [enumSource, fieldSource] = some [(true, some "p.B")] := by
  unfold Distinct
  decide +kernel

end Sample

end Symbols

end Scaffold
