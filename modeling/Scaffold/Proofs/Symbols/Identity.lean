import Scaffold.Proofs.Java.Declared
import Scaffold.Proofs.Symbols.History
import Scaffold.Proofs.Symbols.Order

/-! Under which names the types of a source are found once it is registered. Types at every depth share the simple
names of their package, while an enum that is declared in a class is named by this class where a field has it for
its type. -/

namespace Scaffold

open Scaffold.Java

theorem qualify_ne {package name : String} (h : name ≠ "") : qualify package name ≠ package := by
  intro heq
  unfold qualify at heq
  by_cases hp : package.isEmpty = true
  · rw [if_pos hp] at heq
    exact h (heq.trans (String.isEmpty_iff.1 hp))
  · rw [if_neg hp] at heq
    have hlength := congrArg String.length heq
    rw [String.length_append, String.length_append] at hlength
    have hdot : ".".length = 1 := rfl
    omega

namespace Source

variable {u : SourceUnit} {lookup : Lookup} {path : Option String}

theorem handlesOf_eq (u : SourceUnit) (lookup : Lookup) (path : Option String) :
    handlesOf u lookup path = (declarationsOf u.types).map fun d => handleOf (Scope.of u) lookup path d.head := by
  unfold handlesOf
  rw [headsOf_eq, List.map_map]
  rfl

theorem mem_fieldsOf {s : Scope} {owner : DeclHead} {f : FieldDecl} (hf : f ∈ owner.fields)
    (hstatic : f.isStatic = false) {field : Entity.Field} (h : field ∈ declaredFields s owner lookup f) :
    field ∈ fieldsOf s lookup owner :=
  List.mem_flatMap.2 ⟨f, List.mem_filter.2 ⟨hf, by rw [hstatic]; rfl⟩, h⟩

theorem declaredFields_enum {s : Scope} {owner : DeclHead} {f : FieldDecl} {field : Entity.Field}
    (henum : f.type.path.lastName ∈ owner.enums) (h : field ∈ declaredFields s owner lookup f) :
    field.isEnum = true ∧
      field.qualifiedType = (f.type.path.qualified?.or (s.imported? f.type.path.lastName)).or
        (some (qualify s.package owner.name ++ "." ++ f.type.path.lastName)) := by
  have htype : fieldType s owner lookup f.type =
      { qualified := (f.type.path.qualified?.or (s.imported? f.type.path.lastName)).or
          (some (qualify s.package owner.name ++ "." ++ f.type.path.lastName)), isEnum := true } := by
    unfold fieldType
    rw [if_pos (List.contains_iff_mem.2 henum)]
  obtain ⟨name, -, rfl⟩ := List.mem_map.1 h
  rw [htype]
  exact ⟨rfl, rfl⟩

end Source

namespace Symbols

variable {s : Symbols} {hs : List Handle} {h : Handle} {package name : String}

/-- The last of some classes with a simple name. -/
def lastNamed (hs : List Handle) (name : String) : Option Handle := (hs.filter (·.name == name)).getLast?

theorem enter_enter {k : Handle} (hpackage : k.package = h.package) (bucket : List Handle) :
    enter h (enter k bucket) = enter h bucket := by
  unfold enter
  rw [List.filter_append, List.filter_filter]
  simp [hpackage]

theorem bucket_registerAll_package (hp : ∀ k ∈ hs, k.package = package) (s : Symbols) (name : String) :
    (s.registerAll hs).bucket name = (lastNamed hs name).elim (s.bucket name) (enter · (s.bucket name)) := by
  induction hs using List.reverseRecOn with
  | nil => rfl
  | append_singleton hs h ih =>
    have hbucket := ih fun k hk => hp k (List.mem_append_left _ hk)
    rw [registerAll_append]
    change ((s.registerAll hs).register h).bucket name = _
    by_cases hname : h.name = name
    · have hlast : lastNamed (hs ++ [h]) name = some h := by
        unfold lastNamed
        simp [hname]
      rw [bucket_register_self hname, hbucket, hlast]
      cases hk : lastNamed hs name with
      | none => rfl
      | some k =>
        -- The class that went in before it has the same package, so it is taken out again.
        have hmem : k ∈ hs := (List.mem_filter.1 (List.mem_of_getLast? hk)).1
        have hsame : k.package = h.package :=
          (hp k (List.mem_append_left _ hmem)).trans (hp h (List.mem_append_right _ (List.mem_singleton_self h))).symm
        exact enter_enter hsame _
    · have hlast : lastNamed (hs ++ [h]) name = lastNamed hs name := by
        unfold lastNamed
        simp [hname]
      rw [bucket_register_of_ne hname, hbucket, hlast]

theorem lastNamed_isSome (hh : h ∈ hs) : ∃ last, lastNamed hs h.name = some last ∧ last ∈ hs := by
  have hne : hs.filter (·.name == h.name) ≠ [] :=
    List.ne_nil_of_mem (List.mem_filter.2 ⟨hh, beq_self_eq_true _⟩)
  exact ⟨_, List.getLast?_eq_some_getLast hne, (List.mem_filter.1 (List.getLast_mem hne)).1⟩

theorem find?_registerAll_qualified {text : String} (hw : Wanted.of? text = some ⟨some package, h.name⟩)
    (hp : ∀ k ∈ hs, k.package = package) (hh : h ∈ hs) (s : Symbols) :
    (s.registerAll hs).find? text = lastNamed hs h.name := by
  obtain ⟨last, hlast, hmem⟩ := lastNamed_isSome hh
  have hfits : Wanted.fits ⟨some package, h.name⟩ last = true :=
    beq_iff_eq.2 (hp last hmem).symm
  have hothers : ((s.bucket h.name).filter (·.package != last.package)).find?
      (Wanted.fits ⟨some package, h.name⟩) = none := by
    rw [List.find?_eq_none]
    intro k hk hkp
    have hne := (List.mem_filter.1 hk).2
    rw [bne_iff_ne, hp last hmem] at hne
    exact hne (beq_iff_eq.1 hkp).symm
  rw [find?_of_wanted hw, bucket_registerAll_package hp, hlast, Option.elim_some, find?_enter, hothers, if_pos hfits,
    Option.none_or]

/-- Without a package a class of its name in some package that was there before goes first. -/
theorem find?_registerAll_simple (hw : Simple h.name) (hp : ∀ k ∈ hs, k.package = "") (hh : h ∈ hs) (s : Symbols) :
    (s.registerAll hs).find? h.name = (s.findWhere? (·.package != "") h.name).or (lastNamed hs h.name) := by
  obtain ⟨last, hlast, hmem⟩ := lastNamed_isSome hh
  have hfits : ∀ k, Wanted.fits ⟨none, h.name⟩ k = true := fun _ => rfl
  rw [find?_of_wanted hw, bucket_registerAll_package hp, hlast, Option.elim_some, find?_enter, hp last hmem,
    List.find?_filter, findWhere?_simple hw]
  simp only [hfits, and_true, Bool.decide_eq_true, if_true]

theorem find?_registerAll_other {text : String} {w : Wanted} (hw : Wanted.of? text = some w)
    (hp : ∀ k ∈ hs, k.package = package) (hne : w.package.all (· == package) = false) (s : Symbols) :
    (s.registerAll hs).find? text = s.find? text := by
  rw [find?_of_wanted hw, find?_of_wanted hw, bucket_registerAll_package hp]
  cases hlast : lastNamed hs w.name with
  | none => rfl
  | some last =>
    have hmem : last ∈ hs := (List.mem_filter.1 (List.mem_of_getLast? hlast)).1
    refine find?_enter_of_not_fits ?_
    unfold Wanted.fits
    rw [hp last hmem, hne]

section Sources

variable {source : String} {u : SourceUnit}

theorem wanted_qualified (hpackage : ∀ c ∈ package.toList, Text.isBlank c = false) (hname : IsIdentifier name) :
    Wanted.of? (package ++ "." ++ name) = some ⟨some package, name⟩ := by
  refine wanted_of_qualified (Text.trim_of_not_blank fun c hc => ?_) hname.dot_not_mem
  rw [String.toList_append, String.toList_append, List.mem_append, List.mem_append] at hc
  rcases hc with (hc | hc) | hc
  · exact hpackage c hc
  · rw [List.mem_singleton.1 hc]
    rfl
  · exact hname.not_blank c hc

theorem simple_of_identifier (hname : IsIdentifier name) : Simple name := by
  have htrim := Text.trim_of_not_blank hname.not_blank
  have hne : Text.trim name ≠ "" := htrim.symm ▸ hname.ne
  have hdot : '.' ∉ (Text.trim name).toList := htrim.symm ▸ hname.dot_not_mem
  have hwanted := wanted_of_simple hne hdot
  rwa [htrim] at hwanted

theorem not_blank_qualify (hpackage : ∀ c ∈ package.toList, Text.isBlank c = false) (hname : IsIdentifier name) :
    ∀ c ∈ (qualify package name).toList, Text.isBlank c = false := by
  intro c hc
  unfold qualify at hc
  by_cases hempty : package.isEmpty = true
  · rw [if_pos hempty] at hc
    exact hname.not_blank c hc
  · rw [if_neg hempty, String.toList_append, String.toList_append, List.mem_append, List.mem_append] at hc
    rcases hc with (hc | hc) | hc
    · exact hpackage c hc
    · rw [List.mem_singleton.1 hc]
      rfl
    · exact hname.not_blank c hc

theorem not_blank_packageName (h : ∀ name, u.package = some name → IsPackage name) :
    ∀ c ∈ u.packageName.toList, Text.isBlank c = false := by
  unfold SourceUnit.packageName
  cases hp : u.package with
  | none => exact fun c hc => absurd hc List.not_mem_nil
  | some name => exact (h name hp).not_blank

/-- Once a source is registered, the qualified name of each of its types finds the last of its types that has the
simple name; without a package a class of this name that another package had before goes first. A field whose type
is an enum declared in its class is an enum field. Unless the type is written with a qualifier or imported, it is
named by the class, which is no name of the enum in the table: what it finds, it found before. -/
theorem declared_types_found (hu : SourceUnit.read source = .ok u) (s : Symbols) (path : Option String) :
    ∃ hs t, s.registerSource source path = .ok (hs, t) ∧
      hs = (declarationsOf u.types).map (fun d => Source.handleOf (Source.Scope.of u) s.find? path d.head) ∧
      (∀ h ∈ hs, t.find? h.qualifiedName =
        if u.packageName = "" then (s.findWhere? (·.package != "") h.name).or (lastNamed hs h.name)
        else lastNamed hs h.name) ∧
      ∀ d ∈ declarationsOf u.types, ∀ e ∈ declarations d, e.head.kind = .enum →
        Source.handleOf (Source.Scope.of u) s.find? path e.head ∈ hs ∧
        ∀ f ∈ d.head.fields, f.isStatic = false → f.type.path.lastName = e.head.name →
          t.find? (qualify u.packageName d.head.name ++ "." ++ e.head.name) =
              s.find? (qualify u.packageName d.head.name ++ "." ++ e.head.name) ∧
            ∀ field ∈ Source.declaredFields (Source.Scope.of u) d.head s.find? f,
              field ∈ (Source.handleOf (Source.Scope.of u) s.find? path d.head).fields ∧ field.isEnum = true ∧
                field.qualifiedType =
                  (f.type.path.qualified?.or ((Source.Scope.of u).imported? e.head.name)).or
                    (some (qualify u.packageName d.head.name ++ "." ++ e.head.name)) := by
  obtain ⟨hpackage, hnamed⟩ := read_named hu
  have hblank := not_blank_packageName hpackage
  have hhandle : ∀ h ∈ Source.handlesOf u s.find? path, h.package = u.packageName ∧ IsIdentifier h.name := by
    intro h hh
    rw [Source.handlesOf_eq] at hh
    obtain ⟨d, hd, rfl⟩ := List.mem_map.1 hh
    exact ⟨rfl, (hnamed d hd).name⟩
  have hpackages := fun h hh => (hhandle h hh).1
  refine ⟨_, _, registerSource_of_read hu, Source.handlesOf_eq u s.find? path, fun h hh => ?found, ?enums⟩
  case found =>
    have hname := (hhandle h hh).2
    unfold Handle.qualifiedName qualify
    rw [hpackages h hh]
    by_cases hempty : u.packageName = ""
    · rw [if_pos hempty, if_pos (String.isEmpty_iff.2 hempty)]
      exact find?_registerAll_simple (simple_of_identifier hname) (fun k hk => (hpackages k hk).trans hempty) hh s
    · rw [if_neg hempty, if_neg fun h => hempty (String.isEmpty_iff.1 h)]
      exact find?_registerAll_qualified (wanted_qualified hblank hname) hpackages hh s
  case enums =>
    intro d hd e he hkind
    have howner := (hnamed d hd).name
    have hmember := declarationsOf_trans hd he
    refine ⟨Source.handlesOf_eq u s.find? path ▸ List.mem_map_of_mem hmember, fun f hf hstatic htype => ?_⟩
    have henum : f.type.path.lastName ∈ d.head.enums := by
      rw [htype]
      exact (hnamed d hd).enums (mem_enumNames.2 ⟨e, he, hkind, rfl⟩)
    refine ⟨?_, fun field hfield => ?_⟩
    · -- As a text this name asks for the package that is called like the class, and no type of the source is in it.
      refine find?_registerAll_other (wanted_qualified (not_blank_qualify hblank howner) (hnamed e hmember).name)
        hpackages ?_ s
      exact beq_eq_false_iff_ne.2 (qualify_ne howner.ne)
    · rw [← htype]
      exact ⟨Source.mem_fieldsOf hf hstatic hfield, Source.declaredFields_enum henum hfield⟩

end Sources

section Sample

/-- A class with a field of an enum that is declared in it. -/
def enumInside : String := "package p; class A { E e; enum E { X } }"

/-- Two classes with a nested class of the same name. -/
def namesakes : String := "package p; class A { class X { int a; } } class B { class X { } }"

theorem declared_types_found_sample :
    ∃ u, SourceUnit.read enumInside = .ok u ∧ ∃ hs t, registerSource {} enumInside none = .ok (hs, t) ∧
      ∀ h ∈ hs, t.find? h.qualifiedName = lastNamed hs h.name := by
  obtain ⟨u, hu⟩ := Source.read_of_parses (show Source.parses enumInside = true by decide +kernel)
  have hpackage : (SourceUnit.read enumInside).toOption.map SourceUnit.packageName = some "p" := by decide +kernel
  rw [hu] at hpackage
  have hne : u.packageName ≠ "" := by
    rw [Option.some.inj hpackage]
    decide
  obtain ⟨hs, t, hregistered, -, hfound, -⟩ := declared_types_found hu {} none
  exact ⟨u, hu, hs, t, hregistered, fun h hh => by rw [hfound h hh, if_neg hne]⟩

/-- The first of two nested classes of one name is not found, nor is an enum under the name that a field has for it. -/
theorem nested_types_lost :
    ((registerSource {} namesakes none).toOption.map fun (hs, t) =>
        hs.map fun h => (h.qualifiedName, t.find? h.qualifiedName == some h)) =
      some [("p.A", true), ("p.X", false), ("p.B", true), ("p.X", true)] ∧
    ((registerSource {} enumInside none).toOption.map fun (hs, t) =>
        (hs.map Handle.qualifiedName, hs.flatMap fun h => h.fields.map fun f =>
          (f.isEnum, f.qualifiedType, f.qualifiedType.bind t.find?))) =
      some (["p.A", "p.E"], [(true, some "p.A.E", none)]) := by
  decide +kernel

end Sample

end Symbols

end Scaffold
