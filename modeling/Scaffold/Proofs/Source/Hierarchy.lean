import Mathlib.Data.List.Nodup
import Scaffold.Source.Entity

/-! The way up from a class. Superclasses are followed by name as far as they are found. What they are looked up in may
lead in circles, but no simple name is followed twice. The fields of the classes that were found are the inherited
ones, those of the outermost class first. -/

namespace Scaffold.Source

open Scaffold.Text

/-- The name under which a superclass is looked up: as it is written if that is qualified, else as it is imported. -/
def Scope.sought (s : Scope) (name : String) : String :=
  if contains name "." then name else (s.imported? name).getD name

/-- Looking up with something that may be missing. -/
def lookupWith (resolver : Option Lookup) : Lookup := fun name => resolver.bind fun find => find name

/-- The names that are followed from a first one, and the classes that are found under them. At most the last name
leads nowhere. -/
inductive Ascends (s : Scope) (lookup : Lookup) : Option String → List String → List Handle → Prop
  | stop (start : Option String) : Ascends s lookup start [] []
  | lost {name : String} (missing : lookup (s.sought name) = none) : Ascends s lookup (some name) [name] []
  | step {name : String} {c : Handle} {names : List String} {classes : List Handle}
      (found : lookup (s.sought name) = some c) (rest : Ascends s lookup c.superclass names classes) :
      Ascends s lookup (some name) (name :: names) (c :: classes)

/-- The name that comes behind the classes that were found. -/
def onward (start : Option String) : List Handle → Option String
  | [] => start
  | c :: classes => onward c.superclass classes

namespace Ascends

variable {s : Scope} {lookup : Lookup} {start : Option String} {names : List String} {classes : List Handle}

theorem head (h : Ascends s lookup start names classes) {name : String} (hname : names.head? = some name) :
    start = some name := by
  cases h with
  | stop => exact nomatch hname
  | lost => exact hname
  | step => exact hname

theorem found (h : Ascends s lookup start names classes) {i : Nat} {c : Handle} (hc : classes[i]? = some c) :
    ∃ name, names[i]? = some name ∧ lookup (s.sought name) = some c := by
  induction h generalizing i with
  | stop => exact nomatch hc
  | lost => exact nomatch hc
  | @step name _ _ _ hfound _ ih =>
    cases i with
    | zero =>
      cases hc
      exact ⟨name, rfl, hfound⟩
    | succ i => exact ih hc

theorem mem (h : Ascends s lookup start names classes) {c : Handle} (hc : c ∈ classes) :
    ∃ name, lookup (s.sought name) = some c := by
  obtain ⟨i, hi⟩ := List.mem_iff_getElem?.1 hc
  obtain ⟨name, -, hfound⟩ := h.found hi
  exact ⟨name, hfound⟩

/-- Each name behind the first is the superclass of the class before it. -/
theorem superclass (h : Ascends s lookup start names classes) {i : Nat} {c : Handle} {name : String}
    (hc : classes[i]? = some c) (hname : names[i + 1]? = some name) : c.superclass = some name := by
  induction h generalizing i with
  | stop => exact nomatch hc
  | lost => exact nomatch hc
  | step _ rest ih =>
    cases i with
    | zero =>
      cases hc
      exact rest.head (List.head?_eq_getElem?.trans hname)
    | succ i => exact ih hc hname

theorem length (h : Ascends s lookup start names classes) :
    classes.length = names.length ∨ classes.length + 1 = names.length := by
  induction h with
  | stop => exact .inl rfl
  | lost => exact .inr rfl
  | step _ _ ih => simpa only [List.length_cons, Nat.add_right_cancel_iff] using ih

theorem lost_iff (h : Ascends s lookup start names classes) :
    classes.length + 1 = names.length ↔ ∃ last, names.getLast? = some last ∧ lookup (s.sought last) = none := by
  induction h with
  | stop => simp
  | lost hmissing => simpa using hmissing
  | @step name c names classes hfound rest ih =>
    have hlength : (c :: classes).length + 1 = (name :: names).length ↔ classes.length + 1 = names.length := by
      simp only [List.length_cons, Nat.add_right_cancel_iff]
    rw [hlength, ih]
    cases names with
    | nil => simp [hfound]
    | cons next names => rw [List.getLast?_cons_cons]

end Ascends

variable {s : Scope} {lookup : Lookup}

/-- The walk goes up, follows no simple name again, and ends where no name is left that it could follow. -/
theorem ancestors_ascends (s : Scope) (lookup : Lookup) (depth : Nat) (seen : List String) (start : Option String) :
    ∃ names classes,
      ancestors s lookup depth seen start = (names.map lastSegment, classes.map (·.fields)) ∧
      Ascends s lookup start names classes ∧ names.length ≤ depth ∧
      (names.map lastSegment).Nodup ∧ (∀ x ∈ names.map lastSegment, x ∉ seen) ∧
      (classes.length = names.length → names.length < depth → ∀ next, onward start classes = some next →
        next = "" ∨ lastSegment next ∈ seen ∨ lastSegment next ∈ names.map lastSegment) := by
  induction depth generalizing seen start with
  | zero =>
    refine ⟨[], [], by rw [ancestors]; rfl, .stop start, Nat.le_refl 0, List.nodup_nil, List.forall_mem_nil _, ?_⟩
    exact fun _ hlt => absurd hlt (Nat.not_lt_zero _)
  | succ depth ih =>
    cases start with
    | none =>
      have hnone : ancestors s lookup (depth + 1) seen none = ([], []) := by simp only [ancestors]
      refine ⟨[], [], hnone, .stop none, Nat.zero_le _, List.nodup_nil, List.forall_mem_nil _, ?_⟩
      exact fun _ _ next hnext => nomatch hnext
    | some name =>
      rw [ancestors]
      -- No name is left to follow, or its class is not found, or the walk goes on from that class.
      by_cases hend : (name.isEmpty || seen.contains (lastSegment name)) = true
      · rw [if_pos hend]
        refine ⟨[], [], rfl, .stop _, Nat.zero_le _, List.nodup_nil, List.forall_mem_nil _, ?_⟩
        rintro - - next ⟨⟩
        rcases Bool.or_eq_true_iff.1 hend with hempty | hseen
        · exact .inl (String.isEmpty_iff.1 hempty)
        · exact .inr (.inl (List.contains_iff_mem.1 hseen))
      · rw [if_neg hend]
        have hfresh : lastSegment name ∉ seen := fun hmem =>
          hend (Bool.or_eq_true_iff.2 (.inr (List.contains_iff_mem.2 hmem)))
        have hsought : lookup (if contains name "." then name else (s.imported? name).getD name) =
            lookup (s.sought name) := rfl
        rw [hsought]
        cases hfound : lookup (s.sought name) with
        | none =>
          refine ⟨[name], [], rfl, .lost hfound, Nat.le_add_left 1 depth, List.nodup_singleton _, ?_, ?_⟩
          · exact fun x hx => List.mem_singleton.1 hx ▸ hfresh
          · exact fun hlength => nomatch hlength
        | some c =>
          obtain ⟨names, classes, hrest, hup, hlength, hnodup, hapart, hends⟩ :=
            ih (lastSegment name :: seen) c.superclass
          dsimp only
          rw [hrest]
          have hnew : lastSegment name ∉ names.map lastSegment := fun hmem =>
            hapart _ hmem List.mem_cons_self
          refine ⟨name :: names, c :: classes, rfl, .step hfound hup, Nat.succ_le_succ hlength,
            List.nodup_cons.2 ⟨hnew, hnodup⟩, ?_, ?_⟩
          · rw [List.map_cons, List.forall_mem_cons]
            exact ⟨hfresh, fun x hx hmem => hapart x hx (List.mem_cons_of_mem _ hmem)⟩
          · intro hsame hlt next hnext
            rw [List.length_cons, List.length_cons] at hsame
            rw [List.length_cons] at hlt
            have hreason := hends (Nat.succ.inj hsame) (Nat.lt_of_succ_lt_succ hlt) next hnext
            rw [List.mem_cons] at hreason
            rw [List.map_cons, List.mem_cons]
            tauto

/-- The walk up a hierarchy, whatever it is looked up in. It follows at most sixteen names of different simple names.
Every class on the way is what its name stands for, and bears the next name as that of its superclass; only under the
last name there may be no class. If there is one, the walk went as far as it may. The inherited fields are those of
the classes, from the outermost one to the nearest. -/
theorem walk_sound (s : Scope) (resolver : Option Lookup) (start : Option String) :
    ∃ (names : List String) (classes : List Handle),
      (ancestors s (lookupWith resolver) maxDepth [] start).1 = names.map lastSegment ∧
      (names.map lastSegment).Nodup ∧ names.length ≤ 16 ∧
      (∀ name, names.head? = some name → start = some name) ∧
      (∀ (i : Nat) c, classes[i]? = some c →
        ∃ find name, resolver = some find ∧ names[i]? = some name ∧ find (s.sought name) = some c) ∧
      (∀ (i : Nat) c name, classes[i]? = some c → names[i + 1]? = some name → c.superclass = some name) ∧
      (classes.length = names.length ∨ classes.length + 1 = names.length) ∧
      (classes.length + 1 = names.length ↔ ∃ last, names.getLast? = some last ∧
        (resolver = none ∨ ∃ find, resolver = some find ∧ find (s.sought last) = none)) ∧
      (classes.length = names.length → names.length < 16 → ∀ next, onward start classes = some next →
        next = "" ∨ lastSegment next ∈ names.map lastSegment) ∧
      (ancestors s (lookupWith resolver) maxDepth [] start).2.reverse.flatten =
        classes.reverse.flatMap (·.fields) := by
  obtain ⟨names, classes, hwalk, hup, hlength, hnodup, -, hends⟩ :=
    ancestors_ascends s (lookupWith resolver) maxDepth [] start
  have hfields : (classes.map (·.fields)).reverse.flatten = classes.reverse.flatMap (·.fields) := by
    rw [← List.map_reverse, List.flatMap_def]
  have hmissing (name : String) : lookupWith resolver (s.sought name) = none ↔
      resolver = none ∨ ∃ find, resolver = some find ∧ find (s.sought name) = none := by
    cases resolver <;> simp [lookupWith]
  rw [hwalk]
  refine ⟨names, classes, rfl, hnodup, hlength, fun name => hup.head, ?_, fun i c name => hup.superclass, hup.length,
    ?_, ?_, hfields⟩
  · intro i c hc
    obtain ⟨name, hname, hfound⟩ := hup.found hc
    obtain ⟨find, hfind, hc⟩ := Option.bind_eq_some_iff.1 hfound
    exact ⟨find, name, hfind, hname, hc⟩
  · simp only [hup.lost_iff, hmissing]
  · intro hsame hlt next hnext
    exact (hends hsame hlt next hnext).imp_right fun hreason => hreason.resolve_left List.not_mem_nil

/-- Two classes, each the superclass of the other. -/
def cycle (name : String) : Option Handle :=
  if name == "B" then some { name := "B", package := "p", superclass := some "A" }
  else if name == "A" then some { name := "A", package := "p", superclass := some "p.B" }
  else none

example : ancestors ⟨"p", []⟩ cycle maxDepth [] (some "B") = (["B", "A"], [[], []]) := by decide +kernel

section Levels

open Scaffold.Entity (Field)
open Scaffold.Java

variable {e : Entity} {source : String} {classes : List Handle} {name : String}

/-- The field of a name among those that a class declares. -/
def fieldNamed? (name : String) (fields : List Field) : Option Field := fields.find? (·.name == name)

/-- Whether an inherited field is hidden by one of the class itself. -/
def hides (e : Entity) (f : Field) : Bool := e.fields.any (·.name == f.name)

theorem allFields_eq (e : Entity) : e.allFields = (e.inheritedFields.filter fun f => !hides e f) ++ e.fields := rfl

theorem hides_iff {f : Field} : hides e f = true ↔ f.name ∈ e.fields.map (·.name) := by
  simp [hides]

theorem fieldNamed?_isSome_iff {fields : List Field} :
    (fieldNamed? name fields).isSome = true ↔ name ∈ fields.map (·.name) := by
  simp [fieldNamed?, List.find?_isSome]

/-- The fields of one name: those of the class itself, or else the inherited ones. -/
theorem filter_allFields (e : Entity) (name : String) :
    e.allFields.filter (·.name == name) =
      if e.fields.any (·.name == name) then e.fields.filter (·.name == name)
      else e.inheritedFields.filter (·.name == name) := by
  have hnamed {f : Field} (hf : (f.name == name) = true) : hides e f = e.fields.any (·.name == name) := by
    rw [hides, beq_iff_eq.1 hf]
  rw [allFields_eq, List.filter_append, List.filter_filter]
  cases hown : e.fields.any (·.name == name) with
  | true =>
    have hhidden : e.inheritedFields.filter (fun f => f.name == name && !hides e f) = [] := by
      refine List.filter_eq_nil_iff.2 fun f _ hf => ?_
      rw [Bool.and_eq_true, Bool.not_eq_true'] at hf
      exact absurd (hf.2.symm.trans ((hnamed hf.1).trans hown)) Bool.false_ne_true
    rw [hhidden, List.nil_append, if_pos rfl]
  | false =>
    have hnone : e.fields.filter (·.name == name) = [] := by
      refine List.filter_eq_nil_iff.2 fun f hf hname => ?_
      exact absurd (List.any_eq_true.2 ⟨f, hf, hname⟩) (Bool.eq_false_iff.1 hown)
    have hvisible : ∀ f ∈ e.inheritedFields, (f.name == name && !hides e f) = (f.name == name) := by
      intro f _
      cases hf : f.name == name with
      | false => rfl
      | true => rw [hnamed hf, hown]; rfl
    rw [hnone, List.append_nil, List.filter_congr hvisible, if_neg Bool.false_ne_true]

theorem findField?_eq (e : Entity) (name : String) :
    e.findField? name = (fieldNamed? name e.fields).or (fieldNamed? name e.inheritedFields) := by
  have hfirst (fields : List Field) : fieldNamed? name fields = (fields.filter (·.name == name)).head? :=
    List.head?_filter.symm
  have hall : e.findField? name = (e.allFields.filter (·.name == name)).head? := hfirst e.allFields
  rw [hall, filter_allFields]
  cases hown : e.fields.any (·.name == name) with
  | true =>
    have hsome : (fieldNamed? name e.fields).isSome = true := by
      rw [fieldNamed?, List.find?_isSome]
      exact List.any_eq_true.1 hown
    obtain ⟨f, hf⟩ := Option.isSome_iff_exists.1 hsome
    rw [if_pos rfl, ← hfirst, hf, Option.some_or]
  | false =>
    have hnone : fieldNamed? name e.fields = none :=
      List.find?_eq_none.2 fun f hf hname => Bool.eq_false_iff.1 hown (List.any_eq_true.2 ⟨f, hf, hname⟩)
    rw [if_neg Bool.false_ne_true, ← hfirst, hnone, Option.none_or]

theorem mem_visible_iff {fields : List Field} : name ∈ (fields.filter fun f => !hides e f).map (·.name) ↔
    (fieldNamed? name fields).isSome = true ∧ ¬ (fieldNamed? name e.fields).isSome = true := by
  rw [fieldNamed?_isSome_iff, fieldNamed?_isSome_iff]
  constructor
  · intro h
    obtain ⟨f, hf, rfl⟩ := List.mem_map.1 h
    obtain ⟨hf, hvisible⟩ := List.mem_filter.1 hf
    refine ⟨List.mem_map_of_mem hf, fun hown => ?_⟩
    rw [hides_iff.2 hown] at hvisible
    exact absurd hvisible Bool.false_ne_true
  · rintro ⟨hc, hout⟩
    obtain ⟨f, hf, rfl⟩ := List.mem_map.1 hc
    have hvisible : hides e f = false := Bool.eq_false_iff.2 fun h => hout (hides_iff.1 h)
    exact List.mem_map_of_mem (List.mem_filter.2 ⟨hf, by rw [hvisible]; rfl⟩)

/-- No two fields bear one name if two classes above never declare a name that the class itself does not. -/
theorem nodup_allFields_iff (hinherited : e.inheritedFields = classes.reverse.flatMap (·.fields))
    (hown : (e.fields.map (·.name)).Nodup) (hclasses : ∀ c ∈ classes, (c.fields.map (·.name)).Nodup) :
    (e.allFields.map (·.name)).Nodup ↔ classes.Pairwise fun b c => ∀ name,
      (fieldNamed? name b.fields).isSome → (fieldNamed? name c.fields).isSome → (fieldNamed? name e.fields).isSome := by
  have happart : ∀ x ∈ (e.inheritedFields.filter fun f => !hides e f).map (·.name),
      ∀ y ∈ e.fields.map (·.name), x ≠ y := by
    rintro x hx y hy rfl
    exact (mem_visible_iff.1 hx).2 (fieldNamed?_isSome_iff.2 hy)
  have hlayers : (e.inheritedFields.filter fun f => !hides e f).map (·.name) =
      classes.reverse.flatMap fun c => (c.fields.filter fun f => !hides e f).map (·.name) := by
    rw [hinherited, List.filter_flatMap, List.map_flatMap]
  have hsingle : ∀ c ∈ classes.reverse, ((c.fields.filter fun f => !hides e f).map (·.name)).Nodup := fun c hc =>
    (hclasses c (List.mem_reverse.1 hc)).sublist (List.filter_sublist.map _)
  -- Only the visible names of different classes are left to be told apart.
  rw [allFields_eq, List.map_append, List.nodup_append, and_iff_left happart, and_iff_left hown, hlayers,
    List.nodup_flatMap, and_iff_right hsingle, List.pairwise_reverse]
  refine ⟨fun h => h.imp fun {b c} hdisjoint name hb hc => ?_, fun h => h.imp fun {b c} hshared name hc hb => ?_⟩
  · by_contra hout
    exact hdisjoint (mem_visible_iff.2 ⟨hc, hout⟩) (mem_visible_iff.2 ⟨hb, hout⟩)
  · obtain ⟨hb, hout⟩ := mem_visible_iff.1 hb
    exact hout (hshared name hb (mem_visible_iff.1 hc).1)

/-- Where one class at most has something to say, the order of the classes does not matter. -/
theorem findSome?_reverse {α β : Type} {f : α → Option β} {l : List α}
    (h : l.Pairwise fun x y => (f x).isSome = true → f y = none) : l.reverse.findSome? f = l.findSome? f := by
  induction l with
  | nil => rfl
  | cons x r ih =>
    obtain ⟨hx, hr⟩ := List.pairwise_cons.1 h
    rw [List.reverse_cons, List.findSome?_append, ih hr, List.findSome?_cons]
    cases hfx : f x with
    | none => simp [hfx]
    | some b =>
      have hnone : r.findSome? f = none := List.findSome?_eq_none_iff.2 fun y hy => hx y hy (by rw [hfx]; rfl)
      simp [hfx, hnone]

/-- The entity of a source is that of its first class, and its inherited fields are those of the classes above. -/
theorem inherited_of_entity (h : entity source lookup = .ok e) :
    ∃ u d names classes, SourceUnit.read source = .ok u ∧ e = entityOf u lookup d ∧
      Ascends (Scope.of u) lookup (superclassName d) names classes ∧ e.superclasses = names.map lastSegment ∧
      e.inheritedFields = classes.reverse.flatMap (·.fields) := by
  unfold entity at h
  split at h
  · exact nomatch h
  · next u hread =>
    split at h
    · next d _ =>
      cases h
      obtain ⟨names, classes, hwalk, hup, -⟩ :=
        ancestors_ascends (Scope.of u) lookup maxDepth [] (superclassName d)
      refine ⟨u, d, names, classes, hread, rfl, hup, ?_, ?_⟩
      · simp only [entityOf, hwalk]
      · simp only [entityOf, hwalk, ← List.map_reverse, List.flatMap_def]
    · exact nomatch h

/-- All fields of an entity by the levels of its hierarchy, where each class has distinct names. A name of the class
itself hides all others. Any other name stands for one field of every class above that declares it, the outermost
class first, and the first one is found. So the names are distinct, and what is found is the field of the nearest class,
if no two classes above share a name that the class itself does not declare, and only then. -/
theorem fields_by_level (h : entity source lookup = .ok e) (hown : (e.fields.map (·.name)).Nodup)
    (hclasses : ∀ name c, lookup name = some c → (c.fields.map (·.name)).Nodup) :
    ∃ u d names classes, SourceUnit.read source = .ok u ∧ e = entityOf u lookup d ∧
      Ascends (Scope.of u) lookup (superclassName d) names classes ∧ e.superclasses = names.map lastSegment ∧
      (∀ name, e.allFields.filter (·.name == name) =
        if e.fields.any (·.name == name) then e.fields.filter (·.name == name)
        else classes.reverse.flatMap fun c => c.fields.filter (·.name == name)) ∧
      (∀ name, e.findField? name =
        (fieldNamed? name e.fields).or (classes.reverse.findSome? fun c => fieldNamed? name c.fields)) ∧
      ((e.allFields.map (·.name)).Nodup ↔ classes.Pairwise fun b c => ∀ name,
        (fieldNamed? name b.fields).isSome → (fieldNamed? name c.fields).isSome → (fieldNamed? name e.fields).isSome) ∧
      ((e.allFields.map (·.name)).Nodup → ∀ name, e.findField? name =
        (fieldNamed? name e.fields).or (classes.findSome? fun c => fieldNamed? name c.fields)) := by
  obtain ⟨u, d, names, classes, hread, he, hup, hsuper, hinherited⟩ := inherited_of_entity h
  have hdistinct : ∀ c ∈ classes, (c.fields.map (·.name)).Nodup := fun c hc =>
    let ⟨_, hfound⟩ := hup.mem hc
    hclasses _ c hfound
  have hnodup := nodup_allFields_iff hinherited hown hdistinct
  have hfound (name : String) : e.findField? name =
      (fieldNamed? name e.fields).or (classes.reverse.findSome? fun c => fieldNamed? name c.fields) := by
    rw [findField?_eq, hinherited, fieldNamed?, fieldNamed?, List.find?_flatMap]
    rfl
  refine ⟨u, d, names, classes, hread, he, hup, hsuper, fun name => ?_, hfound, hnodup, fun hall name => ?_⟩
  · rw [filter_allFields, hinherited, List.filter_flatMap]
  · rw [hfound]
    cases hf : fieldNamed? name e.fields with
    | some f => rfl
    | none =>
      rw [Option.none_or, Option.none_or]
      refine findSome?_reverse ((hnodup.1 hall).imp fun {b c} hshared hb => ?_)
      by_contra hc
      have hsome := hshared name hb (Option.isSome_iff_ne_none.2 hc)
      rw [hf] at hsome
      exact absurd hsome Bool.false_ne_true

/-- Two classes above, each with a field of the same name. -/
def above (name : String) : Option Handle :=
  if name == "Base" then
    some { name := "Base", package := "p", superclass := some "Root",
           fields := [{ name := "id", typeName := "Long" }] }
  else if name == "Root" then
    some { name := "Root", package := "p", fields := [{ name := "id", typeName := "Integer" }] }
  else none

theorem above_distinct : ∀ name c, above name = some c → (c.fields.map (·.name)).Nodup := by
  intro name c h
  unfold above at h
  split at h
  · cases h
    decide
  · split at h
    · cases h
      decide
    · exact nomatch h

/-- The entity `Item` below these classes, with the fields that it declares itself. -/
def item (fields : List Field) : Entity where
  name := "Item"
  package := "p"
  fields
  inheritedFields := [{ name := "id", typeName := "Integer" }, { name := "id", typeName := "Long" }]
  superclasses := ["Base", "Root"]

def ownId : List Field := [{ name := "id", typeName := "String" }, { name := "name", typeName := "String" }]

/-- The class that declares the name itself hides both. -/
theorem fields_by_level_hidden :
    entity "package p; class Item extends Base \x7b String id; String name; \x7d" above = .ok (item ownId) ∧
    ((item ownId).fields.map (·.name)).Nodup ∧
    (∀ name c, above name = some c → (c.fields.map (·.name)).Nodup) ∧
    (item ownId).allFields.filter (·.name == "id") = [{ name := "id", typeName := "String" }] := by
  have hread : entity "package p; class Item extends Base \x7b String id; String name; \x7d" above =
      .ok (item ownId) := by
    decide +kernel
  have hown : ((item ownId).fields.map (·.name)).Nodup := by decide
  obtain ⟨u, d, names, classes, -, -, -, -, hnamed, -⟩ := fields_by_level hread hown above_distinct
  exact ⟨hread, hown, above_distinct, hnamed "id"⟩

def ownName : List Field := [{ name := "name", typeName := "String" }]

/-- Below a class that hides a field of its own superclass both fields are there, and the hidden one is found. -/
theorem hidden_field_inherited :
    entity "package p; class Item extends Base \x7b String name; \x7d" above = .ok (item ownName) ∧
    ((item ownName).fields.map (·.name)).Nodup ∧
    (∀ name c, above name = some c → (c.fields.map (·.name)).Nodup) ∧
    ¬ ((item ownName).allFields.map (·.name)).Nodup ∧
    (item ownName).findField? "id" = some { name := "id", typeName := "Integer" } ∧
    ((above "Base").map (·.fields)) = some [{ name := "id", typeName := "Long" }] := by
  have hread : entity "package p; class Item extends Base \x7b String name; \x7d" above = .ok (item ownName) := by
    decide +kernel
  exact ⟨hread, by decide, above_distinct, by decide, by decide, by decide⟩

end Levels

end Scaffold.Source
