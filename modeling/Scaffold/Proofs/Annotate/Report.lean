import Scaffold.Proofs.Annotate.Layout

/-! The report on an annotated class. Lines are only added, and what is reported as added stands among them;
whether it stands at the class itself is another matter, since a comment can name the class as well. -/

namespace Scaffold.Annotate

open Scaffold.Text
open Scaffold.Entity (Field)
open scoped List

theorem sublist_insertAt {α : Type} (i : Nat) (new xs : List α) : xs <+ insertAt i new xs := by
  unfold insertAt
  conv => lhs; rw [← List.take_append_drop i xs]
  rw [List.append_assoc]
  exact (List.Sublist.refl _).append (List.sublist_append_right _ _)

theorem mem_insertAt {α : Type} {i : Nat} {new xs : List α} {x : α} (h : x ∈ new) : x ∈ insertAt i new xs :=
  List.mem_append_left _ (List.mem_append_right _ h)

theorem sublist_insertAll (is : List Insertion) (ls : List String) : ls <+ insertAll is ls := by
  unfold insertAll
  induction is generalizing ls with
  | nil => exact .refl _
  | cons i rest ih => exact (sublist_insertAt i.line i.added ls).trans (ih _)

theorem mem_insertAll {is : List Insertion} {i : Insertion} (hi : i ∈ is) {l : String} (hl : l ∈ i.added)
    (ls : List String) : l ∈ insertAll is ls := by
  induction is generalizing ls with
  | nil => exact absurd hi List.not_mem_nil
  | cons j rest ih =>
    change l ∈ insertAll rest (insertAt j.line j.added ls)
    rcases List.mem_cons.1 hi with rfl | hi
    · exact (sublist_insertAll rest _).subset (mem_insertAt hl)
    · exact ih hi _

theorem sublist_addImport (ls : List String) (name : String) : ls <+ addImport ls name := by
  unfold addImport
  split
  · exact sublist_insertAt _ _ _
  · exact sublist_insertAt _ _ _
  · exact .cons _ (.cons _ (.refl _))

theorem mem_addImport (ls : List String) (name : String) : importLine name ∈ addImport ls name := by
  unfold addImport
  split
  · exact mem_insertAt (List.mem_singleton_self _)
  · exact mem_insertAt (List.mem_cons_of_mem _ (List.mem_singleton_self _))
  · exact List.mem_cons_self

/-- Imports are added to the lines, and only those that were asked for are reported. -/
theorem importAll_adds (names ls : List String) :
    ls <+ (importAll names ls).1 ∧ (importAll names ls).2 <+ names ∧
      ∀ name ∈ (importAll names ls).2, importLine name ∈ (importAll names ls).1 := by
  induction names generalizing ls with
  | nil => exact ⟨.refl _, .refl _, nofun⟩
  | cons name rest ih =>
    rw [importAll]
    rcases hadd : ensureImport ls name with _ | more
    · obtain ⟨hls, hnames, hadded⟩ := ih ls
      exact ⟨hls, .cons _ hnames, hadded⟩
    -- What is imported later is added to lines that hold this import already.
    · have hmore : more = addImport ls name := ensureImport_eq_some hadd
      obtain ⟨hls, hnames, hadded⟩ := ih more
      rw [hmore] at hls hnames hadded ⊢
      refine ⟨(sublist_addImport ls name).trans hls, .cons_cons _ hnames, fun x hx => ?_⟩
      rcases List.mem_cons.1 hx with rfl | hx
      · exact hls.subset (mem_addImport ls x)
      · exact hadded x hx

/-- What a reported change comes to, for an entity and the lines in the end. -/
def Change.Done (e : Entity) (final : List String) : Change → Prop
  | .entity table => table = Name.table e.baseName ∧
      ∀ l ∈ entityLines table (withoutQuotes (e.comment.getD "")), l ∈ final
  | .id name => ∃ f ∈ e.fields, f.name = name ∧ f.annotations.any settled.contains = false ∧
      ∃ margin, ∀ l ∈ idLines, margin ++ l ∈ final
  | .column name => ∃ f ∈ e.fields, f.name = name ∧ f.annotations.any settled.contains = false ∧
      ∃ margin, margin ++ columnLine f ∈ final
  | .imported name => importLine name ∈ final

theorem insertion?_change {ls : List String} {start : Nat} {f : Field} {i : Insertion}
    (h : insertion? ls start f = some i) : f.annotations.any settled.contains = false ∧
      ∃ margin, (i.change = .id f.name ∧ i.added = idLines.map (margin ++ ·)) ∨
        (i.change = .column f.name ∧ i.added = [margin ++ columnLine f]) := by
  unfold insertion? at h
  split at h
  · exact nomatch h
  · next hfree =>
    obtain ⟨line, -, rfl⟩ := Option.map_eq_some_iff.1 h
    refine ⟨Bool.eq_false_iff.2 hfree, marginOf (ls.getD line ""), ?_⟩
    dsimp only
    split
    · exact .inl ⟨rfl, rfl⟩
    · exact .inr ⟨rfl, rfl⟩

theorem done_of_insertion {ls : List String} {start : Nat} {e : Entity} {i : Insertion}
    (hi : i ∈ bottomUp (e.fields.filterMap (insertion? ls start))) {final : List String}
    (hfinal : ∀ l ∈ i.added, l ∈ final) : i.change.Done e final := by
  obtain ⟨f, hf, hins⟩ := List.mem_filterMap.1 ((List.mergeSort_perm _ _).mem_iff.1 hi)
  obtain ⟨hfree, margin, ⟨hchange, hadded⟩ | ⟨hchange, hadded⟩⟩ := insertion?_change hins
  · rw [hchange]
    refine ⟨f, hf, rfl, hfree, margin, fun l hl => hfinal _ ?_⟩
    rw [hadded]
    exact List.mem_map_of_mem hl
  · rw [hchange]
    refine ⟨f, hf, rfl, hfree, margin, hfinal _ ?_⟩
    rw [hadded]
    exact List.mem_singleton_self _

/-- A class that is no entity yet is only added to: all lines stay, in order, and every change that is
reported can be pointed at. -/
theorem annotate_only_adds {source : String} {o : Outcome} (h : annotate source = .ok o)
    (hc : o.changed = true) : ∃ e final, Source.entity source (fun _ => none) = .ok e ∧ e.isEntity = false ∧
      o.source = unlines final ++ (if endsWith source "\n" then "\n" else "") ∧ lines source <+ final ∧
      o.changes.head? = some (.entity (Name.table e.baseName)) ∧ ∀ c ∈ o.changes, c.Done e final := by
  unfold annotate at h
  rcases he : Source.entity source fun _ => none with f | e
  · rw [he] at h
    exact nomatch h
  rw [he] at h
  dsimp only at h
  by_cases hentity : e.isEntity = true
  · rw [if_pos hentity] at h
    cases h
    exact absurd hc Bool.false_ne_true
  rw [if_neg hentity] at h
  rcases hclass : classLine? (lines source) e.name with _ | line
  · rw [hclass] at h
    exact nomatch h
  rw [hclass] at h
  cases h
  let table := Name.table e.baseName
  let head := entityLines table (withoutQuotes (e.comment.getD ""))
  let insertions := bottomUp (e.fields.filterMap (insertion? (lines source) (line + 1)))
  let onFields := (insertions.map Insertion.change).reverse
  let names := neededImports (persistencePackage source) onFields
  obtain ⟨hkept, -, himported⟩ := importAll_adds names (insertAt line head (insertAll insertions (lines source)))
  -- Fields first, then the class, then the imports: each step only adds to the lines of the one before.
  refine ⟨e, _, rfl, Bool.eq_false_iff.2 hentity, rfl, ?_, rfl, fun c hchange => ?_⟩
  · exact ((sublist_insertAll insertions _).trans (sublist_insertAt line head _)).trans hkept
  rcases List.mem_cons.1 hchange with rfl | hchange
  · exact ⟨rfl, fun l hl => hkept.subset (mem_insertAt hl)⟩
  rcases List.mem_append.1 hchange with hchange | hchange
  · obtain ⟨i, hi, rfl⟩ := List.mem_map.1 (List.mem_reverse.1 hchange)
    refine done_of_insertion hi fun l hl => hkept.subset ?_
    exact (sublist_insertAt line head _).subset (mem_insertAll hi hl _)
  · obtain ⟨name, hname, rfl⟩ := List.mem_map.1 hchange
    exact himported name hname

theorem annotate_of_plain {source : String} {e : Entity} {line : Nat}
    (he : Source.entity source (fun _ => none) = .ok e) (hplain : e.isEntity = false)
    (hline : classLine? (lines source) e.name = some line) :
    annotate source = .ok (annotateAt source (lines source) e line) := by
  unfold annotate
  rw [he]
  dsimp only
  rw [hplain, hline]
  rfl

/-- A class below a comment that names it as well. -/
def commentedClass : String := "/*\nclass A\n*/\nclass A\x7b\x7d"

theorem commentedClass_annotated :
    (annotate commentedClass).toOption.map (fun o => (o.changed,
      (Source.entity o.source fun _ => none).toOption.map fun e =>
        (e.isEntity, (classLine? (lines o.source) e.name).isSome))) = some (true, some (false, true)) := by
  decide +kernel

/-- The annotations go into the comment, so the result is no entity, and it would be annotated once more. -/
theorem commentedClass_misses :
    ∃ o e again, annotate commentedClass = .ok o ∧ o.changed = true ∧
      Source.entity o.source (fun _ => none) = .ok e ∧ e.isEntity = false ∧
      annotate o.source = .ok again ∧ again.changed = true := by
  have hrun := commentedClass_annotated
  rcases ho : annotate commentedClass with f | o
  · rw [ho] at hrun
    exact nomatch hrun
  rcases he : Source.entity o.source fun _ => none with f | e <;> simp [Except.toOption, ho, he] at hrun
  obtain ⟨hchanged, hplain, hline⟩ := hrun
  obtain ⟨line, hline⟩ := Option.isSome_iff_exists.1 hline
  exact ⟨o, e, _, rfl, hchanged, he, hplain, annotate_of_plain he hplain hline, rfl⟩

theorem annotate_only_adds_sample : ∃ o, annotate commentedClass = .ok o ∧ o.changed = true ∧
    ∃ e final, Source.entity commentedClass (fun _ => none) = .ok e ∧ lines commentedClass <+ final ∧
      o.changes.head? = some (.entity (Name.table e.baseName)) := by
  have hrun := commentedClass_annotated
  rcases ho : annotate commentedClass with f | o
  · rw [ho] at hrun
    exact nomatch hrun
  · rw [ho] at hrun
    have hc : o.changed = true := congrArg Prod.fst (Option.some.inj hrun)
    obtain ⟨e, final, he, -, -, hlines, hhead, -⟩ := annotate_only_adds ho hc
    exact ⟨o, rfl, hc, e, final, he, hlines, hhead⟩

end Scaffold.Annotate
