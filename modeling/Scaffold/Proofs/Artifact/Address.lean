import Mathlib.Logic.Relation
import Scaffold.Artifact.Controller
import Scaffold.Proofs.Artifact.Characters
import Scaffold.Proofs.Name.NormalForm

/-! Addresses of controllers. Split at its slashes, an address gives back the segments of the configured path and the
name of the entity, none of them empty; so two paths give the same address exactly if they differ in slashes that
divide nothing. -/

namespace Scaffold

open Scaffold.Text

namespace Text

theorem toLowercase_apart : ∀ entry ∈ Table.toLowercase, ∀ blank ∈ blanks,
    entry.2.1 - entry.1 + entry.2.2.2 < blank.1 ∨ blank.2 < entry.2.2.2 := by
  decide +kernel

theorem not_blank_ofNat {k : Nat} (h : within blanks k = false) : isBlank (Char.ofNat k) = false := by
  unfold isBlank
  by_cases hvalid : k.isValidChar
  · rwa [Char.ofNat, dif_pos hvalid]
  · rw [Char.ofNat, dif_neg hvalid]
    decide

theorem lowerForm_ne_nil (before : List Char) (c : Char) (after : List Char) : lowerForm before c after ≠ [] := by
  unfold lowerForm
  split
  · exact List.cons_ne_nil _ _
  · split <;> exact List.cons_ne_nil _ _

end Text

namespace Name

variable {c : Char} {s : String}

theorem not_blank_lowerChar (h : Kind.ofChar c ≠ .other) : isBlank (lowerChar c) = false := by
  have hblank : isBlank c = false := Bool.eq_false_iff.2 fun hb => h (kind_of_blank hb)
  by_cases hascii : c.toNat < 128
  · have hkind := (lowerChar_ascii hascii).2.1
    refine Bool.eq_false_iff.2 fun hb => ?_
    rw [kind_of_blank hb] at hkind
    split at hkind
    · exact nomatch hkind
    · exact h hkind.symm
  · unfold lowerChar
    rw [if_neg hascii]
    cases hfound : Table.toLowercase.find? _ with
    | none => exact hblank
    | some entry =>
      obtain ⟨first, last, step, image⟩ := entry
      have hstretch := List.find?_some hfound
      have hapart := toLowercase_apart _ (List.mem_of_find?_eq_some hfound)
      simp only [onStretch, Bool.and_eq_true, decide_eq_true_eq] at hstretch
      refine not_blank_ofNat (Bool.eq_false_iff.2 fun hwithin => ?_)
      obtain ⟨blank, hmem, hin⟩ := List.any_eq_true.1 hwithin
      simp only [Bool.and_eq_true, decide_eq_true_eq] at hin
      have hout := hapart blank hmem
      dsimp only at hout
      omega

theorem lowerForm_front (h : Kind.ofChar c ≠ .other) (before after : List Char) :
    ∃ d rest, lowerForm before c after = d :: rest ∧ isBlank d = false := by
  unfold lowerForm
  split
  · split
    · exact ⟨_, _, rfl, by decide⟩
    · exact ⟨_, _, rfl, by decide⟩
  · split
    · exact ⟨_, _, rfl, by decide⟩
    · exact ⟨_, _, rfl, not_blank_lowerChar h⟩

theorem words_ne_nil (h : ∃ c ∈ s.toList, Kind.ofChar c ≠ .other) : words s ≠ [] := by
  obtain ⟨c, hc, hkind⟩ := h
  rw [words_eq]
  intro hnil
  have hflatten := (tokenizes_wordsBy Kind.ofChar s.toList).flatten
  rw [List.map_eq_nil_iff.1 hnil] at hflatten
  have hmem : c ∈ s.toList.filter fun c => Kind.ofChar c != .other := List.mem_filter.2 ⟨hc, by simpa using hkind⟩
  rw [← hflatten] at hmem
  exact absurd hmem List.not_mem_nil

theorem ne_nil_of_mem_words {w : String} (hw : w ∈ words s) : w.toList ≠ [] := by
  rw [words_eq] at hw
  obtain ⟨chars, hchars, rfl⟩ := List.mem_map.1 hw
  rw [String.toList_ofList]
  exact ((tokenizes_wordsBy Kind.ofChar s.toList).formed chars hchars).1

theorem lower_front {w : String} (hw : w ∈ words s) :
    ∃ d rest, (lower w).toList = d :: rest ∧ isBlank d = false := by
  obtain ⟨c, cs, hchars⟩ := List.exists_cons_of_ne_nil (ne_nil_of_mem_words hw)
  have hkind : Kind.ofChar c ≠ .other := kind_ne_other_of_mem_words hw (hchars ▸ List.mem_cons_self)
  obtain ⟨d, rest, hform, hblank⟩ := lowerForm_front hkind [] cs
  refine ⟨d, rest ++ lowerFrom [c] cs, ?_, hblank⟩
  rw [lower, String.toList_ofList, lowerChars, hchars, lowerFrom, hform, List.cons_append]

theorem joined_front (h : ∃ c ∈ s.toList, Kind.ofChar c ≠ .other) :
    ∃ d rest, ("-".intercalate ((words s).map lower)).toList = d :: rest ∧ isBlank d = false := by
  obtain ⟨w, ws, hwords⟩ := List.exists_cons_of_ne_nil (words_ne_nil h)
  obtain ⟨d, rest, hlower, hblank⟩ := lower_front (hwords ▸ List.mem_cons_self : w ∈ words s)
  rw [hwords, List.map_cons]
  cases ws.map lower with
  | nil =>
    rw [String.intercalate_singleton]
    exact ⟨d, rest, hlower, hblank⟩
  | cons v vs =>
    rw [String.intercalate_cons_cons, String.toList_append, String.toList_append, hlower]
    exact ⟨d, _, rfl, hblank⟩

theorem kebab_ne_empty (h : ∃ c ∈ s.toList, Kind.ofChar c ≠ .other) : kebab s ≠ "" := by
  obtain ⟨d, rest, hjoined, hblank⟩ := joined_front h
  intro hempty
  unfold kebab lowerFirst allBlank at hempty
  rw [hjoined, List.all_cons, hblank, Bool.false_and, if_neg Bool.false_ne_true, mapFirst] at hempty
  have hnil := congrArg String.toList hempty
  rw [String.toList_ofList, lowerChars, lowerFrom, lowerFrom, List.append_nil] at hnil
  exact lowerForm_ne_nil [] d [] (List.append_eq_nil_iff.1 hnil).1

end Name

namespace Artifact

variable {p q : List Char} {ws : List (List Char)}

/-- The segments of a path, without the empty ones. -/
def namesOf (path : List Char) : List (List Char) := (path.splitOn '/').filter (!·.isEmpty)

/-- One path has a slash more than another one, in front, at the end or beside one that is there. -/
inductive OneSlash : List Char → List Char → Prop where
  | front (s : List Char) : OneSlash s ('/' :: s)
  | back (s : List Char) : OneSlash s (s ++ ['/'])
  | beside (s t : List Char) : OneSlash (s ++ '/' :: t) (s ++ '/' :: '/' :: t)

theorem namesOf_append (s t : List Char) : namesOf (s ++ '/' :: t) = namesOf s ++ namesOf t := by
  unfold namesOf
  rw [List.splitOn_append_cons_self, List.filter_append]

theorem namesOf_slash (s : List Char) : namesOf ('/' :: s) = namesOf s := namesOf_append [] s

theorem OneSlash.namesOf_eq (h : OneSlash p q) : namesOf p = namesOf q := by
  cases h with
  | front => exact (namesOf_slash p).symm
  | back =>
    rw [namesOf_append]
    exact (List.append_nil _).symm
  | beside s t => rw [namesOf_append, namesOf_append, namesOf_slash]

theorem OneSlash.below (h : OneSlash p q) (w : List Char) : OneSlash (w ++ '/' :: p) (w ++ '/' :: q) := by
  cases h with
  | front => exact .beside w p
  | back =>
    have hback := OneSlash.back (w ++ '/' :: p)
    rwa [List.append_assoc] at hback
  | beside s t =>
    have hbeside := OneSlash.beside (w ++ '/' :: s) t
    rwa [List.append_assoc, List.append_assoc] at hbeside

theorem eqvGen_below (h : Relation.EqvGen OneSlash p q) (w : List Char) :
    Relation.EqvGen OneSlash (w ++ '/' :: p) (w ++ '/' :: q) := by
  induction h with
  | rel p q hedit => exact .rel _ _ (hedit.below w)
  | refl p => exact .refl _
  | symm p q _ ih => exact .symm _ _ ih
  | trans p q o _ _ first second => exact .trans _ _ _ first second

/-- Segments with slashes in between are as good as the ones among them that are not empty. -/
theorem eqvGen_intercalate (ws : List (List Char)) :
    Relation.EqvGen OneSlash (['/'].intercalate ws) (['/'].intercalate (ws.filter (!·.isEmpty))) := by
  induction ws with
  | nil => exact .refl _
  | cons w ws ih =>
    cases ws with
    | nil =>
      cases w with
      | nil => exact .refl _
      | cons c w => exact .refl _
    -- Behind a first segment the others are rearranged by induction; then an empty one loses its slash in front, and
    -- one that is left alone its slash at the end.
    | cons v ws =>
      have hbelow := eqvGen_below ih w
      have hfilter : (w :: v :: ws).filter (!·.isEmpty) =
          if !w.isEmpty then w :: (v :: ws).filter (!·.isEmpty) else (v :: ws).filter (!·.isEmpty) := List.filter_cons
      generalize (v :: ws).filter (!·.isEmpty) = kept at hbelow hfilter
      rw [List.intercalate_cons_cons, List.append_assoc, List.singleton_append, hfilter]
      refine .trans _ _ _ hbelow ?_
      cases w with
      | nil => exact .symm _ _ (.rel _ _ (.front _))
      | cons c w =>
        have hkeep : (!(c :: w).isEmpty) = true := rfl
        rw [if_pos hkeep]
        cases kept with
        | nil =>
          rw [List.intercalate_singleton]
          exact .symm _ _ (.rel _ _ (.back (c :: w)))
        | cons u us =>
          rw [List.intercalate_cons_cons, List.append_assoc, List.singleton_append]
          exact .refl _

theorem namesOf_eq_iff : namesOf p = namesOf q ↔ Relation.EqvGen OneSlash p q := by
  constructor
  · intro h
    have hnormal (s : List Char) : Relation.EqvGen OneSlash s (['/'].intercalate (namesOf s)) := by
      have hwords := eqvGen_intercalate (s.splitOn '/')
      rwa [List.intercalate_splitOn] at hwords
    have hq := hnormal q
    rw [← h] at hq
    exact .trans _ _ _ (hnormal p) (.symm _ _ hq)
  · intro h
    induction h with
    | rel p q hedit => exact hedit.namesOf_eq
    | refl p => rfl
    | symm p q _ ih => exact ih.symm
    | trans p q o _ _ first second => exact first.trans second

theorem intercalate_flatMap (w : List Char) (ws : List (List Char)) :
    ['/'].intercalate (w :: ws) = w ++ ws.flatMap ('/' :: ·) := by
  induction ws generalizing w with
  | nil => simp
  | cons v ws ih =>
    rw [List.intercalate_cons_cons, ih, List.flatMap_cons, List.append_assoc, List.singleton_append, List.cons_append]

theorem controllerSegments_eq (path base : String) :
    controllerSegments path base = namesOf path.toList ++ [(Name.kebab base).toList] := by
  unfold controllerSegments namesOf
  rw [segments_eq_splitOn]

theorem slash_not_mem_controllerSegments (path base : String) : ∀ w ∈ controllerSegments path base, '/' ∉ w := by
  intro w hw
  rcases List.mem_append.1 hw with hmem | hmem
  · exact not_mem_segments (List.mem_filter.1 hmem).1
  · rw [List.mem_singleton.1 hmem]
    exact Name.slash_not_mem_kebab base

theorem splitOn_controllerPath (path base : String) :
    (controllerPath path base).toList.splitOn '/' = [] :: (namesOf path.toList ++ [(Name.kebab base).toList]) := by
  have hchars : (controllerPath path base).toList = ['/'].intercalate ([] :: controllerSegments path base) := by
    rw [controllerPath, String.toList_ofList, intercalate_flatMap, List.nil_append]
  have hslash : ∀ w ∈ [] :: controllerSegments path base, '/' ∉ w :=
    List.forall_mem_cons.2 ⟨List.not_mem_nil, slash_not_mem_controllerSegments path base⟩
  rw [hchars, List.splitOn_intercalate '/' hslash (List.cons_ne_nil _ _), controllerSegments_eq]

/-- An address begins with a slash, and its segments are those of the path that are not empty and the name of the
entity, which is not empty if the entity has a letter or a digit in its name. A path that is not given is an empty
one. Two paths give the same address exactly if each can be had from the other one by slashes in front, at the end or
beside others. -/
theorem controller_path_normal {base : String} (h : ∃ c ∈ base.toList, Name.Kind.ofChar c ≠ .other)
    (path : Option String) :
    (controllerPath (path.getD "") base).toList.splitOn '/' =
        [] :: (namesOf (path.getD "").toList ++ [(Name.kebab base).toList]) ∧
      (∀ w ∈ namesOf (path.getD "").toList ++ [(Name.kebab base).toList], w ≠ []) ∧
      ∀ other : Option String, controllerPath (other.getD "") base = controllerPath (path.getD "") base ↔
        Relation.EqvGen OneSlash (other.getD "").toList (path.getD "").toList := by
  refine ⟨splitOn_controllerPath _ base, fun w hw hnil => ?_, fun other => ?_⟩
  · subst hnil
    rcases List.mem_append.1 hw with hmem | hmem
    · exact absurd (List.mem_filter.1 hmem).2 (by decide)
    · exact Name.kebab_ne_empty h (String.toList_eq_nil_iff.1 (List.mem_singleton.1 hmem).symm)
  · rw [← namesOf_eq_iff]
    constructor
    · intro heq
      have hsplit : _ = (controllerPath (path.getD "") base).toList.splitOn '/' :=
        congrArg (fun s : String => s.toList.splitOn '/') heq
      rw [splitOn_controllerPath, splitOn_controllerPath] at hsplit
      exact List.append_cancel_right (List.cons.inj hsplit).2
    · intro heq
      unfold controllerPath
      rw [controllerSegments_eq, controllerSegments_eq, heq]

/-- Slashes around the segments, and capitals in the name of the entity. -/
theorem controller_path_normal_slashes : (∃ c ∈ "UserOrder".toList, Name.Kind.ofChar c ≠ .other) ∧
    (controllerPath "/api//v1/" "UserOrder").toList.splitOn '/' =
      [[], "api".toList, "v1".toList, "user-order".toList] ∧
    controllerPath "api/v1" "UserOrder" = controllerPath "/api//v1/" "UserOrder" := by
  have hletter : ∃ c ∈ "UserOrder".toList, Name.Kind.ofChar c ≠ .other := ⟨'U', by decide, by decide⟩
  obtain ⟨hsplit, -, hsame⟩ := controller_path_normal hletter (some "/api//v1/")
  refine ⟨hletter, hsplit.trans (by decide +kernel), (hsame (some "api/v1")).2 ?_⟩
  exact namesOf_eq_iff.1 (by decide +kernel)

end Artifact

end Scaffold
