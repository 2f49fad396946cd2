import Scaffold.Proofs.Store.Path
import Scaffold.Proofs.Symbols.Table
import Mathlib.Data.List.Dedup
import Mathlib.Data.Finset.Card

/-! The table of known classes against the history of its registrations. A registration stands until a later
one comes for the same name and package; the table holds those that stand, by name, and what is looked up is
found among them in the order of the history. -/

namespace Scaffold

/-- What a registration replaces another one by. -/
def Handle.key (h : Handle) : String × String := (h.name, h.package)

theorem Handle.key_eq_iff {h k : Handle} : h.key = k.key ↔ h.name = k.name ∧ h.package = k.package :=
  Prod.mk_inj

namespace Symbols

open Scaffold.Text

/-- The registrations of a history that no later one replaces, in their order. -/
def standing (hs : List Handle) : List Handle := hs.pwFilter fun a b => a.key ≠ b.key

section Standing

variable {hs : List Handle} {h : Handle}

theorem pairwise_standing (hs : List Handle) : (standing hs).Pairwise fun a b => a.key ≠ b.key :=
  List.pairwise_pwFilter hs

theorem nodup_keys_standing (hs : List Handle) : ((standing hs).map Handle.key).Nodup :=
  List.pairwise_map.2 (pairwise_standing hs)

theorem standing_cons (h : Handle) (hs : List Handle) :
    standing (h :: hs) = if ∀ k ∈ hs, h.key ≠ k.key then h :: standing hs else standing hs := by
  -- Whether a registration is replaced is decided by all that come behind it, those that are replaced included.
  have htrans : ∀ {x y z : Handle}, x.key ≠ z.key → x.key ≠ y.key ∨ y.key ≠ z.key := by
    intro x y z hne
    by_cases hxy : x.key = y.key
    · exact .inr fun hyz => hne (hxy.trans hyz)
    · exact .inl hxy
  have hall := List.forall_mem_pwFilter (R := fun a b : Handle => a.key ≠ b.key) htrans h hs
  by_cases hlast : ∀ k ∈ hs, h.key ≠ k.key
  · rw [if_pos hlast]
    exact List.pwFilter_cons_of_pos (hall.2 hlast)
  · rw [if_neg hlast]
    exact List.pwFilter_cons_of_neg (mt hall.1 hlast)

/-- A registration takes the place of the one before it for the same name and package, at the end. -/
theorem standing_concat (hs : List Handle) (h : Handle) :
    standing (hs ++ [h]) = (standing hs).filter (·.key != h.key) ++ [h] := by
  induction hs with
  | nil => rfl
  | cons k rest ih =>
    rw [List.cons_append, standing_cons, standing_cons, ih]
    have hsplit : (∀ j ∈ rest ++ [h], k.key ≠ j.key) ↔ (∀ j ∈ rest, k.key ≠ j.key) ∧ k.key ≠ h.key := by
      rw [List.forall_mem_append, List.forall_mem_singleton]
    by_cases hrest : ∀ j ∈ rest, k.key ≠ j.key
    · by_cases hk : k.key = h.key
      · rw [if_pos hrest, if_neg fun hboth => (hsplit.1 hboth).2 hk, List.filter_cons_of_neg (by simpa using hk)]
      · rw [if_pos hrest, if_pos (hsplit.2 ⟨hrest, hk⟩), List.filter_cons_of_pos (by simpa using hk),
          List.cons_append]
    · rw [if_neg hrest, if_neg fun hboth => hrest (hsplit.1 hboth).1]

theorem mem_standing : h ∈ standing hs ↔
    ∃ before after, hs = before ++ h :: after ∧ ∀ k ∈ after, k.key ≠ h.key := by
  constructor
  · intro hmem
    induction hs with
    | nil => exact absurd hmem List.not_mem_nil
    | cons k rest ih =>
      rw [standing_cons] at hmem
      split at hmem
      · rename_i hlast
        rcases List.mem_cons.1 hmem with rfl | hrest
        · exact ⟨[], rest, rfl, fun j hj => (hlast j hj).symm⟩
        · obtain ⟨before, after, rfl, hafter⟩ := ih hrest
          exact ⟨k :: before, after, rfl, hafter⟩
      · obtain ⟨before, after, rfl, hafter⟩ := ih hmem
        exact ⟨k :: before, after, rfl, hafter⟩
  · rintro ⟨before, after, rfl, hafter⟩
    induction before with
    | nil =>
      rw [List.nil_append, standing_cons, if_pos fun k hk => (hafter k hk).symm]
      exact List.mem_cons_self
    | cons k rest ih =>
      rw [List.cons_append, standing_cons]
      split
      · exact List.mem_cons_of_mem k ih
      · exact ih

theorem mem_keys_standing (hs : List Handle) (key : String × String) :
    key ∈ (standing hs).map Handle.key ↔ key ∈ hs.map Handle.key := by
  induction hs using List.reverseRecOn with
  | nil => exact Iff.rfl
  | append_singleton hs h ih =>
    rw [standing_concat, List.map_append, List.mem_append, List.map_append, List.mem_append, ← ih]
    by_cases hkey : key = h.key
    · simp [hkey]
    · simp only [List.map_cons, List.map_nil, List.mem_singleton, hkey, or_false, List.mem_map,
        List.mem_filter, bne_iff_ne]
      constructor
      · rintro ⟨k, ⟨hmem, -⟩, rfl⟩
        exact ⟨k, hmem, rfl⟩
      · rintro ⟨k, hmem, rfl⟩
        exact ⟨k, ⟨hmem, hkey⟩, rfl⟩

theorem find?_standing (hs : List Handle) (key : String × String) (p : Handle → Bool) :
    (standing hs).find? (fun h => h.key == key && p h) =
      ((hs.filter (·.key == key)).getLast?).filter p := by
  induction hs using List.reverseRecOn with
  | nil => rfl
  | append_singleton hs h ih =>
    rw [standing_concat, List.find?_append, List.filter_append, List.getLast?_append]
    by_cases hkey : h.key = key
    · -- Whatever stood for the key is gone.
      have hgone : ((standing hs).filter (·.key != h.key)).find? (fun k => k.key == key && p k) = none := by
        rw [List.find?_eq_none]
        intro k hk
        have hne := (List.mem_filter.1 hk).2
        rw [hkey, bne_iff_ne] at hne
        simp [hne]
      rw [hgone]
      cases hp : p h <;> simp [hkey, hp, Option.filter]
    · -- What the new handle displaces has its key, so a search under another one does not see it.
      have hother : ((standing hs).filter (·.key != h.key)).find? (fun k => k.key == key && p k) =
          (standing hs).find? (fun k => k.key == key && p k) := by
        rw [List.find?_filter]
        congr 1
        funext k
        by_cases hk : k.key = key
        · simp [hk, Ne.symm hkey]
        · simp [hk]
      rw [hother, ih]
      simp [hkey]

end Standing

/-- The handles of one name that stand. -/
def standingOf (hs : List Handle) (name : String) : List Handle := (standing hs).filter (·.name == name)

theorem standingOf_concat_self (hs : List Handle) (h : Handle) :
    standingOf (hs ++ [h]) h.name = enter h (standingOf hs h.name) := by
  unfold standingOf enter
  rw [standing_concat, List.filter_append, List.filter_filter, List.filter_filter]
  congr 1
  · refine List.filter_congr fun k _ => ?_
    rw [Bool.eq_iff_iff]
    simp only [Bool.and_eq_true, beq_iff_eq, bne_iff_ne, ne_eq, Handle.key_eq_iff, not_and]
    exact ⟨fun hk => ⟨hk.2 hk.1, hk.1⟩, fun hk => ⟨hk.2, fun _ => hk.1⟩⟩
  · simp

theorem standingOf_concat_of_ne {hs : List Handle} {h : Handle} {name : String} (hn : h.name ≠ name) :
    standingOf (hs ++ [h]) name = standingOf hs name := by
  unfold standingOf
  rw [standing_concat, List.filter_append, List.filter_filter]
  have hother : (standing hs).filter (fun k => k.name == name && k.key != h.key) =
      (standing hs).filter (·.name == name) := by
    refine List.filter_congr fun k _ => ?_
    by_cases hk : k.name = name
    · have hne : k.key ≠ h.key := fun hkey => hn ((congrArg Prod.fst hkey).symm.trans hk)
      simp [hk, hne]
    · simp [hk]
  rw [hother]
  simp [hn]

theorem registerIn_map (h : Handle) {names : List String} (hd : names.Nodup) (f : String → List Handle) :
    registerIn h (names.map fun n => (n, f n)) =
      if h.name ∈ names then names.map fun n => (n, if n = h.name then enter h (f n) else f n)
      else (names.map fun n => (n, f n)) ++ [(h.name, [h])] := by
  induction names with
  | nil => rfl
  | cons n rest ih =>
    obtain ⟨hn, hrest⟩ := List.nodup_cons.1 hd
    rw [List.map_cons, registerIn]
    by_cases heq : n = h.name
    · -- The names are distinct, so the rest keeps its buckets.
      have hothers : rest.map (fun m => (m, if m = h.name then enter h (f m) else f m)) =
          rest.map fun m => (m, f m) := by
        refine List.map_congr_left fun m hm => ?_
        have hne : m ≠ h.name := fun hmn => hn (heq.trans hmn.symm ▸ hm)
        rw [if_neg hne]
      rw [if_pos (beq_iff_eq.2 heq), if_pos (heq ▸ List.mem_cons_self), List.map_cons, if_pos heq, hothers]
    · rw [if_neg fun hb => heq (beq_iff_eq.1 hb), ih hrest]
      by_cases hmem : h.name ∈ rest
      · rw [if_pos hmem, if_pos (List.mem_cons_of_mem n hmem), List.map_cons, if_neg heq]
      · have hnot : h.name ∉ n :: rest := fun hm => (List.mem_cons.1 hm).elim (fun he => heq he.symm) hmem
        rw [if_neg hmem, if_neg hnot]
        rfl

/-- The simple names of a history in the order in which they came. -/
def namesOf (hs : List Handle) : List String := (hs.map (·.name)).eraseDups

theorem mem_namesOf {hs : List Handle} {name : String} : name ∈ namesOf hs ↔ ∃ h ∈ hs, h.name = name := by
  unfold namesOf
  rw [List.mem_eraseDups, List.mem_map]

theorem namesOf_concat (hs : List Handle) (h : Handle) :
    namesOf (hs ++ [h]) = if h.name ∈ namesOf hs then namesOf hs else namesOf hs ++ [h.name] := by
  have happend : namesOf (hs ++ [h]) = namesOf hs ++ ([h.name].removeAll (hs.map (·.name))).eraseDups := by
    unfold namesOf
    rw [List.map_append, List.eraseDups_append, List.map_singleton]
  rw [happend]
  by_cases hmem : h.name ∈ namesOf hs
  · rw [if_pos hmem, List.removeAll, List.filter_cons_of_neg (by simpa [namesOf] using hmem)]
    exact List.append_nil _
  · rw [if_neg hmem, List.removeAll, List.filter_cons_of_pos (by simpa [namesOf] using hmem)]
    rfl

theorem nodup_namesOf (hs : List Handle) : (namesOf hs).Nodup := by
  induction hs using List.reverseRecOn with
  | nil => exact List.nodup_nil
  | append_singleton hs h ih =>
    rw [namesOf_concat]
    split
    · exact ih
    · rename_i hmem
      rw [← List.concat_eq_append]
      exact ih.concat hmem

theorem standingOf_eq_nil {hs : List Handle} {name : String} (h : name ∉ namesOf hs) : standingOf hs name = [] := by
  unfold standingOf
  rw [List.filter_eq_nil_iff]
  intro k hk hname
  obtain ⟨before, after, rfl, -⟩ := mem_standing.1 hk
  exact h (mem_namesOf.2 ⟨k, by simp, beq_iff_eq.1 hname⟩)

/-- A table that was filled from nothing: the names as they came, each with the handles that stand. -/
theorem buckets_ofList (hs : List Handle) :
    (ofList hs).buckets = (namesOf hs).map fun name => (name, standingOf hs name) := by
  induction hs using List.reverseRecOn with
  | nil => rfl
  | append_singleton hs h ih =>
    have hstep : (ofList (hs ++ [h])).buckets = registerIn h (ofList hs).buckets := by
      unfold ofList
      rw [registerAll_append]
      rfl
    -- Only the bucket of the new handle's name changes.
    have hkept : ∀ name, (if name = h.name then enter h (standingOf hs name) else standingOf hs name) =
        standingOf (hs ++ [h]) name := by
      intro name
      by_cases hn : name = h.name
      · rw [if_pos hn, hn, standingOf_concat_self]
      · rw [if_neg hn, standingOf_concat_of_ne (Ne.symm hn)]
    rw [hstep, ih, registerIn_map h (nodup_namesOf hs), namesOf_concat]
    by_cases hmem : h.name ∈ namesOf hs
    · rw [if_pos hmem, if_pos hmem]
      exact List.map_congr_left fun name _ => by rw [hkept]
    · have hothers : (namesOf hs).map (fun name => (name, standingOf (hs ++ [h]) name)) =
          (namesOf hs).map fun name => (name, standingOf hs name) := by
        refine List.map_congr_left fun name hname => ?_
        rw [standingOf_concat_of_ne fun hn => hmem (hn.symm ▸ hname)]
      rw [if_neg hmem, if_neg hmem, List.map_append, hothers, List.map_singleton, standingOf_concat_self,
        standingOf_eq_nil hmem]
      rfl

theorem lookup_map_mk {β : Type} {names : List String} {name : String} (f : String → β) (h : name ∈ names) :
    (names.map fun n => (n, f n)).lookup name = some (f name) := by
  induction names with
  | nil => exact absurd h List.not_mem_nil
  | cons n rest ih =>
    rw [List.map_cons, List.lookup_cons]
    by_cases hn : name = n
    · rw [hn, beq_self_eq_true]
    · rw [beq_eq_false_iff_ne.2 hn]
      exact ih ((List.mem_cons.1 h).resolve_left hn)

theorem bucket_ofList (hs : List Handle) (name : String) : (ofList hs).bucket name = standingOf hs name := by
  unfold bucket
  rw [buckets_ofList]
  by_cases hmem : name ∈ namesOf hs
  · rw [lookup_map_mk _ hmem]
    rfl
  · rw [standingOf_eq_nil hmem]
    have hnone : ((namesOf hs).map fun n => (n, standingOf hs n)).lookup name = none := by
      rw [List.lookup_eq_none_iff]
      intro x hx
      obtain ⟨n, hn, rfl⟩ := List.mem_map.1 hx
      exact bne_iff_ne.2 fun hname : name = n => hmem (hname.symm ▸ hn)
    rw [hnone]
    rfl

theorem toList_ofList (hs : List Handle) : (ofList hs).toList = (namesOf hs).flatMap (standingOf hs) := by
  unfold toList
  rw [buckets_ofList, List.flatMap_map]

theorem perm_toList_ofList (hs : List Handle) : (ofList hs).toList.Perm (standing hs) := by
  have hstanding : (standing hs).Nodup := (nodup_keys_standing hs).of_map
  have hlisted : ((namesOf hs).flatMap (standingOf hs)).Nodup := by
    rw [List.nodup_flatMap]
    refine ⟨fun name _ => hstanding.filter _, (nodup_namesOf hs).imp fun hne h hh hk => hne ?_⟩
    rw [← beq_iff_eq.1 (List.mem_filter.1 hh).2, ← beq_iff_eq.1 (List.mem_filter.1 hk).2]
  rw [toList_ofList, List.perm_ext_iff_of_nodup hlisted hstanding]
  intro h
  rw [List.mem_flatMap]
  constructor
  · rintro ⟨name, -, hmem⟩
    exact (List.mem_filter.1 hmem).1
  · intro hmem
    obtain ⟨before, after, hs_eq, -⟩ := mem_standing.1 hmem
    refine ⟨h.name, mem_namesOf.2 ⟨h, ?_, rfl⟩, List.mem_filter.2 ⟨hmem, beq_self_eq_true _⟩⟩
    rw [hs_eq]
    exact List.mem_append_right before List.mem_cons_self

theorem size_ofList (hs : List Handle) : (ofList hs).size = (hs.map Handle.key).toFinset.card := by
  have hsame : (hs.map Handle.key).toFinset = ((standing hs).map Handle.key).toFinset := by
    ext key
    rw [List.mem_toFinset, List.mem_toFinset, mem_keys_standing]
  unfold size
  rw [(perm_toList_ofList hs).length_eq, hsame, List.toFinset_card_of_nodup (nodup_keys_standing hs),
    List.length_map]

section Wanted

variable {text name package : String}

theorem wanted_of_blank (h : trim text = "") : Wanted.of? text = none := by
  unfold Wanted.of?
  rw [h]
  rfl

theorem wanted_of_simple (htrim : trim text ≠ "") (hdot : '.' ∉ (trim text).toList) :
    Wanted.of? text = some ⟨none, trim text⟩ := by
  unfold Wanted.of?
  dsimp only
  rw [if_neg (by simpa using htrim), owner?, lastSegment, splitLast?_of_not_mem hdot]
  rfl

theorem wanted_of_qualified (htrim : trim text = package ++ "." ++ name) (hdot : '.' ∉ name.toList) :
    Wanted.of? text = some ⟨some package, name⟩ := by
  have hchars : (trim text).toList = package.toList ++ '.' :: name.toList := by
    rw [htrim, String.toList_append, String.toList_append, List.append_assoc]
    rfl
  have hne : ¬ (trim text).isEmpty = true := by
    rw [String.isEmpty_iff, ← String.toList_inj, hchars]
    simp
  unfold Wanted.of?
  dsimp only
  rw [if_neg hne, owner?, lastSegment, hchars, splitLast?_append hdot]
  simp

end Wanted

theorem findWhere?_ofList {text : String} {w : Wanted} (hw : Wanted.of? text = some w) (hs : List Handle)
    (p : Handle → Bool) : (ofList hs).findWhere? p text =
      (standing hs).find? fun h => h.name == w.name && (w.fits h && p h) := by
  unfold findWhere?
  rw [hw]
  change ((ofList hs).bucket w.name).find? _ = _
  rw [bucket_ofList, standingOf, List.find?_filter]
  congr 1
  funext h
  rw [Bool.decide_and, Bool.decide_eq_true, Bool.decide_eq_true]

/-- A table that is filled from nothing answers from the history of its registrations alone. Blanks around a
text that is looked up do not count. A simple name stands for the first registration of that name that
stands and satisfies the condition; a qualified one for the last registration of exactly this name and package,
if it satisfies the condition. There are as many entries as names with packages, each listed once: by simple
name as these came, under a name in the order of the registrations that stand. -/
theorem table_refines_history (hs : List Handle) :
    (∀ p text, trim text = "" → (ofList hs).findWhere? p text = none) ∧
      (∀ p text name, trim text = name → name ≠ "" → '.' ∉ name.toList →
        (ofList hs).findWhere? p text = (standing hs).find? fun h => h.name == name && p h) ∧
      (∀ p text package name, trim text = package ++ "." ++ name → '.' ∉ name.toList →
        (ofList hs).findWhere? p text = ((hs.filter (·.key == (name, package))).getLast?).filter p) ∧
      (ofList hs).size = (hs.map Handle.key).toFinset.card ∧
      ((ofList hs).toList.map Handle.key).Nodup ∧
      (∀ key, key ∈ (ofList hs).toList.map Handle.key ↔ key ∈ hs.map Handle.key) ∧
      (ofList hs).toList =
        ((hs.map (·.name)).eraseDups).flatMap fun name => (standing hs).filter (·.name == name) := by
  have hkeys : ((ofList hs).toList.map Handle.key).Perm ((standing hs).map Handle.key) :=
    (perm_toList_ofList hs).map Handle.key
  refine ⟨?blank, ?simple, ?qualified, size_ofList hs, hkeys.nodup_iff.2 (nodup_keys_standing hs), ?listed,
    toList_ofList hs⟩
  case blank =>
    intro p text htrim
    unfold findWhere?
    rw [wanted_of_blank htrim]
    rfl
  case simple =>
    rintro p text name rfl hne hdot
    rw [findWhere?_ofList (wanted_of_simple hne hdot)]
    rfl
  case qualified =>
    intro p text package name htrim hdot
    rw [findWhere?_ofList (wanted_of_qualified htrim hdot), ← find?_standing]
    congr 1
    funext h
    have hfits : (⟨some package, name⟩ : Wanted).fits h = (h.package == package) := by
      rw [Bool.eq_iff_iff, beq_iff_eq, eq_comm (a := h.package)]
      exact beq_iff_eq
    rw [← Bool.and_assoc, hfits]
    rfl
  case listed =>
    intro key
    rw [hkeys.mem_iff, mem_keys_standing]

section Sample

/-- Two classes of one name, the first of them registered twice. -/
def sampleHistory : List Handle :=
  [{ name := "X", package := "a" }, { name := "X", package := "b" }, { name := "X", package := "a", kind := .enum }]

/-- The class that was registered again comes last under its name. -/
theorem table_refines_history_sample :
    (ofList sampleHistory).find? " X" = some { name := "X", package := "b" } ∧
      (ofList sampleHistory).find? "a.X" = some { name := "X", package := "a", kind := .enum } ∧
      (ofList sampleHistory).find? " " = none ∧ (ofList sampleHistory).size = 2 := by
  obtain ⟨hblank, hsimple, hqualified, hsize, -⟩ := table_refines_history sampleHistory
  have hfirst := hsimple (fun _ => true) " X" "X" (by decide +kernel) (by decide +kernel) (by decide +kernel)
  have hsecond := hqualified (fun _ => true) "a.X" "a" "X" (by decide +kernel) (by decide +kernel)
  exact ⟨hfirst.trans (by decide +kernel), hsecond.trans (by decide +kernel),
    hblank _ _ (by decide +kernel), hsize.trans (by decide +kernel)⟩

/-- A text with a blank in front finds the class of the name without it, and not the one whose package begins
with this blank. -/
theorem lookup_without_blanks :
    (ofList [{ name := "X", package := "p" }]).find? " X" ≠
        (standing [{ name := "X", package := "p" }]).find? (·.name == " X") ∧
      (ofList [{ name := "X", package := " p" }]).find? " p.X" ≠
        ([{ name := "X", package := " p" }].filter (Handle.key · == ("X", " p"))).getLast? := by
  decide +kernel

end Sample

end Symbols

end Scaffold
