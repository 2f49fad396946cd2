import Scaffold.Proofs.Json.ReadBack
import Scaffold.Proofs.Store.Tree
import Scaffold.Proofs.Text.Utf8
import Scaffold.Store.Project

/-! A manifest that was saved and the one that is loaded afterwards. Main statement: they are the same map, whatever
its paths and digests are made of, and a project that is opened again starts with it. -/

namespace Scaffold.Store

namespace Disk

variable {d : Disk} {l : Location} {e : Entry}

/-- An entry that is no directory is on no way, so a new one in its place leaves all ways as they are. -/
theorem walk_set (hl : d.entry? l ≠ some .directory) {here names m : Location} (h : d.walk here names = .ok m) :
    (d.set l e).walk here names = .ok m := by
  induction names generalizing here with
  | nil => exact h
  | cons name rest ih =>
    cases rest with
    | nil => exact h
    | cons next rest =>
      rw [walk] at h ⊢
      · by_cases hup : name == ".."
        · rw [if_pos hup] at h ⊢
          exact ih h
        · rw [if_neg hup] at h ⊢
          split at h
          · cases h
          · cases h
          · next hentry =>
            -- The walk only passes directories, and what was set was none.
            have hne : here ++ [name] ≠ l := fun hsame => hl (hsame ▸ hentry)
            rw [set_elsewhere hne, hentry]
            exact ih h
      all_goals simp

theorem look?_of_write {names : List String} {bytes : List UInt8} {d' : Disk} (h : d.write names bytes = .ok d') :
    d'.look? names = some (.file bytes) := by
  unfold write at h
  split at h
  · exact nomatch h
  · next l hwalk =>
    split at h
    · exact nomatch h
    · next hfree =>
      cases h
      rw [beq_iff_eq] at hfree
      have htop : l ≠ [] := fun hl => hfree (by rw [hl]; rfl)
      unfold look?
      rw [walk_set hfree hwalk]
      exact set_here htop

end Disk

namespace Manifest

variable {m : Manifest}

theorem sorted_perm (m : Manifest) : m.sorted.Perm m := List.mergeSort_perm m _

theorem ofValue_ofTexts (m : Manifest) : ofValue (Json.ofTexts m) = m := by
  change (m.map _).map _ = m
  rw [List.map_map]
  exact List.map_id m

/-- The bytes of a manifest hold its entries, ordered by path. -/
theorem decode_encode (h : (m.map Prod.fst).Nodup) : decode m.encode = .ok m.sorted := by
  have hsorted : (m.sorted.map Prod.fst).Nodup := (m.sorted_perm.map Prod.fst).nodup_iff.2 h
  have hbytes : Text.Utf8.readStrict m.encode = .ok m.text :=
    Text.Utf8.readStrict_encode_of_lf (Json.cr_not_mem_write m.sorted)
  have htext : Json.read m.text = .ok (Json.ofTexts m.sorted) := Json.read_write_ofTexts hsorted
  rw [decode, hbytes]
  change (do return ofValue (← Json.read m.text)) = _
  rw [htext]
  exact congrArg Except.ok (ofValue_ofTexts m.sorted)

theorem look?_of_save {d d' : Disk} {root : Location} (h : m.save d root = (d', [])) :
    d'.look? (fileOf root) = some (.file m.encode) := by
  unfold save at h
  dsimp only at h
  split at h
  · cases h
  · split at h
    · next hwrite =>
      cases h
      exact Disk.look?_of_write hwrite
    · cases h

theorem load_of_save (hm : (m.map Prod.fst).Nodup) {d d' : Disk} {root : Location} (h : m.save d root = (d', [])) :
    load d' root = (m.sorted, []) := by
  unfold load
  dsimp only
  rw [look?_of_save h]
  dsimp only
  rw [decode_encode hm]

/-- A manifest that was saved without a warning is loaded without one. It has the same entries, so every path has
the digest that it had, and so has the manifest of a project that is opened again. -/
theorem load_save_same_map (hm : (m.map Prod.fst).Nodup) {d d' : Disk} {root : Location}
    (hsave : m.save d root = (d', [])) :
    ∃ loaded, load d' root = (loaded, []) ∧ loaded.Perm m ∧ (∀ path, loaded.lookup path = m.lookup path) ∧
      ∀ rehearsal, (Project.load d' root rehearsal).1.manifest = loaded := by
  have hload := load_of_save hm hsave
  refine ⟨m.sorted, hload, m.sorted_perm, fun path => Entries.lookup_of_perm m.sorted_perm hm path, fun _ => ?_⟩
  unfold Project.load
  rw [hload]

section Sample

/-- Paths and digests with every kind of character that is written with an escape, and with some that end lines. -/
def awkward : Manifest :=
  [("z\"\\/\r\n.java", "\t\x08\x0c\x01"), ("", "\u2028\u0085\u007f"), ("a\r", "\ufeff😀")]

/-- The disk of a project in which nothing was saved so far. -/
def bareDisk : Disk := ⟨[(["w"], .directory)]⟩

theorem load_save_same_map_awkward :
    (awkward.map Prod.fst).Nodup ∧ (awkward.save bareDisk ["w"]).2 = [] ∧
      ∃ loaded, load (awkward.save bareDisk ["w"]).1 ["w"] = (loaded, []) ∧
        loaded.lookup "a\r" = some "\ufeff😀" := by
  have hkeys : (awkward.map Prod.fst).Nodup := by decide
  have hsaved : (awkward.save bareDisk ["w"]).2 = [] := rfl
  obtain ⟨loaded, hload, -, hlookup, -⟩ := load_save_same_map hkeys (Prod.ext rfl hsaved)
  refine ⟨hkeys, hsaved, loaded, hload, ?_⟩
  rw [hlookup]
  decide

end Sample

end Manifest

end Scaffold.Store
