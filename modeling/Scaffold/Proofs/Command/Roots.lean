import Scaffold.Command.Roots
import Scaffold.Proofs.Store.Tree

/-! Source roots and the place of a project. A root below the project is found if no name on the way to it is excluded,
the names on the way to the project included. So it is found in one place and lost in another one only if the way to one
of them, and not to the other, holds an excluded name. -/

namespace Scaffold.Command

open Scaffold.Store (Disk Location Entry)

/-- A project on a disk whose entries stand in directories and have names of their own. -/
structure Placed (d : Disk) (root : Location) : Prop where
  tree : d.Tree
  names : ∀ x ∈ d.entries, ".." ∉ x.1
  root : ".." ∉ root

/-- The same files and directories below two places. -/
def SameBelow (d : Disk) (root : Location) (d' : Disk) (root' : Location) : Prop :=
  ∀ l, d.entry? (root ++ l) = d'.entry? (root' ++ l)

/-- A directory at the root or below it has these names at its end, and no name on the way from the root is excluded. -/
def EndsBelow (d : Disk) (root names : Location) : Prop :=
  ∃ above, d.entry? (root ++ (above ++ names)) = some .directory ∧ isExcluded (above ++ names) = false

variable {d d' : Disk} {root root' names l : Location}

theorem isExcluded_append (a b : Location) : isExcluded (a ++ b) = (isExcluded a || isExcluded b) :=
  List.any_append

theorem mem_of_directory (h : d.entry? l = some .directory) (hl : l ≠ []) : (l, Entry.directory) ∈ d.entries := by
  unfold Disk.entry? at h
  rw [if_neg (by simpa using hl)] at h
  exact Entries.mem_of_lookup h

theorem mem_dirsFrom : l ∈ dirsFrom d root ↔
    l = root ∨ (l, Entry.directory) ∈ d.entries ∧ l ≠ root ∧ ∃ above, l = root ++ above := by
  unfold dirsFrom
  rw [List.mem_cons, List.mem_mergeSort, List.mem_filterMap]
  refine or_congr_right ⟨?_, ?_⟩
  · rintro ⟨⟨m, e⟩, hmem, hm⟩
    dsimp only at hm
    split at hm
    · next hcond =>
      cases hm
      simp only [Bool.and_eq_true, beq_iff_eq, bne_iff_ne] at hcond
      obtain ⟨⟨rfl, hne⟩, hbelow⟩ := hcond
      obtain ⟨above, habove⟩ := Option.isSome_iff_exists.1 hbelow
      exact ⟨hmem, hne, above, Store.relative?_eq_some.1 habove⟩
    · exact nomatch hm
  · rintro ⟨hmem, hne, above, rfl⟩
    refine ⟨_, hmem, if_pos ?_⟩
    simp [Store.relative?_eq_some.2 rfl, bne_iff_ne.2 hne]

theorem Placed.isDir_iff (h : Placed d root) {above : Location} (hl : ".." ∉ above) :
    d.isDir (root ++ above) = true ↔ d.entry? (root ++ above) = some .directory :=
  h.tree.isDir_iff fun hmem => (List.mem_append.1 hmem).elim h.root hl

theorem Placed.not_upward (h : Placed d root) {above : Location} (hd : d.entry? (root ++ above) = some .directory) :
    ".." ∉ above := by
  by_cases hne : root ++ above = []
  · rw [(List.append_eq_nil_iff.1 hne).2]
    exact List.not_mem_nil
  · exact fun hmem => h.names _ (mem_of_directory hd hne) (List.mem_append_right root hmem)

/-- What is found is a directory with the names at its end: at the root, or below it with no excluded name on the way. -/
theorem Placed.of_findRoot? (h : Placed d root) (hu : ".." ∉ names) (hl : findRoot? d root names = some l) :
    ∃ above, l = root ++ (above ++ names) ∧ d.entry? l = some .directory ∧
      (above = [] ∨ isExcluded root = false ∧ isExcluded (above ++ names) = false) := by
  unfold findRoot? at hl
  split at hl
  · next hdir =>
    cases hl
    exact ⟨[], rfl, (h.isDir_iff hu).1 hdir, .inl rfl⟩
  · obtain ⟨hcond, hmem⟩ := And.intro (List.find?_some hl) (List.mem_of_find?_eq_some hl)
    obtain ⟨hdir, hexcluded⟩ := Bool.and_eq_true_iff.1 hcond
    obtain ⟨m, hm, rfl⟩ := List.mem_map.1 hmem
    obtain ⟨above, rfl, habove⟩ : ∃ above, m = root ++ above ∧ ".." ∉ above := by
      rcases mem_dirsFrom.1 hm with rfl | ⟨hentry, -, above, rfl⟩
      · exact ⟨[], (List.append_nil m).symm, List.not_mem_nil⟩
      · exact ⟨above, rfl, fun hmem => h.names _ hentry (List.mem_append_right root hmem)⟩
    rw [List.append_assoc] at hdir hexcluded ⊢
    refine ⟨above, rfl, (h.isDir_iff fun hmem => (List.mem_append.1 hmem).elim habove hu).1 hdir, .inr ?_⟩
    rwa [isExcluded_append, Bool.not_eq_true', Bool.or_eq_false_iff] at hexcluded

theorem mem_dirsFrom_of_directory {above : Location} (hdir : d.entry? (root ++ above) = some .directory) :
    root ++ above ∈ dirsFrom d root := by
  refine mem_dirsFrom.2 ?_
  by_cases habove : above = []
  · exact .inl (by rw [habove, List.append_nil])
  · exact .inr ⟨mem_of_directory hdir (by simp [habove]), by simpa using habove, above, rfl⟩

theorem Placed.findRoot?_isSome (h : Placed d root) (hu : ".." ∉ names) :
    (findRoot? d root names).isSome ↔
      d.entry? (root ++ names) = some .directory ∨ isExcluded root = false ∧ EndsBelow d root names := by
  refine ⟨fun hsome => ?_, fun hcase => ?_⟩
  · obtain ⟨l, hl⟩ := Option.isSome_iff_exists.1 hsome
    obtain ⟨above, rfl, hdir, rfl | ⟨hroot, hway⟩⟩ := h.of_findRoot? hu hl
    · exact .inl hdir
    · exact .inr ⟨hroot, above, hdir, hway⟩
  · unfold findRoot?
    split
    · rfl
    · next hat =>
      obtain ⟨hroot, above, hdir, hway⟩ := hcase.resolve_left fun hdir => hat ((h.isDir_iff hu).2 hdir)
      have habove : d.entry? (root ++ above) = some .directory :=
        h.tree.directory_above (by rwa [List.append_assoc])
      refine List.find?_isSome.2 ⟨_, List.mem_map_of_mem (mem_dirsFrom_of_directory habove), ?_⟩
      rw [List.append_assoc, (h.isDir_iff (h.not_upward hdir)).2 hdir, isExcluded_append, hroot, hway]
      rfl

theorem SameBelow.endsBelow_iff (h : SameBelow d root d' root') :
    EndsBelow d root names ↔ EndsBelow d' root' names := by
  simp only [EndsBelow, h _]

/-- What is found is a directory at the root or below it. One is found if and only if it is right below the root, or no
name on the way to the root is excluded and there is one below with no excluded name on the way from the root. So two
places of the same project agree unless only one of them is below an excluded name, and then too if the directory is right
below the root or there is none that counts. -/
theorem roots_found_by_place (h : Placed d root) (h' : Placed d' root') (hsame : SameBelow d root d' root')
    (hu : ".." ∉ names) :
    (∀ l, findRoot? d root names = some l → ∃ above, l = root ++ (above ++ names) ∧ d.entry? l = some .directory ∧
      (above = [] ∨ isExcluded root = false ∧ isExcluded (above ++ names) = false)) ∧
    ((findRoot? d root names).isSome ↔
      d.entry? (root ++ names) = some .directory ∨ isExcluded root = false ∧ EndsBelow d root names) ∧
    (((findRoot? d root names).isSome ↔ (findRoot? d' root' names).isSome) ↔
      isExcluded root = isExcluded root' ∨ d.entry? (root ++ names) = some .directory ∨ ¬ EndsBelow d root names) := by
  refine ⟨fun l => h.of_findRoot? hu, h.findRoot?_isSome hu, ?_⟩
  rw [h.findRoot?_isSome hu, h'.findRoot?_isSome hu, ← hsame.endsBelow_iff, ← hsame names]
  by_cases hat : d.entry? (root ++ names) = some .directory
  · simp only [hat, true_or, or_true]
  · by_cases hends : EndsBelow d root names
    · cases isExcluded root <;> cases isExcluded root' <;> simp [hat, hends]
    · simp only [hat, hends, and_false, not_false_eq_true, or_true]

/-- A disk with a project on top of it. -/
def projectAt (place : String) (entries : List (Location × Entry)) : Disk :=
  ⟨([place], .directory) :: entries.map fun x => (place :: x.1, x.2)⟩

theorem lookup_projectAt (place : String) (entries : List (Location × Entry)) (l : Location) :
    (entries.map fun x => (place :: x.1, x.2)).lookup (place :: l) = entries.lookup l := by
  induction entries with
  | nil => rfl
  | cons x rest ih =>
    have hkey : (place :: l == place :: x.1) = (l == x.1) := by simp
    rw [List.map_cons, List.lookup_cons, List.lookup_cons, hkey, ih]

theorem sameBelow_projectAt (place place' : String) (entries : List (Location × Entry)) :
    SameBelow (projectAt place entries) [place] (projectAt place' entries) [place'] := by
  intro l
  cases l with
  | nil => simp [projectAt, Disk.entry?]
  | cons name l => simp [projectAt, Disk.entry?, List.lookup_cons, lookup_projectAt]

/-- A project whose sources are those of its one part. -/
def partSources : List (Location × Entry) :=
  [["web"], ["web", "src"], ["web", "src", "main"], ["web", "src", "main", "java"]].map (·, .directory)

theorem placed_partSources (place : String) (h : place ≠ "..") : Placed (projectAt place partSources) [place] where
  tree := Disk.tree_of_entries (by simp [projectAt, partSources, Disk.entry?, List.lookup_cons])
  names := by simp [projectAt, partSources, h.symm]
  root := by simp [h.symm]

theorem roots_found_by_place_partSources :
    Placed (projectAt "work" partSources) ["work"] ∧ Placed (projectAt "srv" partSources) ["srv"] ∧
    SameBelow (projectAt "work" partSources) ["work"] (projectAt "srv" partSources) ["srv"] ∧
    ".." ∉ javaSources ∧
    ((findRoot? (projectAt "work" partSources) ["work"] javaSources).isSome ↔
      (findRoot? (projectAt "srv" partSources) ["srv"] javaSources).isSome) := by
  have hwork : Placed (projectAt "work" partSources) ["work"] := placed_partSources "work" (by decide)
  have hsrv : Placed (projectAt "srv" partSources) ["srv"] := placed_partSources "srv" (by decide)
  have hsame := sameBelow_projectAt "work" "srv" partSources
  have hnames : ".." ∉ javaSources := by decide
  exact ⟨hwork, hsrv, hsame, hnames, (roots_found_by_place hwork hsrv hsame hnames).2.2.2 (.inl (by decide))⟩

/-- The same project, once in a directory named work and once in one named build. -/
theorem root_lost_below_build :
    Placed (projectAt "work" partSources) ["work"] ∧ Placed (projectAt "build" partSources) ["build"] ∧
    SameBelow (projectAt "work" partSources) ["work"] (projectAt "build" partSources) ["build"] ∧
    EndsBelow (projectAt "build" partSources) ["build"] javaSources ∧
    (findRoot? (projectAt "work" partSources) ["work"] javaSources).isSome ∧
    findRoot? (projectAt "build" partSources) ["build"] javaSources = none := by
  have hwork : Placed (projectAt "work" partSources) ["work"] := placed_partSources "work" (by decide)
  have hbuild : Placed (projectAt "build" partSources) ["build"] := placed_partSources "build" (by decide)
  have hsame := sameBelow_projectAt "work" "build" partSources
  have hnames : ".." ∉ javaSources := by decide
  have hends : EndsBelow (projectAt "build" partSources) ["build"] javaSources := ⟨["web"], by decide, by decide⟩
  refine ⟨hwork, hbuild, hsame, hends, ?_, ?_⟩
  · exact (hwork.findRoot?_isSome hnames).2 (.inr ⟨by decide, hsame.endsBelow_iff.2 hends⟩)
  · rw [← Option.not_isSome_iff_eq_none, hbuild.findRoot?_isSome hnames]
    exact not_or.2 ⟨by decide, fun hbelow => absurd hbelow.1 (by decide)⟩

end Scaffold.Command
