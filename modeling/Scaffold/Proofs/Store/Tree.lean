import Scaffold.Store.Disk

/-! Disks on which every entry stands in a directory. Names without double dots are then locations, and a
directory or a file goes into a directory without a change elsewhere. -/

namespace Scaffold.Store

theorem relative?_eq_some {root l : Location} {names : List String} :
    relative? root l = some names ↔ l = root ++ names := by
  induction root generalizing l with
  | nil =>
    rw [relative?, Option.some_inj]
    rfl
  | cons a r ih =>
    cases l with
    | nil => exact ⟨nofun, nofun⟩
    | cons b l =>
      rw [relative?, List.cons_append, List.cons.injEq]
      by_cases hab : a = b
      · rw [if_pos (beq_iff_eq.2 hab), ih, and_iff_right hab.symm]
      · rw [if_neg fun h => hab (beq_iff_eq.1 h)]
        exact ⟨nofun, fun h => absurd h.1.symm hab⟩

end Scaffold.Store

namespace Scaffold.Store.Disk

variable {d : Disk} {l m : Location} {name : String} {e : Entry}

/-- Every entry stands in a directory. -/
def Tree (d : Disk) : Prop :=
  ∀ (l : Location) (name : String), (d.entry? (l ++ [name])).isSome → d.entry? l = some .directory

/-- It is enough to look at the entries themselves. -/
theorem tree_of_entries (h : ∀ x ∈ d.entries, d.entry? x.1.dropLast = some .directory) : d.Tree := by
  intro l name hsome
  obtain ⟨entry, hentry⟩ := Option.isSome_iff_exists.1 hsome
  unfold entry? at hentry
  rw [if_neg (by simp)] at hentry
  have habove := h (l ++ [name], entry) (Entries.mem_of_lookup hentry)
  rwa [List.dropLast_concat] at habove

theorem set_here (h : l ≠ []) : entry? (d.set l e) l = some e := by
  unfold entry? set
  dsimp only
  rw [if_neg (by simpa using h), Entries.lookup_put_self]

theorem set_elsewhere (h : m ≠ l) : entry? (d.set l e) m = d.entry? m := by
  unfold entry? set
  dsimp only
  rw [Entries.lookup_put_ne h]

theorem Tree.above (hd : d.Tree) (h : (d.entry? (l ++ m)).isSome) (hm : m ≠ []) :
    d.entry? l = some .directory := by
  induction m generalizing l with
  | nil => exact absurd rfl hm
  | cons name rest ih =>
    rw [List.append_cons] at h
    by_cases hr : rest = []
    · subst hr
      rw [List.append_nil] at h
      exact hd l name h
    · refine hd l name ?_
      rw [ih h hr]
      rfl

theorem Tree.directory_above (hd : d.Tree) (h : d.entry? (l ++ m) = some .directory) :
    d.entry? l = some .directory := by
  by_cases hm : m = []
  · rwa [hm, List.append_nil] at h
  · refine hd.above ?_ hm
    rw [h]
    rfl

/-- What goes into a directory, but in the place of none, leaves every entry in a directory. -/
theorem Tree.set (hd : d.Tree) (hl : d.entry? l = some .directory)
    (hfree : d.entry? (l ++ [name]) ≠ some .directory) : (d.set (l ++ [name]) e).Tree := by
  intro m other h
  have hkeep : d.entry? m = some .directory := by
    by_cases hsame : m ++ [other] = l ++ [name]
    · rw [List.append_inj_left' hsame rfl]
      exact hl
    · rw [set_elsewhere hsame] at h
      exact hd m other h
  rw [set_elsewhere, hkeep]
  rintro rfl
  exact hfree hkeep

theorem walk_eq {here names : Location} (hu : ".." ∉ names) (h : d.walk here names = .ok l) :
    l = here ++ names := by
  induction names generalizing here with
  | nil =>
    cases h
    rw [List.append_nil]
  | cons name rest ih =>
    have hname : (name == "..") = false := beq_eq_false_iff_ne.2 fun hn => hu (hn ▸ List.mem_cons_self)
    cases rest with
    | nil =>
      rw [walk, hname] at h
      cases h
      rfl
    | cons second rest =>
      rw [walk, hname] at h
      · simp only [Bool.false_eq_true, if_false] at h
        split at h
        · exact nomatch h
        · exact nomatch h
        · rw [List.append_cons]
          exact ih (fun hm => hu (List.mem_cons_of_mem name hm)) h
      · simp

theorem Tree.walk_of_above (hd : d.Tree) (here : Location) {names : Location} (hu : ".." ∉ names ++ [name])
    (h : d.entry? (here ++ names) = some .directory) :
    d.walk here (names ++ [name]) = .ok (here ++ names ++ [name]) := by
  induction names generalizing here with
  | nil =>
    have hname : (name == "..") = false := beq_eq_false_iff_ne.2 fun hn => hu (by simp [hn])
    rw [List.nil_append, walk, hname, List.append_nil]
    rfl
  | cons first rest ih =>
    have hfirst : (first == "..") = false := beq_eq_false_iff_ne.2 fun hn => hu (by simp [hn])
    rw [List.append_cons] at h
    have hentry : d.entry? (here ++ [first]) = some .directory := hd.directory_above h
    rw [List.cons_append, walk, hfirst, hentry, List.append_cons here first rest]
    · change d.walk (here ++ [first]) (rest ++ [name]) = _
      exact ih _ (fun hm => hu (List.mem_cons_of_mem first hm)) h
    · simp

theorem Tree.look?_eq (hd : d.Tree) {names : Location} (hu : ".." ∉ names) :
    d.look? names = d.entry? names := by
  unfold look?
  rcases hw : d.walk [] names with c | l
  · rcases List.eq_nil_or_concat names with rfl | ⟨init, last, rfl⟩
    · exact nomatch hw
    · rw [List.concat_eq_append] at hu hw ⊢
      rcases he : d.entry? (init ++ [last]) with _ | entry
      · rfl
      · have habove := hd init last (by rw [he]; rfl)
        rw [hd.walk_of_above [] hu habove] at hw
        exact nomatch hw
  · rw [walk_eq hu hw]
    rfl

theorem Tree.isDir_iff (hd : d.Tree) {names : Location} (hu : ".." ∉ names) :
    d.isDir names = true ↔ d.entry? names = some .directory := by
  unfold isDir
  rw [hd.look?_eq hu, beq_iff_eq]

theorem Tree.makeDirs_of_isDir (hd : d.Tree) {names : Location} (hu : ".." ∉ names)
    (h : d.entry? names = some .directory) : d.makeDirs names = (.ok (), d) := by
  rcases List.eq_nil_or_concat names with rfl | ⟨init, last, rfl⟩
  · rfl
  · rw [List.concat_eq_append] at hu h ⊢
    have habove := hd init last (by rw [h]; rfl)
    -- The last name is taken by a directory, so nothing is made, on the way up neither.
    have hmake : d.makeDir (init ++ [last]) = .error .taken := by
      unfold makeDir
      rw [hd.walk_of_above [] hu habove]
      dsimp only
      rw [List.nil_append, h]
      rfl
    have hensure : d.ensureDir (init ++ [last]) = (.ok (), d) := by
      unfold ensureDir
      rw [hmake]
      dsimp only
      rw [if_pos ((hd.isDir_iff hu).2 h)]
    unfold makeDirs
    rw [List.reverse_append, List.reverse_singleton, List.singleton_append, makeDirsUp]
    simp only [List.reverse_cons, List.reverse_reverse, hmake, hensure]

/-- A directory below another one is made where nothing is, and nowhere else. -/
theorem Tree.makeDirs_below (hd : d.Tree) (hu : ".." ∉ l ++ [name]) (hl : d.entry? l = some .directory) :
    d.makeDirs (l ++ [name]) =
      if d.entry? (l ++ [name]) = none then (.ok (), d.set (l ++ [name]) .directory)
      else if d.entry? (l ++ [name]) = some .directory then (.ok (), d)
      else (.error ⟨.taken, l ++ [name]⟩, d) := by
  have hmake : d.makeDir (l ++ [name]) = if (d.entry? (l ++ [name])).isSome then .error .taken
      else .ok (d.set (l ++ [name]) .directory) := by
    unfold makeDir
    rw [hd.walk_of_above [] hu hl]
    rfl
  unfold makeDirs
  rw [List.reverse_append, List.reverse_singleton, List.singleton_append, makeDirsUp]
  simp only [List.reverse_cons, List.reverse_reverse, ensureDir, hmake]
  rcases he : d.entry? (l ++ [name]) with _ | entry
  · simp
  · by_cases hdir : entry = .directory
    · simp [hdir, (hd.isDir_iff hu).2 (he.trans (congrArg some hdir))]
    · have hno : ¬ d.isDir (l ++ [name]) = true := by
        rw [hd.isDir_iff hu, he]
        simpa using hdir
      simp [hdir, hno]

/-- A file goes into a directory, unless a directory of its name is there. -/
theorem Tree.write_below (hd : d.Tree) (hu : ".." ∉ l ++ [name]) (hl : d.entry? l = some .directory)
    (bytes : List UInt8) :
    d.write (l ++ [name]) bytes =
      if d.entry? (l ++ [name]) = some .directory then .error ⟨.isDirectory, l ++ [name]⟩
      else .ok (d.set (l ++ [name]) (.file bytes)) := by
  unfold write
  rw [hd.walk_of_above [] hu hl]
  simp only [List.nil_append, beq_iff_eq]

end Scaffold.Store.Disk
