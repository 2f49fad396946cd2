/-! Lists of keys with values, in the order in which the keys came. -/

namespace Scaffold.Entries

variable {α β : Type} [DecidableEq α]

/-- A key keeps its first place and takes its last value. -/
def put (key : α) (value : β) : List (α × β) → List (α × β)
  | [] => [(key, value)]
  | (k, v) :: r => if k = key then (k, value) :: r else (k, v) :: put key value r

theorem mem_keys_put {key k : α} {value : β} {entries : List (α × β)} :
    k ∈ (put key value entries).map Prod.fst ↔ k = key ∨ k ∈ entries.map Prod.fst := by
  induction entries with
  | nil => simp [put]
  | cons e rest ih =>
    obtain ⟨j, v⟩ := e
    by_cases h : j = key
    · simp [put, h]
    · rw [put, if_neg h, List.map_cons, List.mem_cons, ih, List.map_cons, List.mem_cons]
      exact or_left_comm

section Lookup

variable [BEq α] [LawfulBEq α]

theorem lookup_put_self (key : α) (value : β) (entries : List (α × β)) :
    (put key value entries).lookup key = some value := by
  induction entries with
  | nil => simp [put]
  | cons e r ih =>
    obtain ⟨k, v⟩ := e
    by_cases h : k = key
    · simp [put, h]
    · have hk : (key == k) = false := beq_eq_false_iff_ne.2 (Ne.symm h)
      simp [put, h, List.lookup_cons, hk, ih]

theorem lookup_put_ne {key other : α} (h : other ≠ key) (value : β) (entries : List (α × β)) :
    (put key value entries).lookup other = entries.lookup other := by
  have hk : (other == key) = false := beq_eq_false_iff_ne.2 h
  induction entries with
  | nil => simp [put, List.lookup_cons, hk]
  | cons e r ih =>
    obtain ⟨k, v⟩ := e
    by_cases he : k = key
    · simp [put, he, List.lookup_cons, hk]
    · simp [put, he, List.lookup_cons, ih]

/-- A new key goes to the end. -/
theorem put_of_absent {key : α} {entries : List (α × β)} (h : entries.lookup key = none) (value : β) :
    put key value entries = entries ++ [(key, value)] := by
  induction entries with
  | nil => rfl
  | cons entry rest ih =>
    obtain ⟨k, v⟩ := entry
    rw [List.lookup_cons] at h
    by_cases hk : key = k
    · simp [hk] at h
    · have hbeq : (key == k) = false := beq_eq_false_iff_ne.2 hk
      rw [hbeq] at h
      rw [put, if_neg (Ne.symm hk), ih h, List.cons_append]

omit [DecidableEq α] in
theorem mem_of_lookup {entries : List (α × β)} {key : α} {value : β} (h : entries.lookup key = some value) :
    (key, value) ∈ entries := by
  obtain ⟨before, after, hentries, -⟩ := List.lookup_eq_some_iff.1 h
  rw [hentries]
  exact List.mem_append_right before List.mem_cons_self

omit [DecidableEq α] in
theorem lookup_of_mem {entries : List (α × β)} {key : α} {value : β} (hd : (entries.map Prod.fst).Nodup)
    (h : (key, value) ∈ entries) : entries.lookup key = some value := by
  induction entries with
  | nil => exact absurd h List.not_mem_nil
  | cons entry rest ih =>
    obtain ⟨k, v⟩ := entry
    rw [List.map_cons, List.nodup_cons] at hd
    rw [List.lookup_cons]
    rcases List.mem_cons.1 h with hhead | htail
    · cases hhead
      rw [beq_self_eq_true]
    · have hne : key ≠ k := fun hk => hd.1 (List.mem_map.2 ⟨_, htail, hk⟩)
      rw [beq_eq_false_iff_ne.2 hne]
      exact ih hd.2 htail

omit [DecidableEq α] in
/-- Among entries of different keys the order does not matter. -/
theorem lookup_of_perm {entries known : List (α × β)} (h : entries.Perm known) (hd : (known.map Prod.fst).Nodup)
    (key : α) : entries.lookup key = known.lookup key := by
  cases hfound : known.lookup key with
  | none =>
    rw [List.lookup_eq_none_iff] at hfound ⊢
    exact fun entry hentry => hfound entry (h.mem_iff.1 hentry)
  | some value =>
    have hmem : (key, value) ∈ known := mem_of_lookup hfound
    exact lookup_of_mem ((h.map Prod.fst).nodup_iff.2 hd) (h.mem_iff.2 hmem)

end Lookup

/-- Entries put one after the other. -/
def putAll (new : List (α × β)) (entries : List (α × β)) : List (α × β) :=
  new.foldl (fun known (k, v) => put k v known) entries

/-- Entries of different keys stay as they are. -/
theorem putAll_of_distinct {new : List (α × β)} (h : (new.map Prod.fst).Nodup) (known : List (α × β))
    (hnew : ∀ entry ∈ new, known.lookup entry.1 = none) : putAll new known = known ++ new := by
  induction new generalizing known with
  | nil => exact (List.append_nil known).symm
  | cons entry rest ih =>
    obtain ⟨key, value⟩ := entry
    rw [List.map_cons, List.nodup_cons] at h
    have hput : put key value known = known ++ [(key, value)] :=
      put_of_absent (hnew (key, value) List.mem_cons_self) value
    have hrest : ∀ entry ∈ rest, (known ++ [(key, value)]).lookup entry.1 = none := by
      intro other hother
      have hne : (other.1 == key) = false :=
        beq_eq_false_iff_ne.2 fun he => h.1 (List.mem_map.2 ⟨other, hother, he⟩)
      rw [List.lookup_append, hnew other (List.mem_cons_of_mem _ hother), List.lookup_cons, hne]
      rfl
    change putAll rest (put key value known) = _
    rw [hput, ih h.2 _ hrest, List.append_assoc]
    rfl

end Scaffold.Entries
