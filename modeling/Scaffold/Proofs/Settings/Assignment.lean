import Mathlib.Data.List.Nodup
import Mathlib.Data.List.TakeWhile
import Mathlib.Tactic.Tauto
import Scaffold.Settings

/-! Settings of a project, told by the lines that assign their keys. Of several such lines the last one counts, and no
other line of the text does. -/

namespace Scaffold

namespace Entries

variable {α β : Type} [DecidableEq α] {new entries : List (α × β)}

theorem nodup_put (h : (entries.map Prod.fst).Nodup) (key : α) (value : β) :
    ((put key value entries).map Prod.fst).Nodup := by
  induction entries with
  | nil => simp [put]
  | cons e rest ih =>
    obtain ⟨j, v⟩ := e
    obtain ⟨hj, hrest⟩ := List.nodup_cons.1 h
    by_cases hkey : j = key
    · rw [put, if_pos hkey]
      exact h
    · rw [put, if_neg hkey, List.map_cons, List.nodup_cons, mem_keys_put]
      exact ⟨fun hmem => hmem.elim hkey hj, ih hrest⟩

theorem nodup_putAll (h : (entries.map Prod.fst).Nodup) (new : List (α × β)) :
    ((putAll new entries).map Prod.fst).Nodup := by
  induction new generalizing entries with
  | nil => exact h
  | cons e new ih => exact ih (nodup_put h e.1 e.2)

theorem lookup_putAll [BEq α] [LawfulBEq α] (new entries : List (α × β)) (key : α) :
    (putAll new entries).lookup key = (new.reverse.lookup key).or (entries.lookup key) := by
  induction new generalizing entries with
  | nil => rfl
  | cons e new ih =>
    obtain ⟨k, v⟩ := e
    change (putAll new (put k v entries)).lookup key = _
    rw [ih, List.reverse_cons, List.lookup_append, Option.or_assoc, List.lookup_cons]
    by_cases h : key = k
    · rw [h, lookup_put_self, beq_self_eq_true]
      rfl
    · rw [lookup_put_ne h, beq_eq_false_iff_ne.2 h]
      rfl

end Entries

namespace Settings

open Scaffold.Text

/-- A line that assigns a value to a key. Without the blanks around it, it is the key, perhaps blanks, an equals sign or
a colon, and a rest, which is the value without the blanks around it. -/
structure Assigns (line key value : String) : Prop where
  key_ne : key ≠ ""
  key_chars : ∀ c ∈ key.toList, c ≠ '=' ∧ c ≠ ':' ∧ isBlank c = false
  no_comment : ∀ c ∈ key.toList.head?, c ≠ '#' ∧ c ≠ '!'
  form : ∃ gap sep rest, trimChars line.toList = key.toList ++ (gap ++ sep :: rest) ∧ (∀ c ∈ gap, isBlank c = true) ∧
    (sep = '=' ∨ sep = ':') ∧ value = trim (String.ofList rest)

theorem endsKey_eq_false_iff {c : Char} : endsKey c = false ↔ c ≠ '=' ∧ c ≠ ':' ∧ isBlank c = false := by
  simp [endsKey, and_assoc]

theorem endsKey_of_mem_gap {gap : List Char} {sep : Char} (hgap : ∀ c ∈ gap, isBlank c = true)
    (hsep : sep = '=' ∨ sep = ':') (rest : List Char) : ∃ c s, gap ++ sep :: rest = c :: s ∧ endsKey c = true := by
  cases gap with
  | nil =>
    refine ⟨sep, rest, rfl, ?_⟩
    rcases hsep with rfl | rfl <;> decide
  | cons c gap => exact ⟨c, gap ++ sep :: rest, rfl, by simp [endsKey, hgap c List.mem_cons_self]⟩

theorem dropBlanks_gap {gap rest : List Char} {sep : Char} (hgap : ∀ c ∈ gap, isBlank c = true)
    (hsep : sep = '=' ∨ sep = ':') : dropBlanks (gap ++ sep :: rest) = sep :: rest := by
  have hblank : isBlank sep = false := by rcases hsep with rfl | rfl <;> decide
  rw [dropBlanks_append hgap]
  exact dropBlanks_cons_of_not rest hblank

theorem property?_of_assigns {line key value : String} (h : Assigns line key value) :
    property? line = some (key, value) := by
  obtain ⟨hne, hchars, hcomment, gap, sep, rest, hline, hgap, hsep, rfl⟩ := h
  obtain ⟨c, k, hkey⟩ := List.exists_cons_of_ne_nil (fun hnil => hne (String.toList_eq_nil_iff.1 hnil))
  obtain ⟨d, s, hbehind, hends⟩ := endsKey_of_mem_gap hgap hsep rest
  have hall : ∀ x ∈ key.toList, (!endsKey x) = true := fun x hx => by
    rw [endsKey_eq_false_iff.2 (hchars x hx)]
    rfl
  -- The key ends where the gap begins, or at the separator if there is no gap.
  have htake : (trimChars line.toList).takeWhile (!endsKey ·) = key.toList := by
    rw [hline, List.takeWhile_append_of_pos hall, hbehind, List.takeWhile_cons_of_neg (by simp [hends]),
      List.append_nil]
  have hdrop : dropBlanks ((trimChars line.toList).dropWhile (!endsKey ·)) = sep :: rest := by
    rw [hline, List.dropWhile_append_of_pos hall, hbehind, List.dropWhile_cons_of_neg (by simp [hends]), ← hbehind,
      dropBlanks_gap hgap hsep]
  obtain ⟨hhash, hmark⟩ := hcomment c (by rw [hkey]; rfl)
  unfold property?
  dsimp only
  rw [htake, hdrop]
  split
  · next heq => simp [hline, hkey, hhash] at heq
  · next heq => simp [hline, hkey, hmark] at heq
  · have hname : String.ofList (c :: k) = key := by rw [← hkey, String.ofList_toList]
    rw [hkey, trim, String.toList_ofList]
    rcases hsep with rfl | rfl
    · exact congrArg (fun name => some (name, _)) hname
    · exact congrArg (fun name => some (name, _)) hname

theorem assigns_of_property? {line key value : String} (h : property? line = some (key, value)) :
    Assigns line key value := by
  -- The separator and the rest are found behind the key and the blanks that follow it.
  have hform (sep : Char) (hsep : sep = '=' ∨ sep = ':') {rest : List Char}
      (hhash : ∀ s, trimChars line.toList = '#' :: s → False) (hmark : ∀ s, trimChars line.toList = '!' :: s → False)
      {c : Char} {k : List Char} (hkey : (trimChars line.toList).takeWhile (!endsKey ·) = c :: k)
      (hrest : dropBlanks ((trimChars line.toList).dropWhile (!endsKey ·)) = sep :: rest) :
      Assigns line (String.ofList (c :: k)) (String.ofList (trimChars rest)) := by
    have hsplit : trimChars line.toList = c :: k ++ (trimChars line.toList).dropWhile (!endsKey ·) := by
      rw [← hkey, List.takeWhile_append_dropWhile]
    obtain ⟨gap, hgap, hblank⟩ : ∃ gap, (trimChars line.toList).dropWhile (!endsKey ·) = gap ++ sep :: rest ∧
        ∀ x ∈ gap, isBlank x = true := by
      refine ⟨((trimChars line.toList).dropWhile (!endsKey ·)).takeWhile isBlank, ?_,
        fun x hx => List.mem_takeWhile_imp hx⟩
      rw [← hrest, dropBlanks, List.takeWhile_append_dropWhile]
    refine ⟨by simp, fun x hx => ?_, fun x hx => ?_, gap, sep, rest, ?_, hblank, hsep, ?_⟩
    · rw [String.toList_ofList, ← hkey] at hx
      exact endsKey_eq_false_iff.1 (by simpa using List.mem_takeWhile_imp hx)
    · obtain rfl : c = x := by simpa using hx
      exact ⟨fun hc => hhash _ (hc ▸ hsplit), fun hc => hmark _ (hc ▸ hsplit)⟩
    · rw [String.toList_ofList, ← hgap]
      exact hsplit
    · rw [trim, String.toList_ofList]
  unfold property? at h
  dsimp only at h
  split at h
  · cases h
  · cases h
  · next hhash hmark =>
    split at h
    · next hkey hrest =>
      obtain ⟨rfl, rfl⟩ := Prod.mk.inj (Option.some.inj h)
      rw [hkey]
      exact hform '=' (.inl rfl) hhash hmark hkey hrest
    · next hkey hrest =>
      obtain ⟨rfl, rfl⟩ := Prod.mk.inj (Option.some.inj h)
      rw [hkey]
      exact hform ':' (.inr rfl) hhash hmark hkey hrest
    · cases h

theorem property?_eq_some_iff {line key value : String} :
    property? line = some (key, value) ↔ Assigns line key value :=
  ⟨assigns_of_property?, property?_of_assigns⟩

/-- The value that the last line to assign a key gives it. -/
def LastAssigned (text key value : String) : Prop :=
  ∃ front line back, lines text = front ++ line :: back ∧ Assigns line key value ∧
    ∀ later ∈ back, ∀ v, ¬Assigns later key v

/-- What a line assigns to a given key. -/
def assigned? (key line : String) : Option String :=
  (property? line).bind fun (k, v) => if key = k then some v else none

theorem assigned?_eq_some_iff {key line value : String} : assigned? key line = some value ↔ Assigns line key value := by
  rw [← property?_eq_some_iff]
  constructor
  · intro h
    obtain ⟨⟨k, v⟩, hproperty, hv⟩ := Option.bind_eq_some_iff.1 h
    dsimp only at hv
    split at hv
    · next hk =>
      obtain rfl := Option.some.inj hv
      rw [hproperty, hk]
    · exact nomatch hv
  · intro h
    simp [assigned?, h]

theorem assigned?_eq_none_iff {key line : String} : assigned? key line = none ↔ ∀ v, ¬Assigns line key v := by
  simp only [Option.eq_none_iff_forall_ne_some, ne_eq, assigned?_eq_some_iff]

theorem lookup_filterMap_property? (key : String) (ls : List String) :
    (ls.filterMap property?).lookup key = ls.findSome? (assigned? key) := by
  induction ls with
  | nil => rfl
  | cons l ls ih =>
    cases h : property? l with
    | none => simp [h, ih, assigned?]
    | some p =>
      obtain ⟨k, v⟩ := p
      by_cases hk : key = k
      · simp [h, hk, assigned?]
      · simp [h, hk, ih, assigned?, List.lookup_cons, beq_eq_false_iff_ne.2 hk]

theorem lookup_properties_iff {text key value : String} :
    (properties text).lookup key = some value ↔ LastAssigned text key value := by
  rw [properties, Entries.lookup_putAll, List.lookup_nil, Option.or_none, ← List.filterMap_reverse,
    lookup_filterMap_property?, List.findSome?_eq_some_iff]
  constructor
  · rintro ⟨after, line, before, hlines, hline, hafter⟩
    refine ⟨before.reverse, line, after.reverse, ?_, assigned?_eq_some_iff.1 hline, fun later hlater => ?_⟩
    · rw [← List.reverse_inj, hlines]
      simp
    · exact assigned?_eq_none_iff.1 (hafter later (List.mem_reverse.1 hlater))
  · rintro ⟨front, line, back, hlines, hline, hback⟩
    refine ⟨back.reverse, line, front.reverse, by simp [hlines], assigned?_eq_some_iff.2 hline, fun later hlater => ?_⟩
    exact assigned?_eq_none_iff.2 (hback later (List.mem_reverse.1 hlater))

/-- The settings in which the keys that have values are set to them, each read by the rule of its setting. -/
def update (s : Settings) (valueOf : String → Option String) : Settings :=
  { s with
    excel := ((valueOf "common.func.excel").map parseBool).getD s.excel
    withInterface := ((valueOf "service.interface").map parseBool).getD s.withInterface
    controllerPath :=
      ((valueOf "controller.prefix").map fun v => (nonempty? (trim v)).getD "/api").getD s.controllerPath
    withSuper := ((valueOf "common.super").map parseBool).getD s.withSuper
    superService := ((valueOf "common.super.service").map fun v => nonempty? (trim v)).getD s.superService
    superController := ((valueOf "common.super.controller").map fun v => nonempty? (trim v)).getD s.superController
    superDao := ((valueOf "common.super.dao").map fun v => nonempty? (trim v)).getD s.superDao
    withPage := ((valueOf "ui.enable").map parseBool).getD s.withPage }

/-- The keys of the settings. -/
def keys : List String :=
  ["common.func.excel", "service.interface", "controller.prefix", "common.super", "common.super.service",
   "common.super.controller", "common.super.dao", "ui.enable"]

theorem update_congr {s : Settings} {f g : String → Option String} (h : ∀ key ∈ keys, f key = g key) :
    s.update f = s.update g := by
  simp only [keys, List.forall_mem_cons] at h
  obtain ⟨h1, h2, h3, h4, h5, h6, h7, h8, -⟩ := h
  rw [update, h1, h2, h3, h4, h5, h6, h7, h8]
  rfl

/-- A property that comes first takes effect where no later one has its key. -/
theorem update_assign (s : Settings) {key : String} (value : String) {rest : List (String × String)}
    (h : rest.lookup key = none) :
    (s.assign key value).update (rest.lookup ·) = s.update (((key, value) :: rest).lookup ·) := by
  unfold assign
  split
  case h_1 | h_2 | h_3 | h_4 | h_5 | h_6 | h_7 | h_8 => simp [update, List.lookup_cons, h]
  case h_9 hexcel hinterface hprefix hsuper hservice hcontroller hdao hpage =>
    refine update_congr fun k hk => ?_
    have hne : (k == key) = false := by
      refine beq_eq_false_iff_ne.2 fun heq => ?_
      subst heq
      simp only [keys, List.mem_cons, List.not_mem_nil, or_false] at hk
      tauto
    rw [List.lookup_cons, hne]

theorem foldl_assign (s : Settings) {ps : List (String × String)} (h : (ps.map Prod.fst).Nodup) :
    ps.foldl (fun s (k, v) => s.assign k v) s = s.update (ps.lookup ·) := by
  induction ps generalizing s with
  | nil => rfl
  | cons p ps ih =>
    obtain ⟨key, value⟩ := p
    obtain ⟨hkey, hps⟩ := List.nodup_cons.1 h
    have hnone : ps.lookup key = none := by
      refine List.lookup_eq_none_iff.2 fun p hp => bne_iff_ne.2 fun heq => hkey ?_
      exact List.mem_map.2 ⟨p, hp, heq.symm⟩
    rw [List.foldl_cons, ih _ hps]
    exact update_assign s value hnone

theorem ofText_eq (text : String) : ofText text = ({} : Settings).update ((properties text).lookup ·) :=
  have hnone : (([] : List (String × String)).map Prod.fst).Nodup := List.nodup_nil
  foldl_assign {} (Entries.nodup_putAll hnone _)

/-- A line in front of a later one that assigns its key can be left out, and so can a line that assigns no key. -/
theorem lastAssigned_iff_without {text other key : String} {front back : List String} {line : String}
    (htext : lines text = front ++ line :: back) (hother : lines other = front ++ back)
    (hline : (∃ v, Assigns line key v) → ∃ later ∈ back, ∃ v, Assigns later key v) (value : String) :
    LastAssigned other key value ↔ LastAssigned text key value := by
  have hvalue {ls : List String} {t : String} (ht : lines t = ls) :
      LastAssigned t key value ↔ ls.reverse.findSome? (assigned? key) = some value := by
    rw [← lookup_properties_iff, properties, Entries.lookup_putAll, List.lookup_nil, Option.or_none,
      ← List.filterMap_reverse, lookup_filterMap_property?, ht]
  rw [hvalue hother, hvalue htext]
  simp only [List.reverse_append, List.reverse_cons, List.append_assoc, List.findSome?_append]
  cases hfound : back.reverse.findSome? (assigned? key) with
  | some v => rfl
  | none =>
    have hnone : assigned? key line = none := by
      refine assigned?_eq_none_iff.2 fun v hv => ?_
      obtain ⟨later, hlater, w, hw⟩ := hline ⟨v, hv⟩
      have hlater := List.findSome?_eq_none_iff.1 hfound later (List.mem_reverse.2 hlater)
      exact assigned?_eq_none_iff.1 hlater w hw
    simp [hnone]

/-- The value of a setting may hold further separators. -/
example : ofText "ui.enable=no\n!ui.enable=no\r\n ui.enable : TRUE \ncontroller.prefix = a=b" =
    { withPage := true, controllerPath := "a=b" } := by
  decide +kernel

end Settings

end Scaffold
