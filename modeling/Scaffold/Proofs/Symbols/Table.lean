import Scaffold.Symbols.Table

/-! What a registration changes in the table of known classes: the classes of one name only, and a class
that fits gives way only to one that does not. -/

namespace Scaffold.Symbols

/-- Names that are looked up as they stand, in all packages. -/
def Simple (name : String) : Prop := Wanted.of? name = some ⟨none, name⟩

theorem lookup_registerIn (h : Handle) (buckets : List (String × List Handle)) (name : String) :
    ((registerIn h buckets).lookup name).getD [] =
      if name = h.name then enter h ((buckets.lookup name).getD []) else (buckets.lookup name).getD [] := by
  induction buckets with
  | nil =>
    by_cases hn : name = h.name
    · rw [if_pos hn, registerIn, List.lookup_cons, hn, beq_self_eq_true]
      rfl
    · rw [if_neg hn, registerIn, List.lookup_cons, beq_eq_false_iff_ne.2 hn]
  | cons entry rest ih =>
    obtain ⟨key, bucket⟩ := entry
    rw [registerIn]
    by_cases hkey : key = h.name
    · rw [if_pos (beq_iff_eq.2 hkey)]
      by_cases hn : name = h.name
      · rw [if_pos hn, List.lookup_cons, List.lookup_cons, hn, hkey, beq_self_eq_true]
        rfl
      · have hne : (name == key) = false := beq_eq_false_iff_ne.2 fun hk => hn (hk.trans hkey)
        rw [if_neg hn, List.lookup_cons, List.lookup_cons, hne]
    · rw [if_neg fun hk => hkey (beq_iff_eq.1 hk), List.lookup_cons, List.lookup_cons]
      by_cases hk : name = key
      · rw [hk, beq_self_eq_true, if_neg hkey]
      · rw [beq_eq_false_iff_ne.2 hk]
        exact ih

theorem bucket_register_self {s : Symbols} {h : Handle} {name : String} (hn : h.name = name) :
    (s.register h).bucket name = enter h (s.bucket name) := by
  unfold bucket register
  rw [lookup_registerIn, if_pos hn.symm]

theorem bucket_register_of_ne {s : Symbols} {h : Handle} {name : String} (hn : h.name ≠ name) :
    (s.register h).bucket name = s.bucket name := by
  unfold bucket register
  rw [lookup_registerIn, if_neg hn.symm]

theorem mem_enter_self (h : Handle) (bucket : List Handle) : h ∈ enter h bucket :=
  List.mem_append_right _ (List.mem_singleton_self h)

section Simple

variable {fits : Handle → Bool} {name : String}

theorem findWhere?_simple (hs : Simple name) (s : Symbols) :
    s.findWhere? fits name = (s.bucket name).find? fits := by
  unfold findWhere?
  rw [show Wanted.of? name = _ from hs]
  rfl

theorem findWhere?_isSome (hs : Simple name) (s : Symbols) :
    (s.findWhere? fits name).isSome = true ↔ ∃ h ∈ s.bucket name, fits h = true := by
  rw [findWhere?_simple hs, List.find?_isSome]

theorem findWhere?_register_of_ne (hs : Simple name) (s : Symbols) {h : Handle} (hn : h.name ≠ name) :
    (s.register h).findWhere? fits name = s.findWhere? fits name := by
  rw [findWhere?_simple hs, findWhere?_simple hs, bucket_register_of_ne hn]

theorem findWhere?_register_self (hs : Simple name) (s : Symbols) {h : Handle} (hn : h.name = name)
    (hfits : fits h = true) : ((s.register h).findWhere? fits name).isSome = true := by
  rw [findWhere?_isSome hs, bucket_register_self hn]
  exact ⟨h, mem_enter_self h _, hfits⟩

/-- Whatever comes under a name, as long as it fits something that fits is still found. -/
theorem findWhere?_register (hs : Simple name) {s : Symbols} {h : Handle}
    (hfits : h.name = name → fits h = true) (hfound : (s.findWhere? fits name).isSome = true) :
    ((s.register h).findWhere? fits name).isSome = true := by
  by_cases hn : h.name = name
  · exact findWhere?_register_self hs s hn (hfits hn)
  · rw [findWhere?_register_of_ne hs s hn]
    exact hfound

end Simple

end Scaffold.Symbols
