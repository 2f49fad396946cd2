import Mathlib.Data.List.SplitBy
import Scaffold.Name

/-! Words of identifiers. A text has one tiling whose tiles meet exactly at its cuts, for any classification of its
characters, and its words are the tiles of letters and digits. -/

namespace Scaffold.Name

open Scaffold.Text

variable {kind : Char → Kind} {s t u w front : List Char} {ws vs : List (List Char)}

/-- Whether two neighbours belong to different words, `back` being what stands behind them. They do where the kind
changes, but for a capital and a small letter, and before the last capital of a run that goes on in small letters. -/
def Cut (kind : Char → Kind) (a b : Char) (back : List Char) : Prop :=
  (kind a ≠ kind b ∧ ¬(kind a = .upper ∧ kind b = .lower)) ∨
    (kind a = .upper ∧ kind b = .upper ∧ ∃ c ∈ back.head?, kind c = .lower)

/-- Some of the tiles make up the front of the text. -/
def Divides (tiles : List (List Char)) (front : List Char) : Prop := ∃ l r, tiles = l ++ r ∧ l.flatten = front

/-- A text in tiles that meet where there is a cut and nowhere else. Characters that are no part of a word have tiles
of their own. -/
structure Tiling (kind : Char → Kind) (s : List Char) (tiles : List (List Char)) : Prop where
  not_nil : [] ∉ tiles
  flatten : tiles.flatten = s
  divides_iff : ∀ {front back : List Char} {a b : Char}, s = front ++ a :: b :: back →
    (Divides tiles (front ++ [a]) ↔ Cut kind a b back)

theorem divides_cons : Divides (w :: ws) front ↔ front = [] ∨ ∃ more, front = w ++ more ∧ Divides ws more := by
  constructor
  · rintro ⟨l, r, htiles, rfl⟩
    cases l with
    | nil => exact .inl rfl
    | cons v l =>
      obtain ⟨rfl, rfl⟩ := List.cons.inj htiles
      exact .inr ⟨l.flatten, rfl, l, r, rfl, rfl⟩
  · rintro (rfl | ⟨more, rfl, l, r, rfl, rfl⟩)
    · exact ⟨[], w :: ws, rfl, rfl⟩
    · exact ⟨w :: l, r, rfl, rfl⟩

theorem divides_nil : Divides ws [] := ⟨[], ws, rfl, rfl⟩

theorem divides_cons_append (h : u ≠ []) : Divides (w :: ws) (w ++ u) ↔ Divides ws u := by
  rw [divides_cons]
  constructor
  · rintro (hnil | ⟨more, hmore, hdivides⟩)
    · exact absurd (List.append_eq_nil_iff.1 hnil).2 h
    · rwa [List.append_cancel_left hmore]
  · exact fun hdivides => .inr ⟨u, rfl, hdivides⟩

theorem not_divides_inside (hu : u ≠ []) (ht : t ≠ []) : ¬Divides ((u ++ t) :: ws) u := by
  rw [divides_cons]
  rintro (hnil | ⟨more, hmore, -⟩)
  · exact hu hnil
  · have hlen := congrArg List.length hmore
    have hpos := List.length_pos_iff.2 ht
    simp only [List.length_append] at hlen
    omega

namespace Tiling

theorem nil : Tiling kind [] [] where
  not_nil := List.not_mem_nil
  flatten := rfl
  divides_iff := fun h => absurd h (by simp)

theorem tail (h : Tiling kind (w ++ t) (w :: ws)) : Tiling kind t ws where
  not_nil := fun hmem => h.not_nil (List.mem_cons_of_mem w hmem)
  flatten := List.append_cancel_left h.flatten
  divides_iff := by
    intro front back a b hs
    have hwhole : w ++ t = w ++ front ++ a :: b :: back := by rw [hs, List.append_assoc]
    have hdivides := h.divides_iff hwhole
    rwa [List.append_assoc, divides_cons_append (by simp)] at hdivides

/-- Between two tilings of a text there is no tile that another one starts with: the shorter one ends at a cut, so the
longer one does, too. -/
theorem not_longer (h : Tiling kind s (w :: ws)) (h' : Tiling kind s ((w ++ t) :: vs)) : t = [] := by
  by_contra ht
  have hw : w ≠ [] := fun hnil => h.not_nil (hnil ▸ List.mem_cons_self)
  obtain ⟨b, m, rfl⟩ := List.exists_cons_of_ne_nil ht
  obtain ⟨front, a, rfl⟩ : ∃ front a, w = front ++ [a] :=
    ⟨w.dropLast, w.getLast hw, (List.dropLast_concat_getLast hw).symm⟩
  have hs : s = front ++ a :: b :: (m ++ vs.flatten) := by
    rw [← h'.flatten, List.flatten_cons]
    simp
  have hend : Divides ((front ++ [a]) :: ws) (front ++ [a]) := divides_cons.2 (.inr ⟨[], by simp, divides_nil⟩)
  exact not_divides_inside hw ht ((h'.divides_iff hs).2 ((h.divides_iff hs).1 hend))

theorem unique (h : Tiling kind s ws) (h' : Tiling kind s vs) : ws = vs := by
  induction ws generalizing s vs with
  | nil =>
    obtain rfl : [] = s := h.flatten
    cases vs with
    | nil => rfl
    | cons v vs =>
      have hv : v = [] := (List.append_eq_nil_iff.1 h'.flatten).1
      exact absurd (hv ▸ List.mem_cons_self) h'.not_nil
  | cons w ws ih =>
    cases vs with
    | nil =>
      have hw : w = [] := (List.append_eq_nil_iff.1 (h.flatten.trans h'.flatten.symm)).1
      exact absurd (hw ▸ List.mem_cons_self) h.not_nil
    | cons v vs =>
      -- Both first words start the text, so one is a prefix of the other, and neither can be the longer one.
      have hfirst : w = v := by
        have hw : w <+: s := ⟨_, h.flatten⟩
        have hv : v <+: s := ⟨_, h'.flatten⟩
        rcases List.prefix_or_prefix_of_prefix hw hv with ⟨t, rfl⟩ | ⟨t, rfl⟩
        · rw [not_longer h h', List.append_nil]
        · rw [not_longer h' h, List.append_nil]
      subst hfirst
      obtain rfl := h.flatten
      have hrest : ws.flatten = vs.flatten := (List.append_cancel_left h'.flatten).symm
      refine congrArg (w :: ·) (ih h.tail ?_)
      rw [List.flatten_cons] at h'
      exact h'.tail

theorem cons (hw : w ≠ []) (hinside : ∀ front a b back, w = front ++ a :: b :: back → ¬Cut kind a b (back ++ t))
    (hborder : ∀ front a b back, w = front ++ [a] → t = b :: back → Cut kind a b back) (h : Tiling kind t ws) :
    Tiling kind (w ++ t) (w :: ws) where
  not_nil := List.not_mem_cons_of_ne_of_not_mem hw.symm h.not_nil
  flatten := congrArg (w ++ ·) h.flatten
  divides_iff := by
    intro front back a b hs
    rcases List.append_eq_append_iff.1 hs with ⟨behind, rfl, ht⟩ | ⟨rest, hfront, hrest⟩
    · rw [List.append_assoc, divides_cons_append (by simp)]
      exact h.divides_iff ht
    -- The place lies in the first tile: before it, at its end or inside.
    match rest with
    | [] =>
      rw [List.append_nil] at hfront
      subst hfront
      rw [divides_cons_append (by simp)]
      have hfirst : t = [] ++ a :: b :: back := hrest.symm
      exact h.divides_iff hfirst
    | [x] =>
      obtain ⟨rfl, ht⟩ := List.cons.inj hrest
      refine iff_of_true (divides_cons.2 (.inr ⟨[], ?_, divides_nil⟩)) (hborder _ _ _ _ hfront ht.symm)
      rw [hfront, List.append_nil]
    | x :: y :: more =>
      simp only [List.cons_append, List.cons.injEq] at hrest
      obtain ⟨rfl, rfl, rfl⟩ := hrest
      refine iff_of_false ?_ (hinside _ _ _ _ hfront)
      rw [hfront, ← List.singleton_append (x := a), ← List.append_assoc]
      exact not_divides_inside (by simp) (by simp)

end Tiling

/-- A text of one kind that is not empty. -/
structure Uniform (kind : Char → Kind) (k : Kind) (w : List Char) : Prop where
  ne : w ≠ []
  kinds : ∀ c ∈ w, kind c = k

theorem Uniform.runKind_eq {k : Kind} (h : Uniform kind k w) : runKind kind w = k := by
  obtain ⟨c, w, rfl⟩ := List.exists_cons_of_ne_nil h.ne
  exact h.kinds c List.mem_cons_self

/-- The runs of a text: each is of one kind, and the next one of another. -/
inductive Runs (kind : Char → Kind) : List (List Char) → Prop
  | nil : Runs kind []
  | cons {k : Kind} {u : List Char} {rest : List (List Char)} (hu : Uniform kind k u)
      (hnext : ∀ w ∈ rest.head?, runKind kind w ≠ k) (hrest : Runs kind rest) : Runs kind (u :: rest)

theorem uniform_of_isChain {c : Char} {w : List Char} (h : (c :: w).IsChain fun a b => kind a == kind b) :
    Uniform kind (kind c) (c :: w) := by
  refine ⟨List.cons_ne_nil c w, ?_⟩
  induction w generalizing c with
  | nil => simp
  | cons d w ih =>
    obtain ⟨hcd, hw⟩ := List.isChain_cons_cons.1 h
    rw [beq_iff_eq] at hcd
    refine List.forall_mem_cons.2 ⟨rfl, ?_⟩
    rw [hcd]
    exact ih hw

theorem runs_runs (kind : Char → Kind) (s : List Char) : Runs kind (runs kind s) := by
  have hne : [] ∉ runs kind s := List.nil_notMem_splitBy _ s
  have hchain : ∀ w ∈ runs kind s, w.IsChain fun a b => kind a == kind b := fun _ => List.isChain_of_mem_splitBy
  have hborder := List.isChain_getLast_head_splitBy (fun a b => kind a == kind b) s
  change (runs kind s).IsChain _ at hborder
  generalize runs kind s = ws at hne hchain hborder
  induction ws with
  | nil => exact .nil
  | cons w ws ih =>
    obtain ⟨hw, hrest⟩ := not_or.1 (List.mem_cons.not.1 hne)
    obtain ⟨c, w, rfl⟩ := List.exists_cons_of_ne_nil (Ne.symm hw)
    have huniform := uniform_of_isChain (hchain _ List.mem_cons_self)
    obtain ⟨hnext, hborder⟩ := List.isChain_cons.1 hborder
    refine .cons huniform (fun v hv => ?_) (ih hrest (fun v hv => hchain v (List.mem_cons_of_mem _ hv)) hborder)
    obtain ⟨hlast, hv, hkinds⟩ := hnext v hv
    rw [huniform.kinds _ (List.getLast_mem hlast), beq_eq_false_iff_ne] at hkinds
    obtain ⟨d, v, rfl⟩ := List.exists_cons_of_ne_nil hv
    exact Ne.symm hkinds

section Tiles

variable {k : Kind}

theorem mem_of_eq_append_cons {a b : Char} {back : List Char} (h : w = front ++ a :: b :: back) : a ∈ w ∧ b ∈ w := by
  subst h
  simp

/-- A run that keeps its last character is a tile. -/
theorem Tiling.run (hu : Uniform kind k u) (ht : ∀ c ∈ t.head?, kind c ≠ k ∧ ¬(k = .upper ∧ kind c = .lower))
    (h : Tiling kind t ws) : Tiling kind (u ++ t) (u :: ws) := by
  refine .cons hu.ne ?_ ?_ h
  · intro front a b back hfront hcut
    obtain ⟨ha, hb⟩ := mem_of_eq_append_cons hfront
    obtain ⟨hdiffer, -⟩ | ⟨hupper, -, c, hc, hlower⟩ := hcut
    · exact hdiffer ((hu.kinds a ha).trans (hu.kinds b hb).symm)
    -- A cut inside the run would need a capital with a small letter behind it, in the run or right after it.
    obtain rfl : k = .upper := (hu.kinds a ha).symm.trans hupper
    rw [List.head?_append, Option.mem_def, Option.or_eq_some_iff] at hc
    rcases hc with hc | ⟨-, hc⟩
    · have hmem : c ∈ u := by
        rw [hfront]
        simp [List.mem_of_head? hc]
      rw [hu.kinds c hmem] at hlower
      exact absurd hlower (by decide)
    · exact (ht c hc).2 ⟨rfl, hlower⟩
  · rintro front a b back rfl rfl
    have ha : kind a = k := hu.kinds a (by simp)
    obtain ⟨hdiffer, hcapital⟩ := ht b rfl
    left
    rw [ha]
    exact ⟨Ne.symm hdiffer, hcapital⟩

/-- Small letters with a capital in front of them are a tile. -/
theorem Tiling.capitalized {c : Char} (hc : kind c = .upper) (hw : Uniform kind .lower w)
    (ht : ∀ d ∈ t.head?, kind d ≠ .lower) (h : Tiling kind t ws) : Tiling kind (c :: w ++ t) ((c :: w) :: ws) := by
  have hlower {front back : List Char} {a b : Char} (hfront : c :: w = front ++ a :: b :: back) :
      kind b = .lower := by
    refine hw.kinds b ?_
    cases front with
    | nil => simp [(List.cons.inj hfront).2]
    | cons x front => simp [(List.cons.inj hfront).2]
  refine .cons (List.cons_ne_nil c w) ?_ ?_ h
  · intro front a b back hfront hcut
    have hb := hlower hfront
    obtain ⟨hdiffer, hcapital⟩ | ⟨-, hupper, -⟩ := hcut
    · cases front with
      | nil =>
        obtain ⟨rfl, -⟩ := List.cons.inj hfront
        exact hcapital ⟨hc, hb⟩
      | cons x front =>
        have ha : kind a = .lower := hw.kinds a (by simp [(List.cons.inj hfront).2])
        exact hdiffer (ha.trans hb.symm)
    · rw [hb] at hupper
      exact absurd hupper (by decide)
  · -- The tile ends where the kind changes, for what follows is not small.
    rintro front a b back hfront rfl
    have ha : kind a = .lower := by
      obtain ⟨x, w, rfl⟩ := List.exists_cons_of_ne_nil hw.ne
      cases front with
      | nil => simp at hfront
      | cons y front => exact hw.kinds a (by simp [(List.cons.inj hfront).2])
    have hb := ht b rfl
    left
    rw [ha]
    exact ⟨Ne.symm hb, fun h => absurd h.1 (by decide)⟩

/-- The capitals in front of one that small letters follow are a tile. -/
theorem Tiling.capitals {c d : Char} (hu : Uniform kind .upper u) (hc : kind c = .upper) (hd : kind d = .lower)
    (h : Tiling kind (c :: d :: t) ws) : Tiling kind (u ++ c :: d :: t) (u :: ws) := by
  refine .cons hu.ne ?_ ?_ h
  · intro front a b back hfront hcut
    obtain ⟨ha, hb⟩ := mem_of_eq_append_cons hfront
    obtain ⟨hdiffer, -⟩ | ⟨-, -, x, hx, hlower⟩ := hcut
    · exact hdiffer ((hu.kinds a ha).trans (hu.kinds b hb).symm)
    · -- What follows a place inside the capitals is a capital itself, the one behind them included.
      have hupper : kind x = .upper := by
        cases back with
        | nil =>
          rw [← Option.some.inj hx]
          exact hc
        | cons y back =>
          rw [← Option.some.inj hx]
          exact hu.kinds y (by simp [hfront])
      rw [hupper] at hlower
      exact absurd hlower (by decide)
  · rintro front a b back rfl hback
    obtain ⟨rfl, rfl⟩ := List.cons.inj hback
    exact .inr ⟨hu.kinds a (by simp), hc, d, rfl, hd⟩

end Tiles

theorem Runs.kind_next {k : Kind} (h : Runs kind ws) (hnext : ∀ w ∈ ws.head?, runKind kind w ≠ k) :
    ∀ c ∈ ws.flatten.head?, kind c ≠ k := by
  cases h with
  | nil => simp
  | cons hu _ _ =>
    intro c hc
    obtain ⟨d, u, rfl⟩ := List.exists_cons_of_ne_nil hu.ne
    rw [← Option.some.inj hc]
    exact hnext _ rfl

/-- A word: capitals, digits, or small letters behind at most one capital. -/
def IsWord (kind : Char → Kind) (w : List Char) : Prop :=
  Uniform kind .upper w ∨ Uniform kind .digit w ∨
    ∃ front back, w = front ++ back ∧ front.length ≤ 1 ∧ (∀ c ∈ front, kind c = .upper) ∧ Uniform kind .lower back

theorem isWord_capitalized {c : Char} (hc : kind c = .upper) (hw : Uniform kind .lower w) : IsWord kind (c :: w) :=
  .inr (.inr ⟨[c], w, rfl, le_rfl, by simpa using hc, hw⟩)

theorem Uniform.isWord_or {k : Kind} (hu : Uniform kind k u) : IsWord kind u ∨ Uniform kind .other u := by
  cases k with
  | upper => exact .inl (.inl hu)
  | lower => exact .inl (.inr (.inr ⟨[], u, rfl, Nat.zero_le _, List.forall_mem_nil _, hu⟩))
  | digit => exact .inl (.inr (.inl hu))
  | other => exact .inr hu

/-- Where a capital is lent, capitals stand before small letters. -/
theorem Runs.of_lend {rest : List (List Char)} (h : Runs kind (u :: w :: rest))
    (hlend : (runKind kind u == .upper && runKind kind w == .lower) = true) :
    Uniform kind .upper u ∧ Uniform kind .lower w ∧ (∀ c ∈ rest.flatten.head?, kind c ≠ .lower) ∧ Runs kind rest := by
  obtain ⟨hupper, hlower⟩ := Bool.and_eq_true_iff.1 hlend
  cases h with
  | cons hu _ hrest =>
    cases hrest with
    | cons hw hnext hrest =>
      rw [hu.runKind_eq, beq_iff_eq] at hupper
      rw [hw.runKind_eq, beq_iff_eq] at hlower
      subst hupper hlower
      exact ⟨hu, hw, hrest.kind_next hnext, hrest⟩

/-- What the runs of a text become when capitals are lent: tiles, each a word or a stretch of other characters. -/
theorem tiling_lend (h : Runs kind ws) : Tiling kind ws.flatten (lend kind ws) ∧
    ∀ w ∈ lend kind ws, IsWord kind w ∨ Uniform kind .other w := by
  fun_induction lend kind ws with
  | case1 => exact ⟨.nil, List.forall_mem_nil _⟩
  | case2 w =>
    cases h with
    | cons hu _ _ => exact ⟨.run hu (by simp) .nil, List.forall_mem_singleton.2 hu.isWord_or⟩
  | case3 u w rest hlend hdrop ih =>
    -- A single capital: nothing is left of its run.
    obtain ⟨hu, hw, hnext, hrest⟩ := h.of_lend hlend
    obtain ⟨htiling, hformed⟩ := ih hrest
    obtain ⟨c, rfl⟩ : ∃ c, u = [c] :=
      ⟨u.getLast hu.ne, by simpa [hdrop] using (List.dropLast_concat_getLast hu.ne).symm⟩
    have hc : kind c = .upper := hu.kinds c List.mem_cons_self
    exact ⟨.capitalized hc hw hnext htiling, List.forall_mem_cons.2 ⟨.inl (isWord_capitalized hc hw), hformed⟩⟩
  | case4 u w rest hlend c hlast hdrop ih =>
    -- The capitals in front of the one that is lent stay a tile, which ends at a cut inside of their run.
    obtain ⟨hu, hw, hnext, hrest⟩ := h.of_lend hlend
    obtain ⟨htiling, hformed⟩ := ih hrest
    obtain ⟨v, rfl⟩ : ∃ v, u = v ++ [c] := List.getLast?_eq_some_iff.1 hlast
    rw [List.dropLast_concat] at hdrop ⊢
    have hc : kind c = .upper := hu.kinds c (by simp)
    have hv : Uniform kind .upper v := ⟨hdrop, fun x hx => hu.kinds x (List.mem_append_left _ hx)⟩
    have hcapital := Tiling.capitalized hc hw hnext htiling
    obtain ⟨d, w, rfl⟩ := List.exists_cons_of_ne_nil hw.ne
    refine ⟨?_, List.forall_mem_cons.2 ⟨.inl (.inl hv),
      List.forall_mem_cons.2 ⟨.inl (isWord_capitalized hc hw), hformed⟩⟩⟩
    have hwhole := Tiling.capitals hv hc (hw.kinds d List.mem_cons_self) hcapital
    simpa using hwhole
  | case5 u w rest hlend hnone hdrop ih => exact absurd (List.getLast?_eq_none_iff.1 hnone) (h.of_lend hlend).1.ne
  | case6 u w rest hlend ih =>
    cases h with
    | cons hu hnext hrest =>
      obtain ⟨htiling, hformed⟩ := ih hrest
      refine ⟨.run hu ?_ htiling, List.forall_mem_cons.2 ⟨hu.isWord_or, hformed⟩⟩
      intro c hc
      refine ⟨hrest.kind_next hnext c hc, fun ⟨hupper, hlower⟩ => hlend ?_⟩
      cases hrest with
      | cons hw _ _ =>
        obtain ⟨d, w, rfl⟩ := List.exists_cons_of_ne_nil hw.ne
        obtain rfl : d = c := Option.some.inj hc
        rw [hu.runKind_eq, hw.runKind_eq, hupper, ← hw.kinds d List.mem_cons_self, hlower]
        rfl

theorem IsWord.ne_nil (h : IsWord kind w) : w ≠ [] := by
  rcases h with h | h | ⟨front, back, rfl, -, -, h⟩
  · exact h.ne
  · exact h.ne
  · exact List.append_ne_nil_of_right_ne_nil front h.ne

theorem IsWord.kind_ne_other (h : IsWord kind w) : ∀ c ∈ w, kind c ≠ .other := by
  intro c hc
  rcases h with h | h | ⟨front, back, rfl, -, hfront, h⟩
  · simp [h.kinds c hc]
  · simp [h.kinds c hc]
  · rcases List.mem_append.1 hc with hc | hc
    · simp [hfront c hc]
    · simp [h.kinds c hc]

theorem IsWord.runKind_ne (h : IsWord kind w) : runKind kind w ≠ .other := by
  have hkinds := h.kind_ne_other
  obtain ⟨c, w, rfl⟩ := List.exists_cons_of_ne_nil h.ne_nil
  exact hkinds c List.mem_cons_self

theorem flatten_words (h : ∀ w ∈ ws, IsWord kind w ∨ Uniform kind .other w) :
    (ws.filter fun w => runKind kind w != .other).flatten = ws.flatten.filter fun c => kind c != .other := by
  induction ws with
  | nil => rfl
  | cons w ws ih =>
    obtain ⟨hw, hws⟩ := List.forall_mem_cons.1 h
    rw [List.flatten_cons, List.filter_append, ← ih hws]
    rcases hw with hw | hw
    · rw [List.filter_cons_of_pos (by simpa using hw.runKind_ne), List.flatten_cons]
      have hall : w.filter (fun c => kind c != .other) = w :=
        List.filter_eq_self.2 fun c hc => by simpa using hw.kind_ne_other c hc
      rw [hall]
    · rw [List.filter_cons_of_neg (by simp [hw.runKind_eq])]
      have hnone : w.filter (fun c => kind c != .other) = [] :=
        List.filter_eq_nil_iff.2 fun c hc => by simp [hw.kinds c hc]
      rw [hnone, List.nil_append]

/-- Words that take a text apart: in order and without a gap they are what it holds of letters and digits, and they are
the words among the tiles of the one tiling there is. -/
structure Tokenizes (kind : Char → Kind) (s : List Char) (ws : List (List Char)) : Prop where
  formed : ∀ w ∈ ws, w ≠ [] ∧ IsWord kind w
  flatten : ws.flatten = s.filter fun c => kind c != .other
  tiled : ∃ tiles, Tiling kind s tiles ∧ (∀ others, Tiling kind s others → others = tiles) ∧
    ws = tiles.filter fun w => runKind kind w != .other

theorem tokenizes_wordsBy (kind : Char → Kind) (s : List Char) : Tokenizes kind s (wordsBy kind s) := by
  obtain ⟨htiling, hformed⟩ := tiling_lend (runs_runs kind s)
  have hruns : (runs kind s).flatten = s := List.flatten_splitBy _ s
  rw [hruns] at htiling
  refine ⟨fun w hw => ?_, ?_, _, htiling, fun _ h => h.unique htiling, rfl⟩
  · obtain ⟨hw, hkind⟩ := List.mem_filter.1 hw
    rcases hformed w hw with hword | hother
    · exact ⟨hword.ne_nil, hword⟩
    · simp [hother.runKind_eq] at hkind
  · rw [wordsBy, flatten_words hformed, htiling.flatten]

theorem kind_of_blank {c : Char} (h : isBlank c = true) : Kind.ofChar c = .other := by
  have hkind : (Kind.ofChar c != .other) = false :=
    eq_false_of_blank (p := fun c => Kind.ofChar c != .other) (by decide +kernel) h
  simpa using hkind

/-- A blank text has no words, like any other without letters and digits. -/
theorem words_eq (text : String) : words text = (wordsBy Kind.ofChar text.toList).map String.ofList := by
  unfold words
  split
  · next hblank =>
    have hwords := tokenizes_wordsBy Kind.ofChar text.toList
    have hnone : (wordsBy Kind.ofChar text.toList).flatten = [] := by
      rw [hwords.flatten, List.filter_eq_nil_iff]
      intro c hc
      simp [kind_of_blank (List.all_eq_true.1 hblank c hc)]
    rcases hws : wordsBy Kind.ofChar text.toList with _ | ⟨w, ws⟩
    · rfl
    · rw [hws, List.flatten_cons, List.append_eq_nil_iff] at hnone
      exact absurd hnone.1 (hwords.formed w (hws ▸ List.mem_cons_self)).1
  · rfl

/-- The words of a text that is not blank take it apart, and they do so for any classification of characters that stands
in for the one by letters and digits. -/
theorem words_take_apart {text : String} (h : allBlank text = false) :
    words text = (wordsBy Kind.ofChar text.toList).map String.ofList ∧
      ∀ kind, Tokenizes kind text.toList (wordsBy kind text.toList) := by
  refine ⟨?_, fun kind => tokenizes_wordsBy kind text.toList⟩
  rw [words, if_neg (by simp [h])]

/-- A capital is lent to the small letters behind it, digits end a word, and separators at either end are left out. -/
theorem words_take_apart_mixed : words "_XMLParser2Go-" = ["XML", "Parser", "2", "Go"] := by
  have hletters : allBlank "_XMLParser2Go-" = false := by decide
  rw [(words_take_apart hletters).1]
  decide

end Scaffold.Name
