import Scaffold.Proofs.Store.Path

/-! Lines taken apart and put together again. A text comes back if line feeds are its only line breaks. -/

namespace Scaffold.Text

/-- The line feed that ends a text, if one does. -/
def lastFeed (s : String) : String := if endsWith s "\n" then "\n" else ""

theorem endsWith_feed_iff {s : String} : endsWith s "\n" = true ↔ s.toList.getLast? = some '\n' := by
  rw [endsWith_iff, List.getLast?_eq_some_iff]
  constructor
  · rintro ⟨front, hs⟩
    exact ⟨front, hs.symm⟩
  · rintro ⟨front, hs⟩
    exact ⟨front, hs.symm⟩

theorem linesFrom_nil (line : List Char) : linesFrom line [] = if line.isEmpty then [] else [line.reverse] := rfl

theorem linesFrom_feed (line s : List Char) : linesFrom line ('\n' :: s) = line.reverse :: linesFrom [] s := rfl

theorem linesFrom_cons {c : Char} (hc : isLineBreak c = false) (line s : List Char) :
    linesFrom line (c :: s) = linesFrom (c :: line) s := by
  generalize htext : c :: s = text
  fun_cases linesFrom line text with
  | case1 | case2 => exact nomatch htext
  | case3 r =>
    cases htext
    exact absurd hc (by decide)
  | case4 d r _ hd =>
    cases htext
    exact absurd hd (Bool.eq_false_iff.1 hc)
  | case5 d r =>
    cases htext
    rfl

theorem linesFrom_unbroken {s : List Char} (hs : ∀ c ∈ s, isLineBreak c = false) (line rest : List Char) :
    linesFrom line (s ++ '\n' :: rest) = (line.reverse ++ s) :: linesFrom [] rest := by
  induction s generalizing line with
  | nil => rw [List.nil_append, List.append_nil, linesFrom_feed]
  | cons c s ih =>
    obtain ⟨hc, hs⟩ := List.forall_mem_cons.1 hs
    rw [List.cons_append, linesFrom_cons hc, ih hs, List.reverse_cons, List.append_assoc, List.singleton_append]

theorem linesFrom_no_break {line s : List Char} (hline : ∀ c ∈ line, isLineBreak c = false) :
    ∀ w ∈ linesFrom line s, ∀ c ∈ w, isLineBreak c = false := by
  have hreverse {line : List Char} (h : ∀ c ∈ line, isLineBreak c = false) :
      ∀ c ∈ line.reverse, isLineBreak c = false := fun c hc => h c (List.mem_reverse.1 hc)
  fun_induction linesFrom line s with
  | case1 line hempty => exact List.forall_mem_nil _
  | case2 line hempty =>
    intro w hw
    rw [List.mem_singleton.1 hw]
    exact hreverse hline
  | case3 line r ih => exact List.forall_mem_cons.2 ⟨hreverse hline, ih (List.forall_mem_nil _)⟩
  | case4 line c r _ hc ih => exact List.forall_mem_cons.2 ⟨hreverse hline, ih (List.forall_mem_nil _)⟩
  | case5 line c r _ hc ih => exact ih (List.forall_mem_cons.2 ⟨Bool.eq_false_iff.2 hc, hline⟩)

/-- A text without line breaks. -/
def unbroken (s : String) : Bool := s.toList.all fun c => !isLineBreak c

theorem unbroken_iff {s : String} : unbroken s = true ↔ ∀ c ∈ s.toList, isLineBreak c = false := by
  unfold unbroken
  rw [List.all_eq_true]
  simp only [Bool.not_eq_true']

theorem unbroken_of_mem_lines {s l : String} (h : l ∈ lines s) : unbroken l = true := by
  obtain ⟨w, hw, rfl⟩ := List.mem_map.1 h
  rw [unbroken_iff, String.toList_ofList]
  exact linesFrom_no_break (List.forall_mem_nil _) w hw

theorem endsWith_of_mem_lines {s l : String} (h : l ∈ lines s) : endsWith l "\n" = false := by
  rw [← Bool.not_eq_true, endsWith_feed_iff]
  intro hfeed
  have hbreak := unbroken_iff.1 (unbroken_of_mem_lines h) '\n' (List.mem_of_getLast? hfeed)
  exact absurd hbreak (by decide)

/-- Lines without line breaks, each with a line feed, are the lines of the text that they make up. -/
theorem lines_join_feeds {ls : List String} (h : ∀ l ∈ ls, unbroken l = true) :
    lines (String.join (ls.map (· ++ "\n"))) = ls := by
  unfold lines
  induction ls with
  | nil => rfl
  | cons l ls ih =>
    obtain ⟨hl, hls⟩ := List.forall_mem_cons.1 h
    have htext : (String.join ((l :: ls).map (· ++ "\n"))).toList =
        l.toList ++ '\n' :: (String.join (ls.map (· ++ "\n"))).toList := by
      rw [List.map_cons, String.join_cons, String.append_assoc, String.toList_append, String.toList_append]
      rfl
    rw [htext, linesFrom_unbroken (unbroken_iff.1 hl), List.map_cons, ih hls, List.reverse_nil, List.nil_append,
      String.ofList_toList]

theorem endsWith_unlines_concat {front : List String} {last : String} (hfront : front ≠ [])
    (hlast : endsWith last "\n" = false) : endsWith (unlines (front ++ [last])) "\n" = true ↔ last = "" := by
  have htext : unlines (front ++ [last]) = unlines front ++ "\n" ++ last := by
    unfold unlines
    rw [String.intercalate_append_of_ne_nil hfront (List.cons_ne_nil last []), String.intercalate_singleton]
  rw [← Bool.not_eq_true, endsWith_feed_iff] at hlast
  rw [endsWith_feed_iff, htext, String.toList_append]
  constructor
  · intro h
    rw [List.getLast?_append, Option.or_eq_some_iff] at h
    rcases h with h | ⟨h, -⟩
    · exact absurd h hlast
    · exact String.toList_eq_nil_iff.1 (List.getLast?_eq_none_iff.1 h)
  · rintro rfl
    rw [String.toList_append]
    simp

/-- A text whose only line breaks are line feeds. -/
def FeedsOnly (s : List Char) : Prop := ∀ c ∈ s, isLineBreak c = true → c = '\n'

theorem linesFrom_ne_nil {line s : List Char} (h : s ≠ []) : linesFrom line s ≠ [] := by
  fun_induction linesFrom line s with
  | case1 | case2 => exact absurd rfl h
  | case3 | case4 => exact List.cons_ne_nil _ _
  | case5 line c r _ hc ih =>
    cases r with
    | nil => simp [linesFrom_nil]
    | cons d r => exact ih (List.cons_ne_nil d r)

/-- The lines with feeds between them, and the feed at the end, are the text. -/
theorem intercalate_linesFrom {line s : List Char} (hs : FeedsOnly s) :
    ['\n'].intercalate (linesFrom line s) ++ (if s.getLast? = some '\n' then ['\n'] else []) = line.reverse ++ s := by
  fun_induction linesFrom line s with
  | case1 line hempty =>
    rw [List.isEmpty_iff.1 hempty]
    rfl
  | case2 line hempty => simp
  | case3 line r ih =>
    have hreturn : '\r' = '\n' := hs '\r' List.mem_cons_self (by decide)
    exact absurd hreturn (by decide)
  -- A feed ends a line; if nothing follows, it is the one at the end, which the lines do not show.
  | case4 line c r _ hc ih =>
    obtain rfl : c = '\n' := hs c List.mem_cons_self hc
    cases r with
    | nil => simp [linesFrom_nil]
    | cons d r =>
      have hne : linesFrom [] (d :: r) ≠ [] := linesFrom_ne_nil (List.cons_ne_nil d r)
      obtain ⟨w, ws, hws⟩ := List.exists_cons_of_ne_nil hne
      have hrest := ih fun c hc => hs c (List.mem_cons_of_mem '\n' hc)
      rw [hws] at hrest ⊢
      rw [List.intercalate_cons_cons, List.getLast?_cons_cons, List.append_assoc, List.append_assoc, hrest]
      rfl
  | case5 line c r _ hc ih =>
    have hrest := ih fun c hc => hs c (List.mem_cons_of_mem _ hc)
    have hlast : (c :: r).getLast? = some '\n' ↔ r.getLast? = some '\n' := by
      cases r with
      | nil =>
        have hne : c ≠ '\n' := fun h => hc (h ▸ (by decide : isLineBreak '\n' = true))
        simp [hne]
      | cons d r => rw [List.getLast?_cons_cons]
    simp only [hlast]
    rw [hrest, List.reverse_cons, List.append_assoc]
    rfl

theorem unlines_lines {s : String} (hs : FeedsOnly s.toList) : unlines (lines s) ++ lastFeed s = s := by
  have hlines : (lines s).map String.toList = linesFrom [] s.toList := by
    unfold lines
    rw [List.map_map]
    exact (List.map_congr_left fun w _ => String.toList_ofList).trans (List.map_id _)
  have hfeed : (lastFeed s).toList = if s.toList.getLast? = some '\n' then ['\n'] else [] := by
    unfold lastFeed
    simp only [← endsWith_feed_iff]
    split <;> rfl
  rw [← String.toList_inj, String.toList_append, unlines, String.toList_intercalate, hlines, hfeed]
  exact intercalate_linesFrom hs

/-- What is put together from lines has no other line breaks. -/
theorem feedsOnly_unlines {ls : List String} (h : ∀ l ∈ ls, unbroken l = true) (s : String) :
    FeedsOnly (unlines ls ++ lastFeed s).toList := by
  intro c hc hbreak
  rw [String.toList_append, List.mem_append] at hc
  rcases hc with hc | hc
  · rcases mem_of_mem_intercalate hc with hc | ⟨l, hl, hc⟩
    · exact List.mem_singleton.1 hc
    · rw [unbroken_iff.1 (h l hl) c hc] at hbreak
      exact absurd hbreak Bool.false_ne_true
  · unfold lastFeed at hc
    split at hc
    · exact List.mem_singleton.1 hc
    · exact absurd hc List.not_mem_nil

end Scaffold.Text
