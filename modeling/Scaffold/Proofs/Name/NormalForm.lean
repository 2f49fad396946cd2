import Scaffold.Proofs.Name.Words

/-! Snake and kebab case as normal forms. Words of one kind with a separator between them are found again as they are,
so the words of an ASCII text stay the same when they are written in small letters, whichever of the two separators
stands between them. -/

namespace Scaffold.Name

open Scaffold.Text

variable {kind : Char → Kind} {sep c : Char} {w t : List Char} {ws : List (List Char)} {s : String}

section Joined

/-- Words of one kind with a separator between them make up a tiling, the separators being tiles as well. -/
theorem tiling_intersperse (hsep : kind sep = .other) (h : ∀ w ∈ ws, ∃ k ≠ Kind.other, Uniform kind k w) :
    Tiling kind (List.intercalate [sep] ws) (ws.intersperse [sep]) := by
  induction ws with
  | nil => exact .nil
  | cons w ws ih =>
    obtain ⟨⟨k, hk, hu⟩, hws⟩ := List.forall_mem_cons.1 h
    cases ws with
    | nil =>
      have hlast := Tiling.run hu (t := []) (by simp) .nil
      rw [List.append_nil] at hlast
      rw [List.intercalate_singleton]
      exact hlast
    | cons v ws =>
      obtain ⟨⟨k', hk', hv⟩, -⟩ := List.forall_mem_cons.1 hws
      have hnext : ∀ c ∈ (List.intercalate [sep] (v :: ws)).head?, kind c ≠ .other := by
        intro c hc
        obtain ⟨d, v, rfl⟩ := List.exists_cons_of_ne_nil hv.ne
        obtain rfl : d = c := by
          cases ws with
          | nil => simpa using hc
          | cons => simpa [List.intercalate_cons_cons] using hc
        rw [hv.kinds d List.mem_cons_self]
        exact hk'
      have hseparator : Uniform kind .other [sep] := ⟨List.cons_ne_nil sep [], by simpa using hsep⟩
      have hrest := Tiling.run hseparator (fun c hc => ⟨hnext c hc, by simp⟩) (ih hws)
      rw [List.intercalate_cons_cons, List.append_assoc]
      refine .run hu ?_ hrest
      intro c hc
      obtain rfl : sep = c := Option.some.inj hc
      rw [hsep]
      exact ⟨hk.symm, by simp⟩

theorem filter_intersperse (hsep : kind sep = .other) (h : ∀ w ∈ ws, runKind kind w ≠ .other) :
    (ws.intersperse [sep]).filter (fun w => runKind kind w != .other) = ws := by
  induction ws with
  | nil => rfl
  | cons w ws ih =>
    obtain ⟨hw, hws⟩ := List.forall_mem_cons.1 h
    cases ws with
    | nil => simpa using hw
    | cons v ws =>
      have hseparator : runKind kind [sep] = .other := hsep
      rw [List.intersperse_cons_cons, List.filter_cons_of_pos (by simpa using hw),
        List.filter_cons_of_neg (by simp [hseparator]), ih hws]

theorem wordsBy_intercalate (hsep : kind sep = .other) (h : ∀ w ∈ ws, ∃ k ≠ Kind.other, Uniform kind k w) :
    wordsBy kind (List.intercalate [sep] ws) = ws := by
  obtain ⟨tiles, -, hunique, hwords⟩ := (tokenizes_wordsBy kind (List.intercalate [sep] ws)).tiled
  rw [hwords, ← hunique _ (tiling_intersperse hsep h)]
  refine filter_intersperse hsep fun w hw => ?_
  obtain ⟨k, hk, hu⟩ := h w hw
  rwa [hu.runKind_eq]

end Joined

section Ascii

/-- Characters of ASCII are told by their numbers. -/
theorem of_ascii {p : Char → Prop} (hall : ∀ n < 128, p (Char.ofNat n)) (h : c.toNat < 128) : p c := by
  have hc := hall c.toNat h
  rwa [Char.ofNat_toNat] at hc

theorem lowerChar_ascii (h : c.toNat < 128) : (lowerChar c).toNat < 128 ∧
    Kind.ofChar (lowerChar c) = (if Kind.ofChar c = .upper then .lower else Kind.ofChar c) ∧
    (Kind.ofChar c ≠ .upper → lowerChar c = c) :=
  of_ascii (p := fun c => (lowerChar c).toNat < 128 ∧
    Kind.ofChar (lowerChar c) = (if Kind.ofChar c = .upper then .lower else Kind.ofChar c) ∧
    (Kind.ofChar c ≠ .upper → lowerChar c = c)) (by decide) h

theorem lowerChars_ascii (h : ∀ c ∈ w, c.toNat < 128) : lowerChars w = w.map lowerChar := by
  suffices hfrom : ∀ before, lowerFrom before w = w.map lowerChar from hfrom []
  induction w with
  | nil => exact fun _ => rfl
  | cons c r ih =>
    intro before
    obtain ⟨hc, hr⟩ := List.forall_mem_cons.1 h
    have hform (d : Char) (hd : 128 ≤ d.toNat) : (c == d) = false := by
      rw [beq_eq_false_iff_ne]
      rintro rfl
      omega
    have hlower : lowerForm before c r = [lowerChar c] := by
      unfold lowerForm
      rw [hform 'Σ' (by decide), hform 'İ' (by decide)]
      rfl
    rw [lowerFrom, hlower, ih hr, List.map_cons, List.singleton_append]

/-- A small letter or a digit. -/
def isSmall (c : Char) : Bool := ('a' ≤ c && c ≤ 'z') || isAsciiDigit c

/-- A word in small letters, or of digits. -/
structure Small (w : List Char) : Prop where
  ascii : ∀ c ∈ w, c.toNat < 128
  uniform : Uniform Kind.ofChar .lower w ∨ Uniform Kind.ofChar .digit w

theorem Small.exists_uniform (h : Small w) : ∃ k ≠ Kind.other, Uniform Kind.ofChar k w :=
  h.uniform.elim (fun hu => ⟨.lower, by decide, hu⟩) fun hu => ⟨.digit, by decide, hu⟩

theorem Small.ne_nil (h : Small w) : w ≠ [] :=
  let ⟨_, _, hu⟩ := h.exists_uniform
  hu.ne

theorem Small.kinds (h : Small w) (hc : c ∈ w) : Kind.ofChar c = .lower ∨ Kind.ofChar c = .digit :=
  h.uniform.imp (fun hu => hu.kinds c hc) fun hu => hu.kinds c hc

theorem Small.chars (h : Small w) : ∀ c ∈ w, isSmall c = true := fun c hc =>
  of_ascii (p := fun c => Kind.ofChar c = .lower ∨ Kind.ofChar c = .digit → isSmall c = true) (by decide)
    (h.ascii c hc) (h.kinds hc)

theorem Small.lowerChars_eq (h : Small w) : lowerChars w = w := by
  rw [lowerChars_ascii h.ascii]
  refine (List.map_congr_left fun c hc => ?_).trans (List.map_id w)
  refine (lowerChar_ascii (h.ascii c hc)).2.2 fun hupper => ?_
  rcases h.kinds hc with hkind | hkind <;> rw [hkind] at hupper <;> exact absurd hupper (by decide)

theorem Small.no_separator (h : Small w) (hsep : isSmall sep = false) : sep ∉ w := fun hmem => by
  rw [h.chars sep hmem] at hsep
  exact absurd hsep (by decide)

theorem small_lowerChars (hw : IsWord Kind.ofChar w) (h : ∀ c ∈ w, c.toNat < 128) : Small (lowerChars w) := by
  rw [lowerChars_ascii h]
  have hne : w.map lowerChar ≠ [] := by simpa using hw.ne_nil
  have hascii : ∀ c ∈ w.map lowerChar, c.toNat < 128 :=
    List.forall_mem_map.2 fun c hc => (lowerChar_ascii (h c hc)).1
  refine ⟨hascii, ?_⟩
  -- Capitals and small letters become small letters, so a word that is not of digits is in small letters.
  by_cases hdigit : Uniform Kind.ofChar .digit w
  · refine .inr ⟨hne, List.forall_mem_map.2 fun c hc => ?_⟩
    rw [(lowerChar_ascii (h c hc)).2.1, hdigit.kinds c hc]
    rfl
  · have hletters : ∀ c ∈ w, Kind.ofChar c = .upper ∨ Kind.ofChar c = .lower := by
      rcases hw with hupper | hdigits | ⟨front, back, rfl, -, hfront, hback⟩
      · exact fun c hc => .inl (hupper.kinds c hc)
      · exact absurd hdigits hdigit
      · exact fun c hc => (List.mem_append.1 hc).imp (hfront c) (hback.kinds c)
    refine .inl ⟨hne, List.forall_mem_map.2 fun c hc => ?_⟩
    rw [(lowerChar_ascii (h c hc)).2.1]
    rcases hletters c hc with hkind | hkind <;> rw [hkind] <;> rfl

end Ascii

section Cases

/-- The words of a text in small letters. -/
def loweredWords (s : String) : List (List Char) := (wordsBy Kind.ofChar s.toList).map lowerChars

theorem small_loweredWords (h : ∀ c ∈ s.toList, c.toNat < 128) : ∀ w ∈ loweredWords s, Small w := by
  have hwords := tokenizes_wordsBy Kind.ofChar s.toList
  refine List.forall_mem_map.2 fun w hw => small_lowerChars (hwords.formed w hw).2 fun c hc => ?_
  have hmem := List.mem_flatten_of_mem hw hc
  rw [hwords.flatten] at hmem
  exact h c (List.mem_filter.1 hmem).1

theorem lower_words (s : String) : (words s).map lower = (loweredWords s).map String.ofList := by
  rw [words_eq, loweredWords, List.map_map, List.map_map]
  refine List.map_congr_left fun w _ => ?_
  simp only [Function.comp, lower, String.toList_ofList]

theorem toList_intercalate_words (s sep : String) :
    (sep.intercalate ((words s).map lower)).toList = List.intercalate sep.toList (loweredWords s) := by
  rw [String.toList_intercalate, lower_words, List.map_map]
  refine congrArg _ ((List.map_congr_left fun w _ => ?_).trans (List.map_id _))
  exact String.toList_ofList

theorem toList_snake (s : String) : (snake s).toList = List.intercalate ['_'] (loweredWords s) :=
  toList_intercalate_words s "_"

theorem toList_kebab (h : ∀ c ∈ s.toList, c.toNat < 128) :
    (kebab s).toList = List.intercalate ['-'] (loweredWords s) := by
  have hjoined : ("-".intercalate ((words s).map lower)).toList = List.intercalate ['-'] (loweredWords s) :=
    toList_intercalate_words s "-"
  unfold kebab lowerFirst allBlank
  rw [hjoined]
  have hsmall := small_loweredWords h
  rcases hws : loweredWords s with _ | ⟨w, ws⟩
  · rfl
  · rw [hws] at hsmall
    have hw := hsmall w List.mem_cons_self
    obtain ⟨c, w, rfl⟩ := List.exists_cons_of_ne_nil hw.ne_nil
    obtain ⟨rest, hrest⟩ : ∃ rest, List.intercalate ['-'] ((c :: w) :: ws) = c :: rest := by
      cases ws with
      | nil => exact ⟨w, by simp⟩
      | cons v ws => exact ⟨_, by rw [List.intercalate_cons_cons, List.append_assoc, List.cons_append]⟩
    have hascii := hw.ascii c List.mem_cons_self
    have hkind := hw.kinds List.mem_cons_self
    have hblank : isBlank c = false := by
      rw [Bool.eq_false_iff]
      intro hb
      rw [kind_of_blank hb] at hkind
      exact absurd hkind (by decide)
    -- The first letter is small already, so making it small changes nothing.
    have hlower : lowerChars [c] = [c] := by
      have hupper : Kind.ofChar c ≠ .upper := fun hupper => by
        rw [hupper] at hkind
        exact absurd hkind (by decide)
      rw [lowerChars_ascii (by simpa using hascii), List.map_singleton, (lowerChar_ascii hascii).2.2 hupper]
    rw [hrest, List.all_cons, hblank, Bool.false_and, if_neg Bool.false_ne_true,
      String.toList_ofList, mapFirst, hlower, List.singleton_append]

theorem loweredWords_of_toList {t : String} (hsep : Kind.ofChar sep = .other) (h : ∀ w ∈ ws, Small w)
    (ht : t.toList = List.intercalate [sep] ws) : loweredWords t = ws := by
  rw [loweredWords, ht, wordsBy_intercalate hsep fun w hw => (h w hw).exists_uniform]
  exact (List.map_congr_left fun w hw => (h w hw).lowerChars_eq).trans (List.map_id ws)

/-- Small letters and digits, and low lines of which each stands between two of them. -/
structure SnakeCase (t : List Char) : Prop where
  chars : ∀ c ∈ t, isSmall c = true ∨ c = '_'
  between : ∀ front back, t = front ++ '_' :: back →
    (∃ c ∈ front.getLast?, isSmall c = true) ∧ ∃ c ∈ back.head?, isSmall c = true

theorem SnakeCase.ascii (h : SnakeCase t) : ∀ c ∈ t, c.toNat < 128 := by
  intro c hc
  rcases h.chars c hc with hsmall | rfl
  · unfold isSmall isAsciiDigit at hsmall
    simp only [Bool.or_eq_true, Bool.and_eq_true, decide_eq_true_eq] at hsmall
    rcases hsmall with ⟨-, hc⟩ | ⟨-, hc⟩
    · exact (Char.le_def.1 hc).trans_lt (by decide)
    · exact (Char.le_def.1 hc).trans_lt (by decide)
  · decide

/-- A separator is the first one of a text, or it stands behind the first one. -/
theorem eq_or_behind {front back : List Char} (h : sep ∉ w) (hsplit : w ++ sep :: t = front ++ sep :: back) :
    front = w ∧ back = t ∨ ∃ more, front = w ++ sep :: more ∧ t = more ++ sep :: back := by
  rcases List.append_eq_append_iff.1 hsplit with ⟨more, rfl, hmore⟩ | ⟨more, rfl, hmore⟩
  · cases more with
    | nil => exact .inl ⟨List.append_nil w, (List.cons.inj hmore).2.symm⟩
    | cons x more =>
      obtain ⟨rfl, hrest⟩ := List.cons.inj hmore
      exact .inr ⟨more, rfl, hrest⟩
  · cases more with
    | nil => exact .inl ⟨(List.append_nil front).symm, (List.cons.inj hmore).2⟩
    | cons x more =>
      obtain ⟨rfl, -⟩ := List.cons.inj hmore
      exact absurd (List.mem_append_right front List.mem_cons_self) h

theorem snakeCase_intercalate (h : ∀ w ∈ ws, Small w) : SnakeCase (List.intercalate ['_'] ws) := by
  induction ws with
  | nil => exact ⟨by simp, by simp⟩
  | cons w ws ih =>
    obtain ⟨hw, hws⟩ := List.forall_mem_cons.1 h
    have hline : '_' ∉ w := hw.no_separator (by decide)
    cases ws with
    | nil =>
      rw [List.intercalate_singleton]
      refine ⟨fun c hc => .inl (hw.chars c hc), fun front back hsplit => ?_⟩
      exact absurd (hsplit ▸ List.mem_append_right front List.mem_cons_self) hline
    | cons v ws =>
      obtain ⟨hchars, hbetween⟩ := ih hws
      rw [List.intercalate_cons_cons, List.append_assoc, List.singleton_append]
      refine ⟨fun c hc => ?_, fun front back hsplit => ?_⟩
      · rcases List.mem_append.1 hc with hc | hc
        · exact .inl (hw.chars c hc)
        · exact (List.mem_cons.1 hc).elim .inr (hchars c)
      · -- A low line is the first separator, which stands between the first two words, or one of those behind it.
        rcases eq_or_behind hline hsplit with ⟨rfl, rfl⟩ | ⟨more, rfl, hrest⟩
        · have hv := hws v List.mem_cons_self
          obtain ⟨d, v, rfl⟩ := List.exists_cons_of_ne_nil hv.ne_nil
          refine ⟨⟨_, List.getLast?_eq_some_getLast hw.ne_nil, hw.chars _ (List.getLast_mem _)⟩, d, ?_,
            hv.chars d List.mem_cons_self⟩
          cases ws <;> simp [List.intercalate_cons_cons]
        · obtain ⟨⟨c, hlast, hc⟩, hback⟩ := hbetween more back hrest
          refine ⟨⟨c, ?_, hc⟩, hback⟩
          rw [List.getLast?_append, List.getLast?_cons, Option.mem_def.1 hlast]
          rfl

theorem map_intercalate (h : ∀ w ∈ ws, Small w) :
    (List.intercalate ['_'] ws).map (fun c => if c = '_' then '-' else c) = List.intercalate ['-'] ws := by
  induction ws with
  | nil => rfl
  | cons w ws ih =>
    obtain ⟨hw, hws⟩ := List.forall_mem_cons.1 h
    have hkeep : w.map (fun c => if c = '_' then '-' else c) = w := by
      refine (List.map_congr_left fun c hc => if_neg ?_).trans (List.map_id w)
      rintro rfl
      exact hw.no_separator (by decide) hc
    cases ws with
    | nil => rw [List.intercalate_singleton, List.intercalate_singleton, hkeep]
    | cons v ws =>
      rw [List.intercalate_cons_cons, List.intercalate_cons_cons, List.map_append, List.map_append, hkeep, ih hws]
      rfl

/-- Snake case is a normal form of ASCII texts, and kebab case is the same form with other separators: both forms of
either are those of the text, their words are its words in small letters, and they name the same table. -/
theorem snake_kebab_normal (h : ∀ c ∈ s.toList, c.toNat < 128) :
    SnakeCase (snake s).toList ∧ snake (snake s) = snake s ∧
      kebab s = String.ofList ((snake s).toList.map fun c => if c = '_' then '-' else c) ∧
      snake (kebab s) = snake s ∧ kebab (snake s) = kebab s ∧
      words (snake s) = (words s).map lower ∧ table (kebab s) = table s := by
  have hsmall := small_loweredWords h
  have hsnake := toList_snake s
  have hkebab := toList_kebab h
  have hwords : loweredWords (snake s) = loweredWords s := loweredWords_of_toList (by decide) hsmall hsnake
  have hwords' : loweredWords (kebab s) = loweredWords s := loweredWords_of_toList (by decide) hsmall hkebab
  have hcase : SnakeCase (snake s).toList := by
    rw [hsnake]
    exact snakeCase_intercalate hsmall
  have hletters : kebab s = String.ofList ((snake s).toList.map fun c => if c = '_' then '-' else c) := by
    rw [← String.toList_inj, String.toList_ofList, hsnake, hkebab, map_intercalate hsmall]
  have hascii : ∀ c ∈ (snake s).toList, c.toNat < 128 := hcase.ascii
  have hascii' : ∀ c ∈ (kebab s).toList, c.toNat < 128 := by
    rw [hletters, String.toList_ofList]
    refine List.forall_mem_map.2 fun c hc => ?_
    split
    · decide
    · exact hascii c hc
  have htwice : snake (kebab s) = snake s := by
    rw [← String.toList_inj, toList_snake, hwords', hsnake]
  refine ⟨hcase, ?_, hletters, htwice, ?_, ?_, ?_⟩
  · rw [← String.toList_inj, toList_snake, hwords, hsnake]
  · rw [← String.toList_inj, toList_kebab hascii, hwords, hkebab]
  · rw [lower_words, words_eq, hsnake,
      wordsBy_intercalate (by decide) fun w hw => (hsmall w hw).exists_uniform]
  · rw [table, table, htwice]

/-- Capitals, digits, and separators at either end: the same names from the text and from its address. -/
theorem snake_kebab_normal_mixed : (∀ c ∈ "_XMLParser2Go-".toList, c.toNat < 128) ∧
    kebab "_XMLParser2Go-" = "xml-parser-2-go" ∧ snake "xml-parser-2-go" = "xml_parser_2_go" ∧
    kebab "xml_parser_2_go" = "xml-parser-2-go" := by
  have hascii : ∀ c ∈ "_XMLParser2Go-".toList, c.toNat < 128 := by simp
  have hkebab : kebab "_XMLParser2Go-" = "xml-parser-2-go" := by decide +kernel
  have hsnake : snake "_XMLParser2Go-" = "xml_parser_2_go" := by decide +kernel
  obtain ⟨-, -, -, hback, hforth, -⟩ := snake_kebab_normal hascii
  rw [hkebab, hsnake] at hback hforth
  exact ⟨hascii, hkebab, hback, hforth⟩

end Cases

end Scaffold.Name
