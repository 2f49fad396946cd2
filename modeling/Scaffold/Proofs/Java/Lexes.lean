import Scaffold.Proofs.Java.Identifiers

/-! Texts by their tokens. The tokens of a text depend on nothing in front of it, so that words, marks and blanks can
be put in front of a text one by one. -/

namespace Scaffold.Java

open Scaffold.Text

section Place

variable {α β : Type}

/-- Where the first gives a result the second one gives the same. -/
def Implies (x y : Except LexFault α) : Prop := ∀ a, x = .ok a → y = .ok a

namespace Implies

theorem refl (x : Except LexFault α) : Implies x x := fun _ h => h

theorem error (f : LexFault) (y : Except LexFault α) : Implies (.error f) y := fun _ h => nomatch h

theorem ite {b : Prop} [Decidable b] {x y x' y' : Except LexFault α} (hx : Implies x x') (hy : Implies y y') :
    Implies (if b then x else y) (if b then x' else y') := by
  by_cases hb : b
  · rwa [if_pos hb, if_pos hb]
  · rwa [if_neg hb, if_neg hb]

theorem bind {x x' : Except LexFault α} {f f' : α → Except LexFault β} (hx : Implies x x')
    (hf : ∀ a, Implies (f a) (f' a)) : Implies (x >>= f) (x' >>= f') := by
  intro b hb
  cases x with
  | error e => exact nomatch hb
  | ok a =>
    rw [hx a rfl]
    exact hf a b hb

theorem map {x x' : Except LexFault α} (hx : Implies x x') (f : α → β) : Implies (x.map f) (x'.map f) := by
  intro b hb
  cases x with
  | error e => exact nomatch hb
  | ok a =>
    rw [hx a rfl]
    exact hb

end Implies

variable {p q : Place}

theorem hexLength_implies (h : q.ahead = p.ahead) : Implies (hexLength p) (hexLength q) := by
  unfold hexLength
  rw [h]
  refine .bind (.refl _) fun n => .ite (.refl _) (.ite (.bind (.refl _) fun _ => .bind (.refl _) fun m => ?_)
    (.bind (.refl _) fun m => ?_))
  all_goals
    dsimp only
    cases p.ahead.drop m with
    | nil => exact .refl _
    | cons c r => exact .ite (.refl _) (.error _ _)

theorem numberLength_implies (h : q.ahead = p.ahead) : Implies (numberLength p) (numberLength q) := by
  unfold numberLength
  rw [h]
  split
  · exact .refl _
  · exact .ite (hexLength_implies h) (.refl _)
  · exact .refl _

theorem pieceAt_implies (h : q.ahead = p.ahead) (c : Char) (r : List Char) :
    Implies (pieceAt p c r) (pieceAt q c r) := by
  unfold pieceAt
  refine .ite (.refl _) (.ite (.refl _) (.ite ?comment (.ite (.refl _) (.ite (.refl _) (.ite (.refl _) (.ite (.refl _)
    (.ite ?literal (.ite ?number (.ite (.refl _) ?operator)))))))))
  case comment =>
    cases commentLength? 2 (r.drop 1) with
    | some n => exact .refl _
    | none => exact .error _ _
  case literal =>
    cases literalEnd c 1 r with
    | closed n => exact .refl _
    | badEscape e => exact .error _ _
    | missing => exact .error _ _
  case number => exact .map (numberLength_implies h) _
  case operator =>
    cases operatorLength? (c :: r) with
    | some n => exact .refl _
    | none => exact .error _ _

theorem tokensFrom_cons {c : Char} {r : List Char} (h : p.ahead = c :: r) (fuel : Nat) :
    tokensFrom (fuel + 1) p = (do
      match ← pieceAt p c r with
      | .gap n => tokensFrom fuel (p.skip (max n 1))
      | .token kind n =>
        let rest ← tokensFrom fuel (p.pass (max n 1))
        return { kind, text := String.ofList (p.ahead.take n) } :: rest) := by
  rw [tokensFrom]
  split
  · next hnil => cases h.symm.trans hnil
  · next c' r' hcons =>
    cases h.symm.trans hcons
    rfl

/-- Tokens that are found are found at every place with the same ahead, if the fuel is enough. -/
theorem tokensFrom_implies {fuel fuel' : Nat} (h : q.ahead = p.ahead) (hf : p.ahead.length < fuel)
    (hf' : p.ahead.length < fuel') : Implies (tokensFrom fuel p) (tokensFrom fuel' q) := by
  induction fuel generalizing fuel' p q with
  | zero => exact absurd hf (Nat.not_lt_zero _)
  | succ fuel ih =>
    obtain ⟨fuel', rfl⟩ : ∃ n, fuel' = n + 1 := ⟨fuel' - 1, by omega⟩
    cases hp : p.ahead with
    | nil =>
      rw [tokensFrom, tokensFrom, h, hp]
      exact .refl _
    | cons c r =>
      rw [tokensFrom_cons hp, tokensFrom_cons (h.trans hp)]
      -- Every piece is at least one character long, which is what the fuel of both sides is spent on.
      have hshorter (n : Nat) : (p.ahead.drop (max n 1)).length < min fuel fuel' := by
        rw [List.length_drop]
        rw [hp] at hf hf' ⊢
        rw [List.length_cons] at hf hf' ⊢
        omega
      refine .bind (pieceAt_implies h c r) fun piece => ?_
      cases piece with
      | gap n =>
        exact ih (congrArg (List.drop (max n 1)) h) (Nat.lt_of_lt_of_le (hshorter n) (Nat.min_le_left _ _))
          (Nat.lt_of_lt_of_le (hshorter n) (Nat.min_le_right _ _))
      | token kind n =>
        refine .bind (ih (congrArg (List.drop (max n 1)) h)
          (Nat.lt_of_lt_of_le (hshorter n) (Nat.min_le_left _ _))
          (Nat.lt_of_lt_of_le (hshorter n) (Nat.min_le_right _ _))) fun rest => ?_
        rw [h]
        exact .refl _

end Place

/-- A text has certain tokens, whatever stands in front of it. -/
def Lexes (cs : List Char) (ts : List Token) : Prop := tokensFrom (cs.length + 1) (Place.start cs) = .ok ts

namespace Lexes

variable {c : Char} {r rest : List Char} {ts : List Token}

theorem tokensFrom {cs : List Char} (h : Lexes cs ts) {p : Place} (hp : p.ahead = cs) {fuel : Nat}
    (hf : cs.length < fuel) : tokensFrom fuel p = .ok ts :=
  tokensFrom_implies (p := Place.start cs) hp (Nat.lt_succ_self _) hf ts h

theorem token {kind : TokenKind} {n : Nat} (hpiece : pieceAt (Place.start (c :: r)) c r = .ok (.token kind (n + 1)))
    (h : Lexes (r.drop n) ts) : Lexes (c :: r) (⟨kind, String.ofList (c :: r.take n)⟩ :: ts) := by
  have hrest : Java.tokensFrom (r.length + 1) ((Place.start (c :: r)).pass (max (n + 1) 1)) = .ok ts := by
    rw [Nat.max_eq_left (Nat.succ_pos n)]
    refine h.tokensFrom rfl ?_
    rw [List.length_drop]
    omega
  unfold Lexes
  rw [List.length_cons, tokensFrom_cons rfl, hpiece]
  change (do
    let rest ← Java.tokensFrom (r.length + 1) ((Place.start (c :: r)).pass (max (n + 1) 1))
    return (_ : Token) :: rest) = _
  rw [hrest]
  rfl

theorem blank_iff (hc : isBlank c = true) : Lexes (c :: r) ts ↔ Lexes (r.dropWhile isBlank) ts := by
  have hpiece : pieceAt (Place.start (c :: r)) c r = .ok (.gap (1 + (r.takeWhile isBlank).length)) := by
    unfold pieceAt
    rw [if_pos hc]
  let p := (Place.start (c :: r)).skip (max (1 + (r.takeWhile isBlank).length) 1)
  have hstep : Java.tokensFrom ((c :: r).length + 1) (Place.start (c :: r)) = Java.tokensFrom (r.length + 1) p := by
    rw [List.length_cons, tokensFrom_cons rfl, hpiece]
    rfl
  have hahead : p.ahead = r.dropWhile isBlank := by
    have hdrop : (r.takeWhile isBlank ++ r.dropWhile isBlank).drop (r.takeWhile isBlank).length =
        r.dropWhile isBlank := List.drop_left
    rw [List.takeWhile_append_dropWhile] at hdrop
    change (c :: r).drop (max (1 + (r.takeWhile isBlank).length) 1) = _
    rw [Nat.max_eq_left (Nat.le_add_right 1 _), Nat.add_comm, List.drop_succ_cons, hdrop]
  have hlength : (r.dropWhile isBlank).length < r.length + 1 :=
    Nat.lt_succ_of_le (List.dropWhile_sublist _).length_le
  rw [Lexes, hstep]
  constructor
  · exact tokensFrom_implies hahead.symm (hahead ▸ hlength) (hahead ▸ Nat.lt_succ_self _) ts
  · exact fun h => h.tokensFrom hahead hlength

theorem blank (hc : isBlank c = true) (h : Lexes r ts) : Lexes (c :: r) ts := by
  rw [blank_iff hc]
  cases r with
  | nil => exact h
  | cons d r =>
    cases hd : isBlank d with
    | true => rwa [List.dropWhile_cons, hd, if_pos rfl, ← blank_iff hd]
    | false => rwa [List.dropWhile_cons, hd, if_neg Bool.false_ne_true]

end Lexes

section Characters

variable {c d : Char}

theorem ne_of_starts (hc : startsIdentifier c = true) (hd : startsIdentifier d = false) : (c == d) = false := by
  rw [beq_eq_false_iff_ne]
  rintro rfl
  exact absurd hc (by rw [hd]; decide)

theorem not_blank_of_starts (hc : startsIdentifier c = true) : isBlank c = false := by
  cases hb : isBlank c with
  | false => rfl
  | true => exact absurd (inIdentifier_of_starts hc) (by rw [not_inIdentifier_of_blank hb]; decide)

theorem not_separator_of_starts (hc : startsIdentifier c = true) : separators.contains c = false := by
  have hall : ∀ d ∈ separators, d.toNat < 128 ∧ (isAsciiLetter d || d == '_' || d == '$') = false := by
    simp [separators, isAsciiLetter]
  cases h : separators.contains c with
  | false => rfl
  | true =>
    obtain ⟨hascii, hother⟩ := hall c (List.contains_iff_mem.1 h)
    unfold startsIdentifier at hc
    rw [if_pos hascii, hother] at hc
    exact absurd hc Bool.false_ne_true

theorem not_asciiDigit_of_starts (hc : startsIdentifier c = true) : isAsciiDigit c = false := by
  have hall : ∀ n ∈ List.range' 48 10, startsIdentifier (Char.ofNat n) = false := by decide
  cases h : isAsciiDigit c with
  | false => rfl
  | true =>
    unfold isAsciiDigit at h
    rw [Bool.and_eq_true, decide_eq_true_eq, decide_eq_true_eq] at h
    have hlow : 48 ≤ c.toNat := h.1
    have hhigh : c.toNat ≤ 57 := h.2
    have hnot := hall c.toNat (List.mem_range'_1.2 ⟨hlow, by omega⟩)
    rw [Char.ofNat_toNat] at hnot
    exact absurd hc (by rw [hnot]; decide)

end Characters

theorem pieceAt_word (p : Place) {c : Char} (hc : startsIdentifier c = true) (r : List Char) :
    pieceAt p c r = .ok (.token (wordKind (String.ofList (c :: r.takeWhile inIdentifier)))
      ((r.takeWhile inIdentifier).length + 1)) := by
  have hdot : ¬('.' == c) = true := by
    intro h
    rw [← beq_iff_eq.1 h] at hc
    exact absurd hc (by decide)
  have hdots : (after? "...".toList (c :: r)).isSome = false := by
    rw [show "...".toList = ['.', '.', '.'] from rfl, after?, if_neg hdot]
    rfl
  unfold pieceAt
  simp only [not_blank_of_starts hc, ne_of_starts (d := '/') hc (by decide), hdots,
    ne_of_starts (d := '@') hc (by decide), ne_of_starts (d := '.') hc (by decide), not_separator_of_starts hc,
    ne_of_starts (d := '\'') hc (by decide), ne_of_starts (d := '"') hc (by decide), not_asciiDigit_of_starts hc, hc,
    Bool.false_and, Bool.or_self, Bool.false_eq_true, if_false, if_true]
  rfl

/-- A text that the lexer takes for a word. -/
structure IsWord (s : String) : Prop where
  starts : s.toList.head?.any startsIdentifier = true
  chars : s.toList.all inIdentifier = true

namespace Lexes

variable {rest : List Char} {ts : List Token}

theorem word {w : String} (hw : IsWord w) (hrest : rest.takeWhile inIdentifier = []) (h : Lexes rest ts) :
    Lexes (w.toList ++ rest) (⟨wordKind w, w⟩ :: ts) := by
  obtain ⟨hstarts, hchars⟩ := hw
  cases hcs : w.toList with
  | nil =>
    rw [hcs] at hstarts
    exact nomatch hstarts
  | cons c r =>
    rw [hcs] at hstarts hchars
    have hc : startsIdentifier c = true := hstarts
    have hr : ∀ x ∈ r, inIdentifier x = true := fun x hx => List.all_eq_true.1 hchars x (List.mem_cons_of_mem c hx)
    have hrun : (r ++ rest).takeWhile inIdentifier = r := by
      rw [List.takeWhile_append_of_pos hr, hrest, List.append_nil]
    have hpiece := pieceAt_word (Place.start (c :: (r ++ rest))) hc (r ++ rest)
    rw [hrun, ← hcs, String.ofList_toList] at hpiece
    have htoken := Lexes.token hpiece (by rwa [List.drop_left])
    rw [List.take_left, ← hcs, String.ofList_toList] at htoken
    exact htoken

theorem semicolon (h : Lexes rest ts) : Lexes (';' :: rest) (⟨.separator, ";"⟩ :: ts) :=
  Lexes.token (n := 0) rfl h

theorem dot {c : Char} {r : List Char} (hc : startsIdentifier c = true) (hdigit : isDigit c = false)
    (h : Lexes (c :: r) ts) : Lexes ('.' :: c :: r) (⟨.separator, "."⟩ :: ts) := by
  have hdot : ¬('.' == c) = true := by
    intro h
    rw [← beq_iff_eq.1 h] at hc
    exact absurd hc (by decide)
  have hdots : (after? "...".toList ('.' :: c :: r)).isSome = false := by
    rw [show "...".toList = ['.', '.', '.'] from rfl, after?, if_pos (beq_self_eq_true '.'), after?, if_neg hdot]
    rfl
  have hpiece : pieceAt (Place.start ('.' :: c :: r)) '.' (c :: r) = .ok (.token .separator 1) := by
    unfold pieceAt
    rw [if_neg (by decide), if_neg (by simp), if_neg (by simp), if_neg (by rw [hdots]; decide), if_neg (by decide),
      if_neg (by simp [hdigit]), if_pos (by decide)]
  exact Lexes.token (n := 0) hpiece h

end Lexes

end Scaffold.Java
