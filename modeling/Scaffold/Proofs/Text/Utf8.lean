import Scaffold.Text.Utf8

/-! Bytes read back: what is encoded comes out again, with every line end one line feed. -/

namespace Scaffold.Text.Utf8

variable {b : UInt8} {r : List UInt8} {first value taken low high : Nat}

theorem piecesFrom_last (hlow : low ≤ b.toNat) (hhigh : b.toNat ≤ high) :
    piecesFrom (some ⟨first, value, taken, 1, low, high⟩) (b :: r) =
      .char (Char.ofNat (value * 64 + (b.toNat - 0x80))) :: piecesFrom none r := by
  rw [piecesFrom]
  simp only [hlow, hhigh, decide_true, Bool.and_self, if_true, Nat.le_refl]

theorem piecesFrom_next {m : Nat} (hlow : low ≤ b.toNat) (hhigh : b.toNat ≤ high) :
    piecesFrom (some ⟨first, value, taken, m + 2, low, high⟩) (b :: r) =
      piecesFrom (some ⟨first, value * 64 + (b.toNat - 0x80), taken + 1, m + 1, 0x80, 0xbf⟩) r := by
  rw [piecesFrom]
  simp only [hlow, hhigh, decide_true, Bool.and_self, if_true]
  rfl

theorem piecesFrom_start {n : Nat} {p : Partial} (hb : b.toNat = n) (hs : start n = .inr p) :
    piecesFrom none (b :: r) = piecesFrom (some p) r := by
  rw [piecesFrom, hb, hs]

theorem start_two {n : Nat} (hlow : 0xc2 ≤ n) (hhigh : n < 0xe0) :
    start n = Sum.inr ⟨n, n - 0xc0, 1, 1, 0x80, 0xbf⟩ := by
  unfold start
  rw [if_neg (by omega), if_neg (by omega), if_pos hhigh]
  rfl

theorem start_three {n : Nat} (hlow : 0xe0 ≤ n) (hhigh : n < 0xf0) :
    start n = Sum.inr ⟨n, n - 0xe0, 1, 2, if n = 0xe0 then 0xa0 else 0x80,
      if n = 0xed then 0x9f else 0xbf⟩ := by
  unfold start
  rw [if_neg (by omega), if_neg (by omega), if_neg (by omega)]
  by_cases h0 : n = 0xe0
  · subst h0
    rfl
  · rw [if_neg h0, if_neg h0]
    by_cases hd : n = 0xed
    · subst hd
      rfl
    · rw [if_neg hd, if_neg hd, if_pos hhigh]
      rfl

theorem start_four {n : Nat} (hlow : 0xf0 ≤ n) (hhigh : n < 0xf5) :
    start n = Sum.inr ⟨n, n - 0xf0, 1, 3, if n = 0xf0 then 0x90 else 0x80,
      if n = 0xf4 then 0x8f else 0xbf⟩ := by
  unfold start
  rw [if_neg (by omega), if_neg (by omega), if_neg (by omega), if_neg (by omega), if_neg (by omega),
    if_neg (by omega)]
  by_cases h0 : n = 0xf0
  · subst h0
    rfl
  · rw [if_neg h0, if_neg h0]
    by_cases h4 : n < 0xf4
    · rw [if_pos h4, if_neg (by omega)]
      rfl
    · have hlast : n = 0xf4 := by omega
      subst hlast
      rfl

theorem toNat_bounds (c : Char) : c.toNat < 0xd800 ∨ (0xdfff < c.toNat ∧ c.toNat < 0x110000) :=
  c.valid

theorem toNat_ofNat {n : Nat} (h : n < 256) : (UInt8.ofNat n).toNat = n :=
  UInt8.toNat_ofNat_of_lt' h

theorem piecesFrom_encode_char (c : Char) (r : List UInt8) :
    piecesFrom none (String.utf8EncodeChar c ++ r) = .char c :: piecesFrom none r := by
  have hbounds := toNat_bounds c
  have hval : c.val.toNat = c.toNat := rfl
  have hchar : ∀ n, n = c.toNat → Char.ofNat n = c := fun n h => by rw [h, Char.ofNat_toNat]
  unfold String.utf8EncodeChar
  dsimp only
  rw [hval]
  generalize hv : c.toNat = v at *
  have hlast : (UInt8.ofNat (v % 0x40 + 0x80)).toNat = v % 0x40 + 0x80 := toNat_ofNat (by omega)
  have hmid : (UInt8.ofNat (v / 64 % 0x40 + 0x80)).toNat = v / 64 % 0x40 + 0x80 := toNat_ofNat (by omega)
  -- One byte, two, three or four. The bounds for the second byte exclude what would have fitted into fewer.
  by_cases h1 : v ≤ 0x7f
  · have hstart : start v = .inl (.char (Char.ofNat v)) := by
      unfold start
      rw [if_pos (by omega)]
    rw [if_pos h1, List.cons_append, List.nil_append, piecesFrom, toNat_ofNat (by omega), hstart, hchar v rfl]
  rw [if_neg h1]
  by_cases h2 : v ≤ 0x7ff
  · have hfirst : (UInt8.ofNat (v / 64 % 0x20 + 0xc0)).toNat = v / 64 % 0x20 + 0xc0 := toNat_ofNat (by omega)
    rw [if_pos h2, List.cons_append, List.cons_append, List.nil_append,
      piecesFrom_start hfirst (start_two (by omega) (by omega)),
      piecesFrom_last (by rw [hlast]; omega) (by rw [hlast]; omega), hlast,
      hchar _ (by omega)]
  rw [if_neg h2]
  by_cases h3 : v ≤ 0xffff
  · have hfirst : (UInt8.ofNat (v / 4096 % 0x10 + 0xe0)).toNat = v / 4096 % 0x10 + 0xe0 :=
      toNat_ofNat (by omega)
    rw [if_pos h3, List.cons_append, List.cons_append, List.cons_append, List.nil_append,
      piecesFrom_start hfirst (start_three (by omega) (by omega)),
      piecesFrom_next (m := 0) (by rw [hmid]; split <;> omega)
        (by rw [hmid]; split <;> omega),
      piecesFrom_last (by rw [hlast]; omega) (by rw [hlast]; omega), hlast, hmid,
      hchar _ (by omega)]
  · have hfirst : (UInt8.ofNat (v / 262144 % 0x08 + 0xf0)).toNat = v / 262144 % 0x08 + 0xf0 :=
      toNat_ofNat (by omega)
    have hsecond : (UInt8.ofNat (v / 4096 % 0x40 + 0x80)).toNat = v / 4096 % 0x40 + 0x80 :=
      toNat_ofNat (by omega)
    rw [if_neg h3, List.cons_append, List.cons_append, List.cons_append, List.cons_append, List.nil_append,
      piecesFrom_start hfirst (start_four (by omega) (by omega)),
      piecesFrom_next (m := 1) (by rw [hsecond]; split <;> omega)
        (by rw [hsecond]; split <;> omega),
      piecesFrom_next (m := 0) (by rw [hmid]; omega) (by rw [hmid]; omega),
      piecesFrom_last (by rw [hlast]; omega) (by rw [hlast]; omega), hlast, hmid, hsecond,
      hchar _ (by omega)]

theorem pieces_encode (s : String) : pieces (encode s) = s.toList.map Piece.char := by
  unfold pieces encode
  induction s.toList with
  | nil => rfl
  | cons c r ih => rw [List.flatMap_cons, piecesFrom_encode_char, ih, List.map_cons]

theorem readText_encode (s : String) : readText (encode s) = String.ofList (newlinesToLf s.toList) := by
  have hlossy : (s.toList.map Piece.char).map Piece.lossy = s.toList := by
    rw [List.map_map]
    exact List.map_id _
  unfold readText
  rw [pieces_encode, hlossy]

theorem newlinesToLf_eq_self {s : List Char} (h : '\r' ∉ s) : newlinesToLf s = s := by
  induction s with
  | nil => rfl
  | cons c r ih =>
    have hc : c ≠ '\r' := fun hc => h (hc ▸ List.mem_cons_self)
    rw [newlinesToLf, if_neg (by simpa using hc), ih fun hr => h (List.mem_cons_of_mem c hr)]
    exact fun _ hcr => absurd hcr hc

theorem readText_encode_of_lf {s : String} (h : '\r' ∉ s.toList) : readText (encode s) = s := by
  rw [readText_encode, newlinesToLf_eq_self h, String.ofList_toList]

theorem firstFault?_chars (position : Nat) (s : List Char) : firstFault? position (s.map Piece.char) = none := by
  induction s generalizing position with
  | nil => rfl
  | cons c r ih => exact ih (position + c.utf8Size)

theorem readStrict_encode_of_lf {s : String} (h : '\r' ∉ s.toList) : readStrict (encode s) = .ok s := by
  unfold readStrict
  rw [pieces_encode, firstFault?_chars, readText_encode_of_lf h]

end Scaffold.Text.Utf8
