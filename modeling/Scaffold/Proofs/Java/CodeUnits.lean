import Mathlib.Data.List.Basic
import Scaffold.Java.Escapes

/-! Code units of sources. What the unicode escapes of a source stand for is told in code units, where a character
above the basic plane is a pair; the lexer puts its characters together from these. -/

namespace Scaffold.Java

open Scaffold.Text

/-- The code units of a character, by its number. -/
def codeUnits (n : Nat) : List Nat :=
  if n < 0x10000 then [n] else [0xd800 + (n - 0x10000) / 0x400, 0xdc00 + (n - 0x10000) % 0x400]

/-- A text in code units. -/
def utf16 (s : List Char) : List Nat := s.flatMap fun c => codeUnits c.toNat

/-- The code unit that the characters behind a backslash and a `u` name, and what follows. -/
def hexEscape? : List Char → Option (Nat × List Char)
  | 'u' :: r => hexEscape? r
  | a :: b :: c :: d :: r => (Json.hexUnit? a b c d).map fun n => (n, r)
  | _ => none

theorem length_of_hexEscape? {s r : List Char} {n : Nat} (h : hexEscape? s = some (n, r)) : r.length < s.length := by
  fun_induction hexEscape? s with
  | case1 s ih => exact Nat.lt_succ_of_lt (ih h)
  | case2 a b c d s _ =>
    obtain ⟨m, -, hm⟩ := Option.map_eq_some_iff.1 h
    cases hm
    simp only [List.length_cons]
    omega
  | case3 => exact nomatch h

/-- The code units of a source. A backslash opens a unicode escape unless a backslash that opens none stands in front
of it; one behind which no escape follows makes the source invalid. -/
def sourceUnits : List Char → Option (List Nat)
  | [] => some []
  | '\\' :: 'u' :: r =>
    match _h : hexEscape? r with
    | none => none
    | some (n, r') => (sourceUnits r').map (n :: ·)
  | '\\' :: c :: r => (sourceUnits r).map fun us => 92 :: codeUnits c.toNat ++ us
  | c :: r => (sourceUnits r).map fun us => codeUnits c.toNat ++ us
termination_by s => s.length
decreasing_by
  · have hshorter := length_of_hexEscape? _h
    simp only [List.length_cons]
    omega
  · simp only [List.length_cons]
    omega
  · simp only [List.length_cons]
    omega

section Assembly

variable {n m : Nat} {c : Char} {us vs : List Nat} {s : List Char}

theorem joined?_eq_none (h : ¬ (0xd800 ≤ n ∧ n < 0xdc00 ∧ 0xdc00 ≤ m ∧ m < 0xe000)) : Json.joined? n m = none := by
  unfold Json.joined?
  rw [if_neg]
  simpa only [Bool.and_eq_true, decide_eq_true_eq, and_assoc] using h

theorem joined?_eq_some (h : Json.joined? n m = some c) :
    (0xd800 ≤ n ∧ n < 0xdc00 ∧ 0xdc00 ≤ m ∧ m < 0xe000) ∧
      c = Char.ofNat (0x10000 + (n - 0xd800) * 0x400 + (m - 0xdc00)) := by
  unfold Json.joined? at h
  split at h
  · next hpair =>
    have hc := Option.some.inj h
    exact ⟨by simpa only [Bool.and_eq_true, decide_eq_true_eq, and_assoc] using hpair, hc.symm⟩
  · exact nomatch h

/-- A unit that is no first half of a pair with the next one stands for itself. -/
theorem assemble_cons (h : ∀ m, us.head? = some m → Json.joined? n m = none) :
    Escapes.assemble (n :: us) = Json.ofUnit n :: Escapes.assemble us := by
  cases us with
  | nil => rfl
  | cons m r => rw [Escapes.assemble, h m rfl]

theorem assemble_pair (h : Json.joined? n m = some c) :
    Escapes.assemble (n :: m :: us) = c :: Escapes.assemble us := by
  rw [Escapes.assemble, h]

theorem ofUnit_of_not_half (h : ¬ (0xd800 ≤ n ∧ n < 0xe000)) : Json.ofUnit n = Char.ofNat n := by
  unfold Json.ofUnit
  rw [if_neg]
  simpa only [Bool.and_eq_true, decide_eq_true_eq] using h

theorem assemble_plain (h : ¬ (0xd800 ≤ n ∧ n < 0xe000)) (us : List Nat) :
    Escapes.assemble (n :: us) = Char.ofNat n :: Escapes.assemble us := by
  rw [assemble_cons fun m _ => joined?_eq_none (by omega), ofUnit_of_not_half h]

theorem assemble_codeUnits (hlow : ¬ (0xd800 ≤ n ∧ n < 0xe000)) (hmax : n < 0x110000) (us : List Nat) :
    Escapes.assemble (codeUnits n ++ us) = Char.ofNat n :: Escapes.assemble us := by
  unfold codeUnits
  split
  · exact assemble_plain hlow us
  · next hhigh =>
    have hpair : Json.joined? (0xd800 + (n - 0x10000) / 0x400) (0xdc00 + (n - 0x10000) % 0x400) =
        some (Char.ofNat n) := by
      have hsum : 0x10000 + (0xd800 + (n - 0x10000) / 0x400 - 0xd800) * 0x400 +
          (0xdc00 + (n - 0x10000) % 0x400 - 0xdc00) = n := by omega
      unfold Json.joined?
      rw [if_pos (by simp only [Bool.and_eq_true, decide_eq_true_eq]; omega), hsum]
    exact assemble_pair hpair

theorem char_not_half (c : Char) : ¬ (0xd800 ≤ c.toNat ∧ c.toNat < 0xe000) := by
  intro hhalf
  rcases c.valid with hlow | ⟨hhigh, -⟩
  · have hlow : c.toNat < 0xd800 := hlow
    omega
  · have hhigh : 0xdfff < c.toNat := hhigh
    omega

theorem char_lt_max (c : Char) : c.toNat < 0x110000 := by
  rcases c.valid with hlow | ⟨-, hmax⟩
  · have hlow : c.toNat < 0xd800 := hlow
    omega
  · exact hmax

theorem assemble_char (c : Char) (us : List Nat) :
    Escapes.assemble (codeUnits c.toNat ++ us) = c :: Escapes.assemble us := by
  rw [assemble_codeUnits (char_not_half c) (char_lt_max c), Char.ofNat_toNat]

theorem assemble_utf16 (s : List Char) : Escapes.assemble (utf16 s) = s := by
  induction s with
  | nil => rfl
  | cons c r ih => rw [utf16, List.flatMap_cons, assemble_char, ← utf16, ih]

theorem toNat_char (hhalf : ¬ (0xd800 ≤ n ∧ n < 0xe000)) (hmax : n < 0x110000) : (Char.ofNat n).toNat = n := by
  have hvalid : n.isValidChar := by
    unfold Nat.isValidChar
    omega
  rw [Char.ofNat, dif_pos hvalid]
  rfl

/-- A unit that is no half of a pair is a character, half a pair the replacement character. -/
theorem toNat_ofUnit (hmax : n < 0x10000) :
    (Json.ofUnit n).toNat = n ∨ (0xd800 ≤ n ∧ n < 0xe000) ∧ (Json.ofUnit n).toNat = 0xfffd := by
  by_cases hhalf : 0xd800 ≤ n ∧ n < 0xe000
  · refine .inr ⟨hhalf, ?_⟩
    unfold Json.ofUnit
    rw [if_pos (by simpa using hhalf)]
    rfl
  · rw [ofUnit_of_not_half hhalf]
    exact .inl (toNat_char hhalf (by omega))

theorem assemble_append_plain (h : ∀ n ∈ us, n < 0xd800) (vs : List Nat) :
    Escapes.assemble (us ++ vs) = us.map Char.ofNat ++ Escapes.assemble vs := by
  induction us with
  | nil => rfl
  | cons n r ih =>
    rw [List.forall_mem_cons] at h
    rw [List.cons_append, assemble_plain (by omega), ih h.2]
    rfl

theorem codeUnits_of_lt (h : n < 0x10000) : codeUnits n = [n] := if_pos h

/-- A unit that is joined with no number is not joined with the first unit of one either. -/
theorem joined?_codeUnits (h : Json.joined? n m = none) (hmax : m < 0x110000) (us : List Nat) :
    ∀ k, (codeUnits m ++ us).head? = some k → Json.joined? n k = none := by
  intro k hk
  unfold codeUnits at hk
  split at hk
  · cases hk
    exact h
  · have hfirst : 0xd800 + (m - 0x10000) / 0x400 = k := Option.some.inj hk
    exact joined?_eq_none (by omega)

theorem length_codeUnits_pos (n : Nat) : 0 < (codeUnits n).length := by
  unfold codeUnits
  split <;> exact Nat.succ_pos _

theorem of_mem_codeUnits (h : n ∈ codeUnits c.toNat) : n = c.toNat ∨ 0xd800 ≤ n := by
  unfold codeUnits at h
  split at h
  · exact .inl (List.mem_singleton.1 h)
  · rcases List.mem_pair.1 h with hn | hn <;> omega

theorem lt_of_mem_codeUnits (hmax : n < 0x110000) (h : m ∈ codeUnits n) : m < 0x10000 := by
  unfold codeUnits at h
  split at h
  · rw [List.mem_singleton.1 h]
    assumption
  · rcases List.mem_pair.1 h with hm | hm <;> omega

theorem assemble_unit (hmax : n < 0x110000) (hnext : ∀ k, us.head? = some k → Json.joined? n k = none) :
    Escapes.assemble (codeUnits n ++ us) = Json.ofUnit n :: Escapes.assemble us := by
  by_cases hhalf : 0xd800 ≤ n ∧ n < 0xe000
  · rw [codeUnits_of_lt (by omega)]
    exact assemble_cons hnext
  · rw [assemble_codeUnits hhalf hmax, ofUnit_of_not_half hhalf]

/-- Code units come back from their text unless half a pair is among them. -/
theorem utf16_assemble_iff : utf16 (Escapes.assemble us) = us ↔ ∃ cs, us = utf16 cs := by
  refine ⟨fun h => ⟨_, h.symm⟩, ?_⟩
  rintro ⟨cs, rfl⟩
  rw [assemble_utf16]

theorem length_utf16_cons (c : Char) (s : List Char) :
    (utf16 (c :: s)).length = (codeUnits c.toNat).length + (utf16 s).length := by
  rw [utf16, List.flatMap_cons, List.length_append]
  rfl

theorem length_utf16_append (s t : List Char) : (utf16 (s ++ t)).length = (utf16 s).length + (utf16 t).length := by
  rw [utf16, List.flatMap_append, List.length_append]
  rfl

theorem assemble_flatMap (h : ∀ n ∈ us, n < 0x110000) :
    Escapes.assemble (us.flatMap codeUnits) = Escapes.assemble us := by
  fun_induction Escapes.assemble us with
  | case1 => rfl
  | case2 n => exact assemble_unit (h n List.mem_cons_self) nofun
  | case3 n m r c hpair ih =>
    obtain ⟨hhalves, -⟩ := joined?_eq_some hpair
    simp only [List.forall_mem_cons] at h
    rw [List.flatMap_cons, List.flatMap_cons, codeUnits_of_lt (by omega), codeUnits_of_lt (by omega)]
    exact (assemble_pair hpair).trans (congrArg _ (ih h.2.2))
  | case4 n m r hnone ih =>
    rw [List.forall_mem_cons] at h
    rw [List.flatMap_cons, assemble_unit h.1, ih h.2]
    rw [List.flatMap_cons]
    exact joined?_codeUnits hnone (h.2 m List.mem_cons_self) _

theorem assemble_append (hm : ¬ (0xdc00 ≤ m ∧ m < 0xe000)) (us vs : List Nat) :
    Escapes.assemble (us ++ m :: vs) = Escapes.assemble us ++ Escapes.assemble (m :: vs) := by
  fun_induction Escapes.assemble us with
  | case1 => rfl
  | case2 n =>
    refine assemble_cons fun k hk => ?_
    cases hk
    exact joined?_eq_none (by omega)
  | case3 n k r c hpair ih => exact (assemble_pair hpair).trans (congrArg _ ih)
  | case4 n k r hnone ih =>
    refine (assemble_cons fun j hj => ?_).trans (congrArg _ ih)
    cases hj
    exact hnone

end Assembly

section Source

variable {n : Nat} {us : List Nat} {s r : List Char}

theorem hexEscape?_eq_some (h : hexEscape? s = some (n, r)) : ∃ a b c d,
    s.dropWhile (· == 'u') = a :: b :: c :: d :: r ∧ Json.hexUnit? a b c d = some n := by
  fun_induction hexEscape? s with
  | case1 s ih =>
    rw [List.dropWhile_cons, if_pos (beq_self_eq_true 'u')]
    exact ih h
  | case2 a b c d s hnot =>
    obtain ⟨m, hm, heq⟩ := Option.map_eq_some_iff.1 h
    cases heq
    have ha : ¬ (a == 'u') = true := fun ha => hnot (beq_iff_eq.1 ha)
    exact ⟨a, b, c, d, by rw [List.dropWhile_cons, if_neg ha], hm⟩
  | case3 => exact nomatch h

/-- A hexadecimal digit is none of the characters that the lexer lets stand beside the digits. -/
theorem of_hexValue? {c : Char} (h : Json.hexValue? c = some n) :
    n < 16 ∧ isBlank c = false ∧ c ∉ ['+', '_', 'x', 'X'] := by
  have hall : ∀ k ∈ List.range' 48 10 ++ List.range' 97 6 ++ List.range' 65 6,
      isBlank (Char.ofNat k) = false ∧ Char.ofNat k ∉ ['+', '_', 'x', 'X'] := by
    decide
  -- The digits by their numbers, which leaves finitely many characters to look at.
  have hlisted : n < 16 ∧ c.toNat ∈ List.range' 48 10 ++ List.range' 97 6 ++ List.range' 65 6 := by
    have hbounds (low high : Char) (hc : (decide (low ≤ c) && decide (c ≤ high)) = true) :
        low.toNat ≤ c.toNat ∧ c.toNat ≤ high.toNat := by
      rw [Bool.and_eq_true, decide_eq_true_eq, decide_eq_true_eq] at hc
      exact hc
    have hdecimal := hbounds '0' '9'
    have hsmall := hbounds 'a' 'f'
    have hcapital := hbounds 'A' 'F'
    simp only [Char.reduceToNat] at hdecimal hsmall hcapital
    unfold Json.hexValue? isAsciiDigit at h
    simp only [List.mem_append, List.mem_range'_1]
    split_ifs at h with h0 h1 h2 <;> cases h
    · have hc := hdecimal h0
      omega
    · have hc := hsmall h1
      omega
    · have hc := hcapital h2
      omega
  have hchar := hall c.toNat hlisted.2
  rw [Char.ofNat_toNat] at hchar
  exact ⟨hlisted.1, hchar⟩

theorem digit?_of_hexValue? {c : Char} (h : Json.hexValue? c = some n) : Escapes.digit? c = some n := by
  unfold Escapes.digit?
  rw [h]
  rfl

theorem digits?_last {c : Char} (h : Json.hexValue? c = some n) (k : Nat) :
    Escapes.digits? k [c] = some (16 * k + n) := by
  rw [Escapes.digits?, digit?_of_hexValue? h]
  rfl

theorem digits?_cons {c d : Char} (h : Json.hexValue? c = some n) (hd : d ≠ '_') (k : Nat) (r : List Char) :
    Escapes.digits? k (c :: d :: r) = Escapes.digits? (16 * k + n) (d :: r) := by
  rw [Escapes.digits?, digit?_of_hexValue? h]
  · rfl
  · exact nofun
  · rintro r heq
    exact hd (List.cons.inj heq).1

theorem codeUnit?_of_hexUnit? {a b c d : Char} (h : Json.hexUnit? a b c d = some n) :
    Escapes.codeUnit? [a, b, c, d] = some n ∧ n < 0x10000 := by
  unfold Json.hexUnit? at h
  obtain ⟨x, hx, h⟩ := Option.bind_eq_some_iff.1 h
  obtain ⟨y, hy, h⟩ := Option.bind_eq_some_iff.1 h
  obtain ⟨z, hz, h⟩ := Option.bind_eq_some_iff.1 h
  obtain ⟨w, hw, h⟩ := Option.bind_eq_some_iff.1 h
  have hn : (((x * 16 + y) * 16 + z) * 16 + w) = n := Option.some.inj h
  obtain ⟨hxmax, ha, hanot⟩ := of_hexValue? hx
  obtain ⟨hymax, hb, hbnot⟩ := of_hexValue? hy
  obtain ⟨hzmax, hc, hcnot⟩ := of_hexValue? hz
  obtain ⟨hwmax, hd, hdnot⟩ := of_hexValue? hw
  simp only [List.mem_cons, List.not_mem_nil, or_false, not_or] at hanot hbnot hcnot hdnot
  have hdigits : Escapes.digits? 0 [a, b, c, d] = some n := by
    rw [digits?_cons hx hbnot.2.1, digits?_cons hy hcnot.2.1, digits?_cons hz hdnot.2.1, digits?_last hw, ← hn]
    exact congrArg some (by omega)
  -- What the lexer lets stand beside the digits is not there: blanks, a sign, the mark of a hexadecimal number.
  have htrim : trimChars [a, b, c, d] = [a, b, c, d] := by
    simp [trimChars, dropBlanks, dropBlanksRight, ha, hd]
  have hunsigned : Escapes.unsigned? [a, b, c, d] = some n := by
    unfold Escapes.unsigned?
    split
    · next e r heq =>
      cases heq
      rw [if_neg (by simp [hbnot.2.2])]
      exact hdigits
    · exact hdigits
  refine ⟨?_, by omega⟩
  unfold Escapes.codeUnit?
  rw [htrim]
  split
  · next heq => exact absurd (List.cons.inj heq).1 hanot.1
  · exact hunsigned

/-- What the lexer reads is what the source stands for. -/
theorem unitsFrom_of_sourceUnits (h : sourceUnits s = some us) {fuel : Nat} (hf : s.length ≤ fuel)
    (stretch : List Nat) : ∃ ms, Escapes.unitsFrom (fuel + 1) stretch s = .ok (stretch.reverse ++ ms) ∧
      us = ms.flatMap codeUnits ∧ ∀ n ∈ ms, n < 0x110000 := by
  fun_induction sourceUnits s generalizing fuel stretch us with
  | case1 =>
    cases h
    refine ⟨[], ?_, rfl, List.forall_mem_nil _⟩
    rw [Escapes.unitsFrom, List.append_nil]
    exact Nat.succ_ne_zero fuel
  | case2 r hnone => exact nomatch h
  | case3 r n r' hr ih =>
    obtain ⟨us, hus, rfl⟩ := Option.map_eq_some_iff.1 h
    -- An escape ends the stretch, so that what follows begins with an empty one.
    obtain ⟨a, b, c, d, hdrop, hunit⟩ := hexEscape?_eq_some hr
    obtain ⟨hcode, hmax⟩ := codeUnit?_of_hexUnit? hunit
    have hshorter := length_of_hexEscape? hr
    rw [List.length_cons, List.length_cons] at hf
    obtain ⟨fuel, rfl⟩ : ∃ k, fuel = k + 1 := ⟨fuel - 1, by omega⟩
    obtain ⟨ms, hms, rfl, hall⟩ := ih hus (show r'.length ≤ fuel by omega) []
    refine ⟨n :: ms, ?_, ?_, List.forall_mem_cons.2 ⟨by omega, hall⟩⟩
    · have htake : (a :: b :: c :: d :: r').take 4 = [a, b, c, d] := rfl
      have hrest : (a :: b :: c :: d :: r').drop 4 = r' := rfl
      rw [Escapes.unitsFrom, hdrop]
      dsimp only
      rw [htake, hrest, hcode, hms]
      rfl
    · rw [List.flatMap_cons, codeUnits_of_lt hmax]
      rfl
  -- The other cases put characters onto the stretch: two with a backslash in front, and else one.
  | case4 c r hnot ih =>
    obtain ⟨us, hus, rfl⟩ := Option.map_eq_some_iff.1 h
    rw [List.length_cons, List.length_cons] at hf
    obtain ⟨fuel, rfl⟩ : ∃ k, fuel = k + 1 := ⟨fuel - 1, by omega⟩
    obtain ⟨ms, hms, rfl, hall⟩ := ih hus (show r.length ≤ fuel by omega) (c.toNat :: 92 :: stretch)
    refine ⟨92 :: c.toNat :: ms, ?_, rfl, ?_⟩
    · rw [Escapes.unitsFrom, hms]
      · simp
      · exact hnot
    · simp only [List.forall_mem_cons]
      exact ⟨by decide, char_lt_max c, hall⟩
  | case5 c r hopens hpair ih =>
    obtain ⟨us, hus, rfl⟩ := Option.map_eq_some_iff.1 h
    rw [List.length_cons] at hf
    obtain ⟨fuel, rfl⟩ : ∃ k, fuel = k + 1 := ⟨fuel - 1, by omega⟩
    obtain ⟨ms, hms, rfl, hall⟩ := ih hus (show r.length ≤ fuel by omega) (c.toNat :: stretch)
    refine ⟨c.toNat :: ms, ?_, rfl, List.forall_mem_cons.2 ⟨char_lt_max c, hall⟩⟩
    rw [Escapes.unitsFrom, hms]
    · simp
    · exact hopens
    · exact hpair

theorem lt_of_mem_sourceUnits (h : sourceUnits s = some us) : ∀ n ∈ us, n < 0x10000 := by
  obtain ⟨ms, -, rfl, hall⟩ := unitsFrom_of_sourceUnits h (Nat.le_refl _) []
  intro n hn
  obtain ⟨m, hm, hmem⟩ := List.mem_flatMap.1 hn
  exact lt_of_mem_codeUnits (hall m hm) hmem

theorem sourceUnits_plain {c : Char} (h : c ≠ '\\') (s : List Char) :
    sourceUnits (c :: s) = (sourceUnits s).map (codeUnits c.toNat ++ ·) := by
  rw [sourceUnits]
  · exact fun _ heq => absurd heq h
  · exact fun _ _ heq => absurd heq h

theorem sourceUnits_slash {c : Char} (h : c ≠ 'u') (s : List Char) :
    sourceUnits ('\\' :: c :: s) = (sourceUnits s).map (utf16 ['\\', c] ++ ·) := by
  have hpair : utf16 ['\\', c] = 92 :: codeUnits c.toNat := by
    rw [utf16, List.flatMap_cons, List.flatMap_singleton]
    rfl
  rw [sourceUnits, hpair]
  exact h

theorem sourceUnits_of_not_mem (h : '\\' ∉ s) : sourceUnits s = some (utf16 s) := by
  induction s with
  | nil =>
    rw [sourceUnits]
    rfl
  | cons c r ih =>
    rw [List.mem_cons, not_or] at h
    rw [sourceUnits_plain (Ne.symm h.1), ih h.2]
    rfl

theorem decode_of_sourceUnits (h : sourceUnits s = some us) : Escapes.decode s = .ok (Escapes.assemble us) := by
  unfold Escapes.decode
  split
  · obtain ⟨ms, hms, rfl, hall⟩ := unitsFrom_of_sourceUnits h (Nat.le_refl _) []
    rw [hms, assemble_flatMap hall]
    rfl
  · next hplain =>
    have hnone : '\\' ∉ s := fun hmem => hplain (List.contains_iff_mem.2 hmem)
    rw [sourceUnits_of_not_mem hnone] at h
    cases h
    rw [assemble_utf16]

end Source

end Scaffold.Java
