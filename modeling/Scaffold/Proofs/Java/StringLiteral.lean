import Scaffold.Java.Literal
import Scaffold.Proofs.Java.CodeUnits
import Scaffold.Proofs.Java.Lexes

/-! String literals. What a literal denotes is told by the escapes of the language: first those of its source, then
those between its quotes. The lexer takes each literal that denotes something for one token, in whose text all escapes
between the quotes still stand. -/

namespace Scaffold.Java

open Scaffold.Text

/-- The escapes of one letter and what they stand for, in code units: `b`, `t`, `n`, `f`, `r`, the quotes and the
backslash. -/
def simpleEscapes : List (Nat × Nat) :=
  [(98, 8), (116, 9), (110, 10), (102, 12), (114, 13), (34, 34), (39, 39), (92, 92)]

def isOctalUnit (n : Nat) : Bool := 48 ≤ n && n ≤ 55

/-- The digits of an octal escape, as many as there can be: three where the first is at most three, two else. -/
def octalDigits (us : List Nat) : List Nat :=
  (us.take (if us.head?.any (· ≤ 51) then 3 else 2)).takeWhile isOctalUnit

def octalValue (digits : List Nat) : Nat := digits.foldl (fun n d => 8 * n + (d - 48)) 0

/-- What is escaped by a backslash, and the number of units it takes. -/
def escaped? (us : List Nat) : Option (Nat × Nat) :=
  match us with
  | [] => none
  | n :: _ =>
    match simpleEscapes.lookup n with
    | some m => some (m, 1)
    | none => if isOctalUnit n then some (octalValue (octalDigits us), (octalDigits us).length) else none

/-- What stands between the quotes of a literal, its escapes undone. Neither a quote nor the end of a line stands there
as it is. -/
def unescape : List Nat → Option (List Nat)
  | [] => some []
  | n :: r =>
    if n = 92 then
      match escaped? r with
      | some (m, k) => (unescape (r.drop k)).map (m :: ·)
      | none => none
    else if n = 34 ∨ n = 10 ∨ n = 13 then none
    else (unescape r).map (n :: ·)
termination_by us => us.length
decreasing_by
  · rw [List.length_drop, List.length_cons]
    omega
  · exact Nat.lt_succ_self _

/-- The code units that a string literal denotes. -/
def denoted? (literal : List Char) : Option (List Nat) :=
  match sourceUnits literal with
  | some (34 :: r) => if r.getLast? = some 34 then unescape r.dropLast else none
  | _ => none

/-- The characters that do not stand for themselves between the quotes. -/
def barred : List Char := ['"', '\\', '\n', '\r']

/-- Characters between the quotes of a literal, and what they denote: characters that stand for themselves, escaped
quotes, and other escapes. -/
inductive Inside : List Char → List Nat → Prop
  | nil : Inside [] []
  | plain {c : Char} {ns : List Nat} {t : List Char} {v : List Nat} (hc : c ∉ barred)
      (hlength : ns.length = (codeUnits c.toNat).length)
      (hread : Escapes.assemble (ns ++ v) = c :: Escapes.assemble v) (h : Inside t v) : Inside (c :: t) (ns ++ v)
  | quote {t : List Char} {v : List Nat} (h : Inside t v) : Inside ('\\' :: '"' :: t) (34 :: v)
  | escape {e : Char} {digits : List Char} {n : Nat} {t : List Char} {v : List Nat} (he : escapable e = true)
      (hquote : e ≠ '"') (hdigits : ∀ d ∈ digits, isOctalDigit d = true) (h : Inside t v) :
      Inside ('\\' :: e :: (digits ++ t)) (n :: v)

section Escapes

variable {us v : List Nat} {m n k : Nat}

theorem octalDigits_octal : ∀ d ∈ octalDigits us, isOctalUnit d = true := fun _ hd =>
  List.all_eq_true.1 List.all_takeWhile _ hd

theorem octalDigits_front (us : List Nat) : octalDigits us <+: us :=
  (List.takeWhile_prefix _).trans (List.take_prefix _ _)

theorem octalDigits_three {a b c : Nat} {ds : List Nat} (h : octalDigits us = a :: b :: c :: ds) :
    a ≤ 51 ∧ ds = [] := by
  have hfirst : us.head? = some a := by
    obtain ⟨rest, hrest⟩ := octalDigits_front us
    rw [← hrest, h, List.cons_append, List.head?_cons]
  have hlength : (octalDigits us).length ≤ if us.head?.any (· ≤ 51) then 3 else 2 :=
    Nat.le_trans (List.takeWhile_prefix _).length_le (List.length_take_le _ _)
  rw [h, hfirst, Option.any_some] at hlength
  simp only [List.length_cons, decide_eq_true_eq] at hlength
  split at hlength
  · next hsmall => exact ⟨hsmall, List.eq_nil_of_length_eq_zero (by omega)⟩
  · omega

theorem octalValue_lt (us : List Nat) : octalValue (octalDigits us) < 256 := by
  have hdigit : ∀ d ∈ octalDigits us, d - 48 < 8 := by
    intro d hd
    have hoctal := octalDigits_octal d hd
    unfold isOctalUnit at hoctal
    rw [Bool.and_eq_true, decide_eq_true_eq, decide_eq_true_eq] at hoctal
    omega
  unfold octalValue
  match hds : octalDigits us with
  | [] => decide
  | [a] =>
    rw [hds, List.forall_mem_singleton] at hdigit
    simp only [List.foldl_cons, List.foldl_nil]
    omega
  | [a, b] =>
    simp only [hds, List.forall_mem_cons] at hdigit
    simp only [List.foldl_cons, List.foldl_nil]
    omega
  -- Three digits are read only behind a first one of at most three, which bounds the value by 377 octal.
  | a :: b :: c :: ds =>
    obtain ⟨hsmall, rfl⟩ := octalDigits_three hds
    simp only [hds, List.forall_mem_cons] at hdigit
    simp only [List.foldl_cons, List.foldl_nil]
    omega

theorem octalDigits_cons (h : isOctalUnit n = true) (r : List Nat) : ∃ ds, octalDigits (n :: r) = n :: ds := by
  unfold octalDigits
  split <;> exact ⟨_, by rw [List.take_succ_cons, List.takeWhile_cons_of_pos h]⟩

/-- What is escaped is a letter with an escape of its own, or a run of octal digits. -/
theorem escaped?_eq_some (h : escaped? us = some (m, k)) : ∃ e ds, us = e :: (ds ++ us.drop k) ∧
    escapable (Char.ofNat e) = true ∧ e < 128 ∧ (∀ d ∈ ds, isOctalUnit d = true) ∧ m < 256 ∧
      (e = 34 → m = 34 ∧ ds = []) := by
  have hletters : ∀ entry ∈ simpleEscapes, escapable (Char.ofNat entry.1) = true ∧ entry.1 < 128 ∧ entry.2 < 256 ∧
      (entry.1 = 34 → entry.2 = 34) := by
    decide
  have hoctal : ∀ n ∈ List.range' 48 8, escapable (Char.ofNat n) = true := by decide
  -- First the letters with an escape of their own, then the runs of octal digits.
  unfold escaped? at h
  split at h
  · exact nomatch h
  · next n r =>
    split at h
    · next m' hm =>
      cases h
      obtain ⟨hescapable, hascii, hbyte, hquote⟩ := hletters _ (Entries.mem_of_lookup hm)
      exact ⟨n, [], rfl, hescapable, hascii, List.forall_mem_nil _, hbyte, fun heq => ⟨hquote heq, rfl⟩⟩
    · split at h
      · next hdigit =>
        cases h
        obtain ⟨ds, hds⟩ := octalDigits_cons hdigit r
        have hprefix := List.prefix_iff_eq_append.1 (octalDigits_front (n :: r))
        have hrange : 48 ≤ n ∧ n ≤ 55 := by simpa [isOctalUnit] using hdigit
        have hall : ∀ d ∈ octalDigits (n :: r), isOctalUnit d = true := octalDigits_octal
        refine ⟨n, ds, ?_, hoctal n (List.mem_range'_1.2 (by omega)), by omega, ?_, octalValue_lt _, by omega⟩
        · rw [hds] at hprefix ⊢
          exact hprefix.symm
        · rw [hds] at hall
          exact (List.forall_mem_cons.1 hall).2
      · exact nomatch h

theorem unescape_cons_of_plain (hslash : n ≠ 92) (hplain : ¬ (n = 34 ∨ n = 10 ∨ n = 13)) (r : List Nat) :
    unescape (n :: r) = (unescape r).map (n :: ·) := by
  rw [unescape, if_neg hslash, if_neg hplain]

theorem unescape_slash (r : List Nat) (h : escaped? r = some (m, k)) :
    unescape (92 :: r) = (unescape (r.drop k)).map (m :: ·) := by
  rw [unescape, if_pos rfl, h]

/-- A unit in front of what is to be undone: one that stands for itself, or a backslash with what it escapes. -/
theorem unescape_cons_eq_some (h : unescape (n :: us) = some v) :
    (n ≠ 34 ∧ n ≠ 92 ∧ n ≠ 10 ∧ n ≠ 13 ∧ ∃ v', unescape us = some v' ∧ v = n :: v') ∨
      n = 92 ∧ ∃ m k v', escaped? us = some (m, k) ∧ unescape (us.drop k) = some v' ∧ v = m :: v' := by
  rw [unescape] at h
  split at h
  · next hslash =>
    split at h
    · next m k hm =>
      obtain ⟨v', hv', rfl⟩ := Option.map_eq_some_iff.1 h
      exact .inr ⟨hslash, m, k, v', hm, hv', rfl⟩
    · exact nomatch h
  · next hslash =>
    split at h
    · exact nomatch h
    · next hplain =>
      obtain ⟨v', hv', rfl⟩ := Option.map_eq_some_iff.1 h
      simp only [not_or] at hplain
      exact .inl ⟨hplain.1, hslash, hplain.2.1, hplain.2.2, v', hv', rfl⟩

/-- What comes first is there as it is, or is escaped. -/
theorem head?_of_unescape (h : unescape us = some v) : ∀ m, v.head? = some m → us.head? = some m ∨ m < 256 := by
  intro m hm
  cases us with
  | nil =>
    rw [unescape] at h
    cases h
    exact nomatch hm
  | cons n r =>
    rcases unescape_cons_eq_some h with ⟨-, -, -, -, v', -, rfl⟩ | ⟨-, m', k, v', hescaped, -, rfl⟩
    · exact .inl hm
    · cases hm
      obtain ⟨e, ds, -, -, -, -, hbyte, -⟩ := escaped?_eq_some hescaped
      exact .inr hbyte

theorem not_special {c : Char} (h : c.toNat ≠ 34 ∧ c.toNat ≠ 92 ∧ c.toNat ≠ 10 ∧ c.toNat ≠ 13) :
    c ∉ barred := by
  intro hmem
  simp only [barred, List.mem_cons, List.not_mem_nil, or_false] at hmem
  rcases hmem with rfl | rfl | rfl | rfl <;> simp at h

theorem inside_pair {t : List Char} {c : Char} (h : Inside t v) (hpair : Json.joined? n m = some c) :
    Inside (c :: t) (n :: m :: v) := by
  obtain ⟨hhalves, hc⟩ := joined?_eq_some hpair
  have hnumber : c.toNat = 0x10000 + (n - 0xd800) * 0x400 + (m - 0xdc00) := by
    rw [hc]
    exact toNat_char (by omega) (by omega)
  have hplain : c ∉ barred := not_special (by omega)
  have hlength : [n, m].length = (codeUnits c.toNat).length := by
    have hhigh : ¬ c.toNat < 0x10000 := by omega
    simp only [codeUnits, hhigh, if_false, List.length_cons]
  exact Inside.plain hplain hlength (assemble_pair hpair) h

theorem inside_unit {t : List Char} (h : Inside t v) (hmax : n < 0x10000) (hquote : n ≠ 34) (hslash : n ≠ 92)
    (hfeed : n ≠ 10) (hreturn : n ≠ 13) (hnext : ∀ m, v.head? = some m → Json.joined? n m = none) :
    Inside (Json.ofUnit n :: t) (n :: v) := by
  have hnumber := toNat_ofUnit hmax
  have hplain : Json.ofUnit n ∉ barred := not_special (by omega)
  have hlength : [n].length = (codeUnits (Json.ofUnit n).toNat).length := by
    rw [codeUnits_of_lt (by omega)]
    rfl
  exact Inside.plain hplain hlength (assemble_cons hnext) h

/-- A backslash with what it escapes: a quote, or something else. -/
theorem inside_escape {r : List Nat} (hescaped : escaped? r = some (m, k))
    (h : Inside (Escapes.assemble (r.drop k)) v) : Inside (Escapes.assemble (92 :: r)) (m :: v) := by
  obtain ⟨e, ds, hr, hletter, hascii, hdigits, -, hquote⟩ := escaped?_eq_some hescaped
  have hrange : ∀ d ∈ ds, 48 ≤ d ∧ d ≤ 55 := fun d hd => by simpa [isOctalUnit] using hdigits d hd
  have hread : Escapes.assemble (92 :: r) =
      '\\' :: Char.ofNat e :: (ds.map Char.ofNat ++ Escapes.assemble (r.drop k)) := by
    have hsmall : ∀ d ∈ ds, d < 0xd800 := fun d hd => Nat.lt_of_le_of_lt (hrange d hd).2 (by decide)
    rw [assemble_plain (by decide), hr, assemble_plain (by omega), assemble_append_plain hsmall, ← hr]
  rw [hread]
  by_cases he : e = 34
  · obtain ⟨rfl, rfl⟩ := hquote he
    rw [he]
    exact .quote h
  · have hother : Char.ofNat e ≠ '"' := by
      intro heq
      have hnumber := congrArg Char.toNat heq
      rw [toNat_char (by omega) (by omega)] at hnumber
      exact he hnumber
    have hoctal : ∀ n ∈ List.range' 48 8, isOctalDigit (Char.ofNat n) = true := by decide
    refine .escape hletter hother (fun d hd => ?_) h
    obtain ⟨n, hn, rfl⟩ := List.mem_map.1 hd
    have hn := hrange n hn
    exact hoctal n (List.mem_range'_1.2 (by omega))

/-- What stands between the quotes, as the lexer reads it. The recursion is on the units left to undo, of which a pair
takes two. -/
theorem inside_of_unescape (us : List Nat) (hunits : ∀ n ∈ us, n < 0x10000) {v : List Nat}
    (h : unescape us = some v) : Inside (Escapes.assemble us) v := by
  match us with
  | [] =>
    rw [unescape] at h
    cases h
    exact .nil
  | n :: r =>
    rw [List.forall_mem_cons] at hunits
    rcases unescape_cons_eq_some h with ⟨hquote, hslash, hfeed, hreturn, v', hv', rfl⟩ |
      ⟨rfl, m, k, v', hescaped, hv', rfl⟩
    · -- A unit joins with the next one into a single character only where the two are halves of a surrogate pair.
      by_cases hpair : ∃ m, r.head? = some m ∧ ∃ c, Json.joined? n m = some c
      · obtain ⟨m, hm, c, hc⟩ := hpair
        obtain ⟨r, rfl⟩ := List.head?_eq_some_iff.1 hm
        obtain ⟨hhalves, -⟩ := joined?_eq_some hc
        rcases unescape_cons_eq_some hv' with ⟨-, -, -, -, v'', hv'', rfl⟩ | ⟨hslash, -⟩
        · rw [assemble_pair hc]
          exact inside_pair (inside_of_unescape r (List.forall_mem_cons.1 hunits.2).2 hv'') hc
        · omega
      · have hnone : ∀ m, r.head? = some m → Json.joined? n m = none := fun m hm =>
          Option.eq_none_iff_forall_ne_some.2 fun c hc => hpair ⟨m, hm, c, hc⟩
        -- Nor does it join with what is read next: that is the same next unit, or an escaped one, which is a byte.
        have hnext : ∀ m, v'.head? = some m → Json.joined? n m = none := fun m hm =>
          (head?_of_unescape hv' m hm).elim (hnone m) fun hbyte => joined?_eq_none (by omega)
        rw [assemble_cons hnone]
        exact inside_unit (inside_of_unescape r hunits.2 hv') hunits.1 hquote hslash hfeed hreturn hnext
    · have hrest : ∀ n ∈ r.drop k, n < 0x10000 := fun n hn => hunits.2 n (List.mem_of_mem_drop hn)
      exact inside_escape hescaped (inside_of_unescape (r.drop k) hrest hv')
termination_by us.length

end Escapes

section Carried

variable {t s : List Char} {v : List Nat} {c : Char}

/-- Every backslash stands directly in front of a quote. -/
def QuotesOnly (s : List Char) : Prop := ∀ a b, s = a ++ '\\' :: b → b.head? = some '"'

theorem quotesOnly_cons : QuotesOnly (c :: s) ↔ (c = '\\' → s.head? = some '"') ∧ QuotesOnly s := by
  constructor
  · intro h
    refine ⟨fun hc => h [] s (by rw [hc, List.nil_append]), fun a b hs => h (c :: a) b ?_⟩
    rw [hs, List.cons_append]
  · rintro ⟨hfirst, hrest⟩ a b hs
    rcases List.cons_eq_append_iff.1 hs with ⟨rfl, hb⟩ | ⟨a', rfl, hb⟩
    · cases hb
      exact hfirst rfl
    · exact hrest a' b hb

theorem quotesOnly_nil : QuotesOnly [] := fun _ _ h => absurd h (by simp)

instance decidableQuotesOnly : (s : List Char) → Decidable (QuotesOnly s)
  | [] => isTrue quotesOnly_nil
  | _ :: s =>
    have := decidableQuotesOnly s
    decidable_of_iff _ quotesOnly_cons.symm

theorem of_isOctalDigit (h : isOctalDigit c = true) : c ∉ barred := by
  have hrange : 48 ≤ c.toNat ∧ c.toNat ≤ 55 := by
    unfold isOctalDigit at h
    rw [Bool.and_eq_true, decide_eq_true_eq, decide_eq_true_eq] at h
    exact h
  exact not_special (by omega)

theorem Inside.head?_ne_quote (h : Inside t v) : t.head? ≠ some '"' := by
  cases h with
  | nil => exact nofun
  | plain hc => exact fun heq => hc (Option.some.inj heq ▸ List.mem_cons_self)
  | quote | escape => exact fun heq => absurd (Option.some.inj heq) (by decide)

theorem Inside.no_break (h : Inside t v) : ∀ c ∈ t, c ≠ '\n' ∧ c ≠ '\r' := by
  have hplain {c : Char} (hc : c ∉ barred) : c ≠ '\n' ∧ c ≠ '\r' :=
    ⟨fun heq => hc (heq ▸ by decide), fun heq => hc (heq ▸ by decide)⟩
  induction h with
  | nil => exact List.forall_mem_nil _
  | plain hc hlength hread h ih => exact List.forall_mem_cons.2 ⟨hplain hc, ih⟩
  | quote h ih =>
    simp only [List.forall_mem_cons]
    exact ⟨by decide, by decide, ih⟩
  | escape he hquote hdigits h ih =>
    have hletter {e : Char} (he : escapable e = true) : e ≠ '\n' ∧ e ≠ '\r' :=
      ⟨fun heq => absurd he (heq ▸ by decide), fun heq => absurd he (heq ▸ by decide)⟩
    simp only [List.forall_mem_cons, List.forall_mem_append]
    exact ⟨by decide, hletter he, fun d hd => hplain (of_isOctalDigit (hdigits d hd)), ih⟩

theorem ne_of_not_barred (h : c ∉ barred) : c ≠ '\\' ∧ c ≠ '"' :=
  ⟨fun heq => h (heq ▸ by decide), fun heq => h (heq ▸ by decide)⟩

theorem literalEnd_plain (h : c ∉ barred) (n : Nat) (r : List Char) :
    literalEnd '"' n (c :: r) = literalEnd '"' (n + 1) r := by
  obtain ⟨hslash, hquote⟩ := ne_of_not_barred h
  rw [literalEnd, if_neg]
  · simpa using hquote
  · exact fun heq => absurd heq hslash
  · exact fun _ _ heq => absurd heq hslash

theorem literalEnd_octal {digits : List Char} (h : ∀ d ∈ digits, isOctalDigit d = true) (n : Nat) (r : List Char) :
    literalEnd '"' n (digits ++ r) = literalEnd '"' (n + digits.length) r := by
  induction digits generalizing n with
  | nil => rfl
  | cons d ds ih =>
    rw [List.forall_mem_cons] at h
    rw [List.cons_append, literalEnd_plain (of_isOctalDigit h.1), ih h.2, List.length_cons, Nat.add_right_comm,
      Nat.add_assoc]

/-- The lexer finds the quote at the end. -/
theorem Inside.literalEnd_closed (h : Inside t v) (n : Nat) (rest : List Char) :
    literalEnd '"' n (t ++ '"' :: rest) = .closed (n + t.length + 1) := by
  induction h generalizing n with
  | nil =>
    rw [List.nil_append, literalEnd, if_pos (beq_self_eq_true '"')]
    · rfl
    · exact fun heq => absurd heq (by decide)
    · exact fun _ _ heq => absurd heq (by decide)
  | plain hc hlength hread h ih =>
    rw [List.cons_append, literalEnd_plain hc, ih, List.length_cons]
    exact congrArg LiteralEnd.closed (by omega)
  | quote h ih =>
    rw [List.cons_append, List.cons_append, literalEnd, if_pos (by decide), ih, List.length_cons, List.length_cons]
    exact congrArg LiteralEnd.closed (by omega)
  | escape he hquote hdigits h ih =>
    rw [List.cons_append, List.cons_append, List.append_assoc, literalEnd, if_pos he, literalEnd_octal hdigits, ih]
    simp only [List.length_cons, List.length_append]
    exact congrArg LiteralEnd.closed (by omega)

theorem unescapeQuotes_cons (h : c = '\\' → s.head? ≠ some '"') : unescapeQuotes (c :: s) = c :: unescapeQuotes s := by
  rw [unescapeQuotes]
  intro r hc hs
  exact h hc (by rw [hs, List.head?_cons])

theorem mem_of_mem_unescapeQuotes {c : Char} {s : List Char} (h : c ∈ unescapeQuotes s) : c ∈ s := by
  fun_induction unescapeQuotes s with
  | case1 => exact h
  | case2 s ih =>
    rcases List.mem_cons.1 h with rfl | h
    · exact List.mem_cons_of_mem _ List.mem_cons_self
    · exact List.mem_cons_of_mem _ (List.mem_cons_of_mem _ (ih h))
  | case3 d s _ ih =>
    rcases List.mem_cons.1 h with rfl | h
    · exact List.mem_cons_self
    · exact List.mem_cons_of_mem _ (ih h)

theorem unescapeQuotes_octal {digits : List Char} (h : ∀ d ∈ digits, isOctalDigit d = true) :
    unescapeQuotes (digits ++ s) = digits ++ unescapeQuotes s := by
  induction digits with
  | nil => rfl
  | cons d ds ih =>
    rw [List.forall_mem_cons] at h
    have hslash := (ne_of_not_barred (of_isOctalDigit h.1)).1
    rw [List.cons_append, unescapeQuotes_cons fun heq => absurd heq hslash, ih h.2]
    rfl

theorem Inside.unescapeQuotes_escape (h : Inside t v) {e : Char} {digits : List Char} (hquote : e ≠ '"')
    (hdigits : ∀ d ∈ digits, isOctalDigit d = true) :
    unescapeQuotes ('\\' :: e :: (digits ++ t)) = '\\' :: e :: (digits ++ unescapeQuotes t) := by
  have hnext : (digits ++ t).head? ≠ some '"' := by
    cases digits with
    | nil => exact h.head?_ne_quote
    | cons d ds =>
      have hd := (ne_of_not_barred (of_isOctalDigit (hdigits d List.mem_cons_self))).2
      exact fun heq => hd (Option.some.inj heq)
  have hletter : (e :: (digits ++ t)).head? ≠ some '"' := fun heq => hquote (Option.some.inj heq)
  rw [unescapeQuotes_cons fun _ => hletter, unescapeQuotes_cons fun _ => hnext, unescapeQuotes_octal hdigits]

/-- Only escaped quotes are undone on the way, so that with nothing else escaped the rest is there as denoted. -/
theorem Inside.unescapeQuotes_eq (h : Inside t v) (hquotes : QuotesOnly (t ++ ['"'])) :
    unescapeQuotes t = Escapes.assemble v := by
  induction h with
  | nil => rfl
  | plain hc hlength hread h ih =>
    rw [List.cons_append, quotesOnly_cons] at hquotes
    rw [unescapeQuotes_cons fun heq => absurd heq (ne_of_not_barred hc).1, ih hquotes.2, hread]
  | quote h ih =>
    rw [List.cons_append, List.cons_append, quotesOnly_cons, quotesOnly_cons] at hquotes
    rw [unescapeQuotes, ih hquotes.2.2, assemble_plain (by decide)]
  | escape he hquote hdigits h ih =>
    rw [List.cons_append, List.cons_append, quotesOnly_cons] at hquotes
    exact absurd (Option.some.inj (hquotes.1 rfl)) hquote

/-- Any other escape is longer than what it denotes. -/
theorem Inside.length_le (h : Inside t v) : v.length ≤ (utf16 (unescapeQuotes t)).length ∧
    (v.length = (utf16 (unescapeQuotes t)).length → QuotesOnly (t ++ ['"'])) := by
  induction h with
  | nil => exact ⟨Nat.le_refl _, fun _ => quotesOnly_cons.2 ⟨fun heq => absurd heq (by decide), quotesOnly_nil⟩⟩
  | plain hc hlength hread h ih =>
    have hslash := (ne_of_not_barred hc).1
    rw [unescapeQuotes_cons fun heq => absurd heq hslash, length_utf16_cons, List.length_append, hlength]
    refine ⟨by omega, fun heq => ?_⟩
    rw [List.cons_append, quotesOnly_cons]
    exact ⟨fun heq => absurd heq hslash, ih.2 (by omega)⟩
  | quote h ih =>
    have hone : (codeUnits '"'.toNat).length = 1 := rfl
    rw [unescapeQuotes, length_utf16_cons, List.length_cons, hone]
    refine ⟨by omega, fun heq => ?_⟩
    rw [List.cons_append, List.cons_append, quotesOnly_cons, quotesOnly_cons]
    exact ⟨fun _ => rfl, fun heq => absurd heq (by decide), ih.2 (by omega)⟩
  -- The other escapes lose at least the backslash, so the lengths differ and the second part is void.
  | @escape e digits m t v he hquote hdigits h ih =>
    have hslash := length_codeUnits_pos '\\'.toNat
    have hletter := length_codeUnits_pos e.toNat
    rw [h.unescapeQuotes_escape hquote hdigits, length_utf16_cons, length_utf16_cons, length_utf16_append,
      List.length_cons]
    exact ⟨by omega, by omega⟩

end Carried

section Token

variable {t l : List Char} {us v : List Nat}

/-- A literal begins and ends with a quote; between them stands what denotes its text. -/
theorem denoted?_eq_some (h : denoted? l = some us) :
    ∃ inner, sourceUnits l = some (34 :: (inner ++ [34])) ∧ unescape inner = some us := by
  unfold denoted? at h
  split at h
  · next r hr =>
    split at h
    · next hlast => exact ⟨r.dropLast, by rw [hr, List.dropLast_append_getLast? 34 hlast], h⟩
    · exact nomatch h
  · exact nomatch h

theorem denoted?_of_sourceUnits {inner : List Nat} (h : sourceUnits l = some (34 :: (inner ++ [34]))) :
    denoted? l = unescape inner := by
  unfold denoted?
  rw [h]
  exact (if_pos List.getLast?_concat).trans (congrArg unescape List.dropLast_concat)

theorem pieceAt_quote (p : Place) {r : List Char} {n : Nat} (h : literalEnd '"' 1 r = .closed n) :
    pieceAt p '"' r = .ok (.token .literal n) := by
  have hdots : (after? "...".toList ('"' :: r)).isSome = false := rfl
  unfold pieceAt
  rw [if_neg (by decide), if_neg (by simp), if_neg (by simp), if_neg (by rw [hdots]; decide), if_neg (by decide),
    if_neg (by simp), if_neg (by decide), if_pos (by decide), h]

theorem Inside.lexes (h : Inside t v) {rest : List Char} {ts : List Token} (hrest : Lexes rest ts) :
    Lexes ('"' :: (t ++ '"' :: rest)) (⟨.literal, String.ofList ('"' :: (t ++ ['"']))⟩ :: ts) := by
  have hpiece := pieceAt_quote (Place.start ('"' :: (t ++ '"' :: rest))) (h.literalEnd_closed 1 rest)
  have hlength : (t ++ ['"']).length = 1 + t.length := by rw [List.length_append, List.length_singleton, Nat.add_comm]
  have hparts : t ++ '"' :: rest = t ++ ['"'] ++ rest := List.append_cons t '"' rest
  have hdrop : (t ++ '"' :: rest).drop (1 + t.length) = rest := by rw [hparts, List.drop_left' hlength]
  have htake : (t ++ '"' :: rest).take (1 + t.length) = t ++ ['"'] := by rw [hparts, List.take_left' hlength]
  have htoken := Lexes.token hpiece (hdrop.symm ▸ hrest)
  rwa [htake] at htoken

theorem tokens_of_denoted? (h : denoted? l = some us) :
    ∃ t, Inside t us ∧ tokens (String.ofList l) = .ok [⟨.literal, String.ofList ('"' :: (t ++ ['"']))⟩] := by
  obtain ⟨inner, hsource, hinner⟩ := denoted?_eq_some h
  have hunits : ∀ n ∈ inner, n < 0x10000 := fun n hn =>
    lt_of_mem_sourceUnits hsource n (List.mem_cons_of_mem _ (List.mem_append_left _ hn))
  have hinside := inside_of_unescape inner hunits hinner
  have hdecode : Escapes.decode l = .ok ('"' :: (Escapes.assemble inner ++ ['"'])) := by
    rw [decode_of_sourceUnits hsource, assemble_plain (by decide), assemble_append (by decide)]
    rfl
  refine ⟨_, hinside, ?_⟩
  have hnil : Lexes [] [] := rfl
  unfold tokens
  dsimp only
  rw [String.toList_ofList, hdecode]
  exact hinside.lexes hnil

example : denoted? "\"\\u0041\\101\\n\"".toList = some [65, 65, 10] := by decide +kernel

theorem literalText_quoted (t : List Char) :
    literalText (String.ofList ('"' :: (t ++ ['"']))) = String.ofList (unescapeQuotes t) := by
  unfold literalText
  rw [String.toList_ofList]
  split
  · next c r heq =>
    have htail : t ++ ['"'] = c :: r := (List.cons.inj heq).2
    rw [← htail, List.getLast?_concat, if_pos (beq_self_eq_true _), List.dropLast_concat]
  · next hnone =>
    cases hcs : t ++ ['"'] with
    | nil => exact absurd hcs (List.append_ne_nil_of_right_ne_nil t (List.cons_ne_nil _ _))
    | cons c r => exact absurd (congrArg _ hcs) (hnone c r)

end Token

end Scaffold.Java
