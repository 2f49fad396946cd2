import Scaffold.Java.Lexer

/-! Identifiers, and the tokens of a source that are some. An identifier has neither blanks nor dots in it. -/

namespace Scaffold.Java

open Scaffold.Text

/-- A text that can be a simple name. -/
structure IsIdentifier (s : String) : Prop where
  ne : s ≠ ""
  chars : ∀ c ∈ s.toList, inIdentifier c = true

section Characters

theorem not_inIdentifier_of_blank {c : Char} (h : isBlank c = true) : inIdentifier c = false :=
  eq_false_of_blank (by decide +kernel) h

theorem dot_not_inIdentifier : inIdentifier '.' = false := by
  decide

theorem inIdentifier_of_starts {c : Char} (h : startsIdentifier c = true) : inIdentifier c = true := by
  unfold inIdentifier
  rw [h, Bool.true_or, Bool.true_or]

theorem IsIdentifier.toList_ne_nil {s : String} (h : IsIdentifier s) : s.toList ≠ [] :=
  fun hnil => h.ne (String.toList_eq_nil_iff.1 hnil)

theorem IsIdentifier.not_mem {s : String} (h : IsIdentifier s) {c : Char} (hc : inIdentifier c = false) :
    c ∉ s.toList := by
  intro hmem
  have hin := h.chars c hmem
  rw [hc] at hin
  exact nomatch hin

theorem IsIdentifier.dot_not_mem {s : String} (h : IsIdentifier s) : '.' ∉ s.toList :=
  h.not_mem dot_not_inIdentifier

theorem IsIdentifier.not_blank {s : String} (h : IsIdentifier s) : ∀ c ∈ s.toList, isBlank c = false := by
  intro c hc
  cases hb : isBlank c with
  | false => rfl
  | true =>
    have hin := h.chars c hc
    rw [not_inIdentifier_of_blank hb] at hin
    exact nomatch hin

/-- The name of a package: not empty, and without blanks. -/
structure IsPackage (s : String) : Prop where
  ne : s ≠ ""
  not_blank : ∀ c ∈ s.toList, isBlank c = false

theorem isPackage_intercalate {names : List String} (hne : names ≠ []) (h : ∀ name ∈ names, IsIdentifier name) :
    IsPackage (".".intercalate names) := by
  refine ⟨fun hempty => ?_, fun c hc => ?_⟩
  · obtain ⟨first, rest, rfl⟩ := List.exists_cons_of_ne_nil hne
    have hfirst := (h first List.mem_cons_self).ne
    cases rest with
    | nil => exact hfirst (by rwa [String.intercalate_singleton] at hempty)
    | cons second rest =>
      rw [String.intercalate_cons_cons, String.append_eq_empty_iff, String.append_eq_empty_iff] at hempty
      exact hfirst hempty.1.1
  · rcases mem_of_mem_intercalate hc with hdot | ⟨name, hname, hc⟩
    · rw [List.mem_singleton.1 hdot]
      rfl
    · exact (h name hname).not_blank c hc

end Characters

/-- A token that is an identifier if it counts as one. -/
def Token.Formed (t : Token) : Prop := t.kind = .identifier → IsIdentifier t.text

theorem map_token_ne {kind : TokenKind} (hk : kind ≠ .identifier) {e : Except LexFault Nat} {n : Nat} :
    e.map (Piece.token kind) ≠ .ok (.token .identifier n) := by
  cases e with
  | error f => exact fun h => nomatch h
  | ok m =>
    intro h
    cases h
    exact hk rfl

theorem pieceAt_identifier {p : Place} {c : Char} {r : List Char} {n : Nat}
    (h : pieceAt p c r = .ok (.token .identifier n)) : IsIdentifier (String.ofList ((c :: r).take n)) := by
  -- All other pieces are gaps, faults or tokens of another kind; only words count as identifiers.
  unfold pieceAt at h
  split at h
  · exact nomatch h
  split at h
  · exact nomatch h
  split at h
  · split at h <;> exact nomatch h
  split at h
  · exact nomatch h
  split at h
  · exact nomatch h
  split at h
  · exact absurd h (map_token_ne (by decide))
  split at h
  · exact nomatch h
  split at h
  · split at h <;> exact nomatch h
  split at h
  · exact absurd h (map_token_ne (by decide))
  split at h
  · next hstart =>
    have hword : (c :: r.takeWhile inIdentifier) <+: c :: r := List.cons_prefix_cons.2 ⟨rfl, List.takeWhile_prefix _⟩
    have htake : (c :: r).take n = c :: r.takeWhile inIdentifier := by
      injection h with h
      injection h with _ hn
      rw [← hn]
      exact (List.prefix_iff_eq_take.1 hword).symm
    rw [htake]
    refine ⟨by simp, fun x hx => ?_⟩
    rw [String.toList_ofList] at hx
    rcases List.mem_cons.1 hx with rfl | hx
    · exact inIdentifier_of_starts hstart
    · exact List.all_eq_true.1 List.all_takeWhile x hx
  · split at h <;> exact nomatch h

theorem tokensFrom_formed {fuel : Nat} {p : Place} {tokens : List Token} (h : tokensFrom fuel p = .ok tokens) :
    ∀ t ∈ tokens, t.Formed := by
  induction fuel generalizing p tokens with
  | zero =>
    cases h
    exact fun _ ht => absurd ht List.not_mem_nil
  | succ fuel ih =>
    rw [tokensFrom] at h
    split at h
    · cases h
      exact fun _ ht => absurd ht List.not_mem_nil
    · next c r hahead =>
      cases hpiece : pieceAt p c r with
      | error f =>
        rw [hpiece] at h
        exact nomatch h
      | ok piece =>
        rw [hpiece] at h
        -- A gap leaves no token; a token is judged by the piece that it was taken from.
        cases piece with
        | gap n => exact ih h
        | token kind n =>
          change (do
            let rest ← tokensFrom fuel (p.pass (max n 1))
            return ({ kind, text := String.ofList (p.ahead.take n) } : Token) :: rest) = _ at h
          cases hrest : tokensFrom fuel (p.pass (max n 1)) with
          | error f =>
            rw [hrest] at h
            exact nomatch h
          | ok rest =>
            rw [hrest] at h
            cases h
            intro t ht
            rcases List.mem_cons.1 ht with rfl | ht
            · rintro rfl
              rw [hahead]
              exact pieceAt_identifier hpiece
            · exact ih hrest t ht

theorem tokens_formed {source : String} {ts : List Token} (h : tokens source = .ok ts) : ∀ t ∈ ts, t.Formed := by
  unfold tokens at h
  dsimp only at h
  split at h
  · exact nomatch h
  · exact tokensFrom_formed h

end Scaffold.Java
