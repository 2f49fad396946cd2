import Scaffold.Proofs.Java.Identifiers
import Scaffold.Proofs.Java.Steady

/-! What readers find among tokens that the lexer makes, and which enums are met by then. -/

namespace Scaffold.Java.Parser

variable {α β : Type} {known es : List String} {Q : List String → α → Prop} {R : List String → β → Prop}

def Cursor.Formed (c : Cursor) : Prop := ∀ t ∈ c.tokens, t.Formed

theorem Cursor.Formed.after {c : Cursor} (h : c.Formed) (p : Parse α) [hp : Steady p] : Cursor.Formed (p c).2 :=
  fun t ht => h t (hp.tokens c ht)

/-- Where some enums are known, whatever the reader finds is as given, with the enums that are known then. -/
def Finds (known : List String) (p : Parse α) (Q : List String → α → Prop) : Prop :=
  ∀ c : Cursor, c.Formed → known ⊆ c.enums → ∀ a, (p c).1 = .ok a → Q (p c).2.enums a

namespace Finds

theorem weaken {p : Parse α} {Q' : List String → α → Prop} (h : Finds known p Q)
    (hQ : ∀ es a, known ⊆ es → Q es a → Q' es a) [hp : Steady p] : Finds known p Q' :=
  fun c hc hk a ha => hQ _ a (List.Subset.trans hk (hp.enums c a ha)) (h c hc hk a ha)

theorem of_known {p : Parse α} (h : Finds known p Q) (hk : known ⊆ es) : Finds es p Q :=
  fun c hc hes => h c hc (List.Subset.trans hk hes)

theorem pure {a : α} (h : ∀ es, known ⊆ es → Q es a) : Finds known (pure a) Q := by
  intro c _ hk b hb
  cases hb
  exact h c.enums hk

theorem throw (e : Fault) : Finds known (throw e : Parse α) Q := fun _ _ _ _ h => nomatch h

theorem fail : Finds known (fail : Parse α) Q := throw .unexpected

theorem bind {p : Parse α} {f : α → Parse β} [hp : Steady p] (h : Finds known p Q)
    (hf : ∀ es a, known ⊆ es → Q es a → Finds es (f a) R) : Finds known (p >>= f) R := by
  intro c hc hk b hb
  have hfound := h c hc hk
  have hformed := hc.after p
  have hes := hp.enums c
  rw [bind_apply] at hb ⊢
  rcases hx : p c with ⟨e | a, d⟩ <;> rw [hx] at hfound hformed hes hb
  · exact nomatch hb
  · exact hf d.enums a (List.Subset.trans hk (hes a rfl)) (hfound a rfl) d hformed (List.Subset.refl _) b hb

-- Most readers in front of a name or a body matter only in that they are steady.
theorem after {p : Parse α} {f : α → Parse β} [Steady p] (hf : ∀ a, Finds known (f a) R) : Finds known (p >>= f) R :=
  bind (Q := fun _ _ => True) (fun _ _ _ _ _ => trivial) fun _ a hk _ => (hf a).of_known hk

theorem ite {b : Prop} [Decidable b] {p q : Parse α} (hp : Finds known p Q) (hq : Finds known q Q) :
    Finds known (if b then p else q) Q := by
  by_cases hb : b
  · rwa [if_pos hb]
  · rwa [if_neg hb]

theorem identifier : Finds known identifier fun _ name => IsIdentifier name := by
  intro c hc _ name h
  rcases c with ⟨_ | ⟨t, r⟩, anchor, enums⟩
  · exact nomatch h
  · have hread : Parser.identifier ⟨t :: r, anchor, enums⟩ =
        (if t.kind == .identifier then Pure.pure t.text else Parser.fail : Parse String) ⟨r, anchor, enums⟩ := rfl
    by_cases hkind : t.kind = .identifier
    · rw [hread, if_pos (beq_iff_eq.2 hkind)] at h
      cases h
      exact hc t (List.mem_append_left _ List.mem_cons_self) hkind
    · rw [hread, if_neg fun hk => hkind (beq_iff_eq.1 hk)] at h
      exact nomatch h

theorem noteEnum (name : String) : Finds known (noteEnum name) fun es _ => name ∈ es := by
  intro c _ _ _ _
  exact List.mem_append_right _ (List.mem_singleton_self name)

section Repeated

-- What was found first must still hold when more enums have been met behind it.
variable (hQ : ∀ es es' a, es ⊆ es' → Q es a → Q es' a)

include hQ

theorem repeatFrom {p : Parse (Option α)} [Steady p] (hp : Finds [] p fun es o => ∀ a, o = some a → Q es a) (n : Nat) :
    Finds known (repeatFrom p n) fun es as => ∀ a ∈ as, Q es a := by
  induction n generalizing known with
  | zero => exact pure fun _ _ a ha => absurd ha List.not_mem_nil
  | succ n ih =>
    refine bind (hp.of_known (List.nil_subset known)) fun es found _ hfound => ?_
    cases found with
    | none => exact pure fun _ _ a ha => absurd ha List.not_mem_nil
    | some a =>
      refine bind ih fun es' as hes has => pure fun es'' hes' b hb => ?_
      rcases List.mem_cons.1 hb with rfl | hb
      · exact hQ es es'' b (List.Subset.trans hes hes') (hfound b rfl)
      · exact hQ es' es'' b hes' (has b hb)

theorem repeatWhile {p : Parse (Option α)} [Steady p] (hp : Finds [] p fun es o => ∀ a, o = some a → Q es a) :
    Finds known (repeatWhile p) fun es as => ∀ a ∈ as, Q es a :=
  after fun _ => repeatFrom hQ hp _

theorem upTo {closing : String} {p : Parse α} [Steady p] (hp : Finds [] p Q) :
    Finds known (upTo closing p) fun es as => ∀ a ∈ as, Q es a := by
  refine bind (repeatWhile hQ (after fun _ => ite (pure fun _ _ _ h => nomatch h) ?_))
    fun es as _ has => after fun _ => pure fun es' hes a ha => hQ es es' a hes (has a ha)
  refine bind hp fun es a _ ha => pure fun es' hes b hb => ?_
  cases hb
  exact hQ es es' a hes ha

theorem separated {separator : String} {p : Parse α} [Steady p] (hp : ∀ known, Finds known p Q) :
    Finds known (separated separator p) fun es as => as ≠ [] ∧ ∀ a ∈ as, Q es a := by
  refine bind (hp known) fun es first _ hfirst => bind (repeatWhile hQ (after fun _ => ite ?_ ?_))
    fun es' rest hes hrest => pure fun es'' hes' => ⟨List.cons_ne_nil first rest, fun a ha => ?_⟩
  · refine bind (hp []) fun es a _ ha => pure fun es' hes b hb => ?_
    cases hb
    exact hQ es es' a hes ha
  · exact pure fun _ _ _ h => nomatch h
  · rcases List.mem_cons.1 ha with rfl | ha
    · exact hQ es es'' a (List.Subset.trans hes hes') hfirst
    · exact hQ es' es'' a hes' (hrest a ha)

end Repeated

theorem qualifiedName : Finds known qualifiedName fun _ names => names ≠ [] ∧ ∀ name ∈ names, IsIdentifier name :=
  separated (fun _ _ _ _ h => h) fun _ => identifier

theorem rethrow {p : Parse α} (hp : Finds known p Q) (f : Fault → Fault) :
    Finds known (tryCatch p fun e => MonadExcept.throw (f e)) Q := by
  intro c hc hk a ha
  have hfound := hp c hc hk
  rw [tryCatch_apply] at ha ⊢
  rcases hx : p c with ⟨e | b, d⟩ <;> rw [hx] at hfound ha
  · exact nomatch ha
  · exact hfound a ha

theorem collectingEnums {p : Parse α} (hp : Finds [] p Q) :
    Finds known (collectingEnums p) fun es x => x.2 ⊆ es ∧ Q x.2 x.1 := by
  intro c hc _ x hx
  have hfound := hp { c with enums := [] } hc (List.nil_subset _)
  rw [collectingEnums_apply] at hx ⊢
  rcases hp : p { c with enums := [] } with ⟨e | a, d⟩ <;> rw [hp] at hfound hx
  · exact nomatch hx
  · cases hx
    exact ⟨List.subset_append_right _ _, hfound a rfl⟩

end Finds

end Scaffold.Java.Parser
