import Scaffold.Proofs.Java.Readers

/-! What no reader of the grammar does: it makes up no token, and it forgets no enum that was met. -/

namespace Scaffold.Java.Parser

variable {α β : Type}

/-- All tokens that a cursor can still lead to. -/
def Cursor.tokens (c : Cursor) : List Token := c.ahead ++ c.anchor

/-- A reader that ends among the tokens it was given and, unless it fails, keeps the enums met so far. -/
class Steady (p : Parse α) : Prop where
  tokens (c : Cursor) : (p c).2.tokens ⊆ c.tokens
  enums (c : Cursor) (a : α) : (p c).1 = .ok a → c.enums ⊆ (p c).2.enums

theorem Steady.tokens_bind {p : Parse α} {f : α → Parse β} [hp : Steady p]
    (hf : ∀ a c, Cursor.tokens (f a c).2 ⊆ c.tokens) (c : Cursor) : Cursor.tokens ((p >>= f) c).2 ⊆ c.tokens := by
  have htokens := hp.tokens c
  rw [bind_apply]
  rcases hx : p c with ⟨e | a, d⟩ <;> rw [hx] at htokens
  · exact htokens
  · exact List.Subset.trans (hf a d) htokens

section Rules

variable {p : Parse α}

instance : Steady (get : Parse Cursor) where
  tokens _ := List.Subset.refl _
  enums _ _ _ := List.Subset.refl _

instance : Steady (modify fun c => { c with anchor := c.ahead } : Parse Unit) where
  tokens _ := List.append_subset.2 ⟨List.subset_append_left _ _, List.subset_append_left _ _⟩
  enums _ _ _ := List.Subset.refl _

theorem Steady.pure (a : α) : Steady (pure a : Parse α) where
  tokens _ := List.Subset.refl _
  enums _ _ _ := List.Subset.refl _

theorem Steady.throw (e : Fault) : Steady (throw e : Parse α) where
  tokens _ := List.Subset.refl _
  enums _ _ h := nomatch h

theorem Steady.bind {f : α → Parse β} (hp : Steady p) (hf : ∀ a, Steady (f a)) : Steady (p >>= f) where
  tokens := Steady.tokens_bind fun a => (hf a).tokens
  enums c b hb := by
    have henums := hp.enums c
    rw [bind_apply] at hb ⊢
    rcases hx : p c with ⟨e | a, d⟩ <;> rw [hx] at henums hb
    · exact nomatch hb
    · exact List.Subset.trans (henums a rfl) ((hf a).enums d b hb)

theorem Steady.next : Steady next where
  tokens c := by
    rcases c with ⟨_ | ⟨t, r⟩, anchor, enums⟩
    · exact List.Subset.refl _
    · exact List.subset_cons_self t (r ++ anchor)
  enums c t h := by
    rcases c with ⟨_ | ⟨t, r⟩, anchor, enums⟩
    · exact nomatch h
    · exact List.Subset.refl _

theorem Steady.attempt (hp : Steady p) : Steady (attempt p) where
  tokens c := by
    have hstart : Cursor.tokens { c with anchor := c.ahead } ⊆ c.tokens :=
      List.append_subset.2 ⟨List.subset_append_left _ _, List.subset_append_left _ _⟩
    have htrial := List.Subset.trans (hp.tokens { c with anchor := c.ahead }) hstart
    unfold Parser.attempt
    rcases hx : p { c with anchor := c.ahead } with ⟨(_ | _ | _) | a, d⟩ <;> rw [hx] at htrial
    · -- A failed trial goes back to where an inner one began, which is the anchor that it left.
      have hback : d.anchor ⊆ c.tokens := List.Subset.trans (List.subset_append_right d.ahead d.anchor) htrial
      exact List.append_subset.2 ⟨hback, List.subset_append_right _ _⟩
    all_goals exact htrial
  enums c a h := by
    have henums := hp.enums { c with anchor := c.ahead }
    unfold Parser.attempt at h ⊢
    rcases hx : p { c with anchor := c.ahead } with ⟨(_ | _ | _) | b, d⟩ <;> rw [hx] at henums h
    · exact List.Subset.refl _
    · exact nomatch h
    · exact nomatch h
    · exact henums b rfl

theorem Steady.collectingEnums (hp : Steady p) : Steady (collectingEnums p) where
  tokens c := by
    have htokens := hp.tokens { c with enums := [] }
    rw [collectingEnums_apply]
    rcases hx : p { c with enums := [] } with ⟨e | a, d⟩ <;> rw [hx] at htokens <;> exact htokens
  enums c x h := by
    rw [collectingEnums_apply] at h ⊢
    rcases hx : p { c with enums := [] } with ⟨e | a, d⟩ <;> rw [hx] at h
    · exact nomatch h
    · exact List.subset_append_left c.enums d.enums

theorem Steady.noteEnum (name : String) : Steady (noteEnum name) where
  tokens _ := List.Subset.refl _
  enums c _ _ := List.subset_append_left c.enums [name]

theorem Steady.rethrow (hp : Steady p) (f : Fault → Fault) : Steady (tryCatch p fun e => MonadExcept.throw (f e)) where
  tokens c := by
    have htokens := hp.tokens c
    rw [tryCatch_apply]
    rcases hx : p c with ⟨e | a, d⟩ <;> rw [hx] at htokens <;> exact htokens
  enums c a h := by
    have henums := hp.enums c
    rw [tryCatch_apply] at h ⊢
    rcases hx : p c with ⟨e | b, d⟩ <;> rw [hx] at henums h
    · exact nomatch h
    · exact henums b rfl

end Rules

/-- A steady reader beside itself. -/
def Steadily (α : Type) (p q : Parse α) : Prop := p = q ∧ Steady p

instance : Respected Steadily where
  pure a := ⟨rfl, .pure a⟩
  throw e := ⟨rfl, .throw e⟩
  bind := by
    rintro α β p _ f f' ⟨rfl, hp⟩ hf
    obtain rfl : f = f' := funext fun a => (hf a).1
    exact ⟨rfl, hp.bind fun a => (hf a).2⟩
  peek := by
    intro α f f' h
    obtain rfl : f = f' := funext fun c => (h c c.anchor).1
    exact ⟨rfl, Steady.bind inferInstance fun c => (h c c.anchor).2⟩
  next := ⟨rfl, .next⟩
  attempt := by
    rintro α p _ ⟨rfl, hp⟩
    exact ⟨rfl, hp.attempt⟩
  rethrow := by
    rintro α p _ ⟨rfl, hp⟩
    exact ⟨rfl, hp.rethrow _⟩
  collectingEnums := by
    rintro α p _ ⟨rfl, hp⟩
    exact ⟨rfl, hp.collectingEnums⟩
  noteEnum name := ⟨rfl, .noteEnum name⟩

instance (p : Parse α) [h : Related Steadily p p] : Steady p := h.rel.2

instance (priority := low) (p : Parse α) [h : Steady p] : Related Steadily p p := ⟨rfl, h⟩

/-- Readers that are all steady. -/
class Grammar.Steady (g : Grammar) : Prop where
  path : Parser.Steady g.path
  annot : Parser.Steady g.annot
  elementValue : Parser.Steady g.elementValue
  expression : Parser.Steady g.expression
  conditional : Parser.Steady g.conditional
  operand : Parser.Steady g.operand
  arrayValue : Parser.Steady g.arrayValue
  block : Parser.Steady g.block
  statement : Parser.Steady g.statement
  classBody : Parser.Steady g.classBody
  declaration : Parser.Steady g.declaration

attribute [instance] Grammar.Steady.path Grammar.Steady.annot Grammar.Steady.elementValue Grammar.Steady.expression
  Grammar.Steady.conditional Grammar.Steady.operand Grammar.Steady.arrayValue Grammar.Steady.block
  Grammar.Steady.statement Grammar.Steady.classBody Grammar.Steady.declaration

instance (g : Grammar) [g.Steady] : Grammar.Related Steadily g g := by
  constructor <;> infer_instance

instance : Grammar.empty.Steady := by
  constructor <;> exact .throw .unexpected

instance (n : Nat) : (Grammar.ofDepth n).Steady := by
  have h : Grammar.Related Steadily (Grammar.over n Grammar.empty) (Grammar.over n Grammar.empty) := inferInstance
  rw [show Grammar.empty = Grammar.ofDepth 0 from rfl, Grammar.over_ofDepth, Nat.zero_add] at h
  constructor <;> infer_instance

end Scaffold.Java.Parser
