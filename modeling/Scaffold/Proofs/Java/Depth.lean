import Scaffold.Proofs.Java.Readers

/-! How deep a grammar reaches does not matter to a reading that ends before it is out of depth, and neither does the
place where the trial around it began. -/

namespace Scaffold.Java.Parser

variable {α β : Type}

/-- A cursor that differs from another one at most in where the trial began, and not even there if `P` holds. -/
structure Shifted (P : Prop) (c d : Cursor) : Prop where
  ahead : d.ahead = c.ahead
  enums : d.enums = c.enums
  anchor : P → d.anchor = c.anchor

/-- The first reader is out of depth, which it shows by a fault that no trial catches, or both end the same. -/
def Deeper (α : Type) (p q : Parse α) : Prop :=
  ∀ (P : Prop) (c d : Cursor), Shifted P c d →
    (p c).1 = .error .cutInExpression ∨ ((q d).1 = (p c).1 ∧ Shifted P (p c).2 (q d).2)

namespace Deeper

variable {p q : Parse α}

theorem bind {f f' : α → Parse β} (h : Deeper α p q) (hf : ∀ a, Deeper β (f a) (f' a)) :
    Deeper β (p >>= f) (q >>= f') := by
  intro P c d hcd
  have hfirst := h P c d hcd
  rw [bind_apply, bind_apply]
  rcases hp : p c with ⟨x, c'⟩
  rcases hq : q d with ⟨y, d'⟩
  rw [hp, hq] at hfirst
  rcases hfirst with hcut | ⟨hsame, hshift⟩
  · cases hcut
    exact .inl rfl
  · cases hsame
    cases x with
    | error e => exact .inr ⟨rfl, hshift⟩
    | ok a => exact hf a P c' d' hshift

theorem attempt (h : Deeper α p q) : Deeper (Option α) (attempt p) (attempt q) := by
  intro P c d hcd
  -- Inside of the trial both cursors know the place where it began.
  have htrial := h True { c with anchor := c.ahead } { d with anchor := d.ahead }
    ⟨hcd.ahead, hcd.enums, fun _ => hcd.ahead⟩
  unfold Parser.attempt
  rcases hp : p { c with anchor := c.ahead } with ⟨x, c'⟩
  rcases hq : q { d with anchor := d.ahead } with ⟨y, d'⟩
  rw [hp, hq] at htrial
  rcases htrial with hcut | ⟨hsame, hshift⟩
  · cases hcut
    exact .inl rfl
  · cases hsame
    have hanchor : d'.anchor = c'.anchor := hshift.anchor trivial
    rcases x with (_ | _ | _) | a
    · exact .inr ⟨rfl, hanchor, hcd.enums, hcd.anchor⟩
    all_goals exact .inr ⟨rfl, hshift.ahead, hshift.enums, fun _ => hanchor⟩

theorem rethrow (h : Deeper α p q) :
    Deeper α (tryCatch p fun e => MonadExcept.throw (if e = .cutShort then .unexpected else e))
      (tryCatch q fun e => MonadExcept.throw (if e = .cutShort then .unexpected else e)) := by
  intro P c d hcd
  have hfirst := h P c d hcd
  rw [tryCatch_apply, tryCatch_apply]
  rcases hp : p c with ⟨x, c'⟩
  rcases hq : q d with ⟨y, d'⟩
  rw [hp, hq] at hfirst
  rcases hfirst with hcut | ⟨hsame, hshift⟩
  · cases hcut
    exact .inl rfl
  · cases hsame
    cases x with
    | error e => exact .inr ⟨rfl, hshift⟩
    | ok a => exact .inr ⟨rfl, hshift⟩

theorem collectingEnums (h : Deeper α p q) :
    Deeper (α × List String) (collectingEnums p) (collectingEnums q) := by
  intro P c d hcd
  have hfirst := h P { c with enums := [] } { d with enums := [] } ⟨hcd.ahead, rfl, hcd.anchor⟩
  rw [collectingEnums_apply, collectingEnums_apply]
  rcases hp : p { c with enums := [] } with ⟨x, c'⟩
  rcases hq : q { d with enums := [] } with ⟨y, d'⟩
  rw [hp, hq] at hfirst
  rcases hfirst with hcut | ⟨hsame, hahead, henums, hanchor⟩
  · cases hcut
    exact .inl rfl
  · cases hsame
    cases x with
    | error e => exact .inr ⟨rfl, hahead, henums, hanchor⟩
    | ok a =>
      dsimp only at henums ⊢
      rw [henums, hcd.enums]
      exact .inr ⟨rfl, hahead, rfl, hanchor⟩

end Deeper

instance : Respected Deeper where
  pure _ := fun _ _ _ h => .inr ⟨rfl, h⟩
  throw _ := fun _ _ _ h => .inr ⟨rfl, h⟩
  bind := Deeper.bind
  peek := by
    intro α f f' h P c d hcd
    have hd : d = { c with anchor := d.anchor } := by
      rw [← hcd.ahead, ← hcd.enums]
    have hread := h c d.anchor P c d hcd
    rw [← hd] at hread
    exact hread
  next := by
    intro P c d hcd
    obtain ⟨ahead, anchor, enums⟩ := d
    obtain ⟨rfl, rfl, hanchor⟩ := hcd
    rcases c with ⟨_ | ⟨t, r⟩, _, _⟩
    · exact .inr ⟨rfl, rfl, rfl, hanchor⟩
    · exact .inr ⟨rfl, rfl, rfl, hanchor⟩
  attempt := Deeper.attempt
  rethrow := Deeper.rethrow
  collectingEnums := Deeper.collectingEnums
  noteEnum name := fun _ _ _ h => .inr ⟨rfl, h.ahead, congrArg (· ++ [name]) h.enums, h.anchor⟩

/-- The grammar that is out of depth at every symbol. -/
def Grammar.dry : Grammar where
  path := throw .cutInExpression
  annot := throw .cutInExpression
  elementValue := throw .cutInExpression
  expression := throw .cutInExpression
  conditional := throw .cutInExpression
  operand := throw .cutInExpression
  arrayValue := throw .cutInExpression
  block := throw .cutInExpression
  statement := throw .cutInExpression
  classBody := throw .cutInExpression
  declaration := throw .cutInExpression

instance (g : Grammar) : Grammar.Related Deeper Grammar.dry g := by
  constructor <;> exact ⟨fun _ _ _ _ => .inl rfl⟩

/-- Types that are read at some depth without getting out of it are read at every greater depth, wherever the trial
around them began. -/
theorem types_of_dry {k n : Nat} {ts anchor anchor' : List Token} {ds : List Decl}
    (h : ((Grammar.over k Grammar.dry).types ⟨ts, anchor, []⟩).1 = .ok ds) :
    ((Grammar.ofDepth (n + k)).types ⟨ts, anchor', []⟩).1 = .ok ds := by
  have hdeeper : Related Deeper (Grammar.over k Grammar.dry).types (Grammar.over k (Grammar.ofDepth n)).types :=
    inferInstance
  rw [Grammar.over_ofDepth] at hdeeper
  rcases hdeeper.rel False ⟨ts, anchor, []⟩ ⟨ts, anchor', []⟩ ⟨rfl, rfl, False.elim⟩ with hcut | ⟨hsame, -⟩
  · rw [hcut] at h
    exact nomatch h
  · rw [hsame, h]

end Scaffold.Java.Parser
