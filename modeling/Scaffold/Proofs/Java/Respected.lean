import Scaffold.Java.Parser

/-! Readers of two grammars that do the same, in a sense that is kept when readers are put together. Such a relation
is given by its rules, one for each way to put readers together; every reader of the grammar then respects it. -/

namespace Scaffold.Java.Parser

variable {α β : Type}

theorem bind_apply (p : Parse α) (f : α → Parse β) (c : Cursor) :
    (p >>= f) c = match p c with
      | (.ok a, d) => f a d
      | (.error e, d) => (.error e, d) := by
  change (StateT.bind p (ExceptT.bindCont f)) c = _
  unfold StateT.bind
  rcases p c with ⟨_ | a, d⟩ <;> rfl

theorem collectingEnums_apply (p : Parse α) (c : Cursor) :
    collectingEnums p c = match p { c with enums := [] } with
      | (.ok a, d) => (.ok (a, d.enums), { d with enums := c.enums ++ d.enums })
      | (.error e, d) => (.error e, d) := by
  change (do
    let a ← p
    let inner := (← get).enums
    modify fun d => { d with enums := c.enums ++ inner }
    return (a, inner) : Parse (α × List String)) { c with enums := [] } = _
  rw [bind_apply]
  rcases p { c with enums := [] } with ⟨_ | a, d⟩ <;> rfl

theorem tryCatch_apply (p : Parse α) (h : Fault → Parse α) (c : Cursor) :
    (tryCatch p h) c = match p c with
      | (.ok a, d) => (.ok a, d)
      | (.error e, d) => h e d := by
  simp only [tryCatch, tryCatchThe, MonadExceptOf.tryCatch, ExceptT.tryCatch, ExceptT.mk, bind, StateT.bind]
  rcases p c with ⟨_ | a, d⟩ <;> rfl

/-- A relation between readers that is kept when readers are put together. What a reader does must not depend on
where the trial around it began. -/
class Respected (R : ∀ α : Type, Parse α → Parse α → Prop) : Prop where
  pure {α : Type} (a : α) : R α (pure a) (pure a)
  throw {α : Type} (e : Fault) : R α (throw e) (throw e)
  bind {α β : Type} {p q : Parse α} {f f' : α → Parse β} (h : R α p q) (hf : ∀ a, R β (f a) (f' a)) :
    R β (p >>= f) (q >>= f')
  peek {α : Type} {f f' : Cursor → Parse α} (h : ∀ c anchor, R α (f c) (f' { c with anchor })) :
    R α (get >>= f) (get >>= f')
  next : R Token next next
  attempt {α : Type} {p q : Parse α} (h : R α p q) : R (Option α) (attempt p) (attempt q)
  rethrow {α : Type} {p q : Parse α} (h : R α p q) :
    R α (tryCatch p fun e => MonadExcept.throw (if e = .cutShort then .unexpected else e))
      (tryCatch q fun e => MonadExcept.throw (if e = .cutShort then .unexpected else e))
  collectingEnums {α : Type} {p q : Parse α} (h : R α p q) :
    R (α × List String) (collectingEnums p) (collectingEnums q)
  noteEnum (name : String) : R Unit (noteEnum name) (noteEnum name)

/-- Two readers that are related, found by their shape. -/
class Related (R : ∀ α : Type, Parse α → Parse α → Prop) (p q : Parse α) : Prop where
  rel : R α p q

section Rules

variable (R : ∀ α : Type, Parse α → Parse α → Prop) [hR : Respected R]

instance (a : α) : Related R (pure a) (pure a) := ⟨hR.pure a⟩

instance (e : Fault) : Related (α := α) R (throw e) (throw e) := ⟨hR.throw e⟩

instance (p q : Parse α) (f f' : α → Parse β) [h : Related R p q] [hf : ∀ a, Related R (f a) (f' a)] :
    Related R (p >>= f) (q >>= f') := ⟨hR.bind h.rel fun a => (hf a).rel⟩

instance (priority := high) (f f' : Cursor → Parse α) [h : ∀ c anchor, Related R (f c) (f' { c with anchor })] :
    Related R (get >>= f) (get >>= f') := ⟨hR.peek fun c anchor => (h c anchor).rel⟩

-- The next two rules take apart what was found before they judge what comes after it.
instance (priority := low) (p q : Parse (Option α)) (f f' : Option α → Parse β) [Related R p q]
    [hnone : Related R (f none) (f' none)] [hsome : ∀ a, Related R (f (some a)) (f' (some a))] :
    Related R (p >>= f) (q >>= f') :=
  have hf : ∀ found, Related R (f found) (f' found) := fun found => by cases found <;> infer_instance
  inferInstance

instance (priority := low) {γ : Type} (p q : Parse (α × γ)) (f f' : α × γ → Parse β) [Related R p q]
    [hf : ∀ a b, Related R (f (a, b)) (f' (a, b))] : Related R (p >>= f) (q >>= f') :=
  have : ∀ x, Related R (f x) (f' x) := fun (a, b) => hf a b
  inferInstance

instance (b : Prop) [Decidable b] (p q p' q' : Parse α) [hp : Related R p p'] [hq : Related R q q'] :
    Related R (if b then p else q) (if b then p' else q') := by
  by_cases hb : b
  · rwa [if_pos hb, if_pos hb]
  · rwa [if_neg hb, if_neg hb]

-- The branches do not depend on the answer. Without this rule they would be judged for every answer, and the
-- instances for a chain of choices would double with each of them.
instance (b b' : Parse Bool) (f : Bool → Bool) (p q p' q' : Parse α) [Related R b b'] [Related R p p']
    [Related R q q'] :
    Related R (b >>= fun x => if f x = true then p else q) (b' >>= fun x => if f x = true then p' else q') :=
  inferInstance

instance : Related (α := α) R fail fail := ⟨hR.throw .unexpected⟩

instance : Related R next next := ⟨hR.next⟩

instance (p q : Parse α) [h : Related R p q] : Related R (attempt p) (attempt q) := ⟨hR.attempt h.rel⟩

instance (p q : Parse α) [h : Related R p q] : Related R (collectingEnums p) (collectingEnums q) :=
  ⟨hR.collectingEnums h.rel⟩

instance (p q : Parse α) [h : Related R p q] :
    Related R (tryCatch p fun e => throw (if e = .cutShort then .unexpected else e))
      (tryCatch q fun e => throw (if e = .cutShort then .unexpected else e)) := ⟨hR.rethrow h.rel⟩

instance (name : String) : Related R (noteEnum name) (noteEnum name) := ⟨hR.noteEnum name⟩

instance (p q : Parse (Option α)) [h : Related R p q] (n : Nat) : Related R (repeatFrom p n) (repeatFrom q n) := by
  induction n with
  | zero => exact inferInstanceAs (Related R (pure []) (pure []))
  | succ n ih =>
    unfold repeatFrom
    infer_instance

end Rules

section Tokens

variable (R : ∀ α : Type, Parse α → Parse α → Prop) [hR : Respected R]
variable (text first second separator closing : String) (texts : List String) (kind : TokenKind) (i : Nat)

instance : Related R (look i) (look i) := by unfold look; infer_instance
instance : Related R (sees text i) (sees text i) := by unfold sees; infer_instance
instance : Related R (seesAny texts) (seesAny texts) := by unfold seesAny; infer_instance
instance : Related R (seesKind kind i) (seesKind kind i) := by unfold seesKind; infer_instance
instance : Related R (seesNamed text) (seesNamed text) := by unfold seesNamed; infer_instance
instance : Related R atEnd atEnd := by unfold atEnd; infer_instance
instance : Related R (expect text) (expect text) := by unfold expect; infer_instance
instance : Related R (expectKind kind) (expectKind kind) := by unfold expectKind; infer_instance
instance : Related R identifier identifier := by unfold identifier; infer_instance
instance : Related R (accept text) (accept text) := by unfold accept; infer_instance
instance : Related R (acceptPair first second) (acceptPair first second) := by unfold acceptPair; infer_instance
instance (p q : Parse (Option α)) [Related R p q] : Related R (repeatWhile p) (repeatWhile q) := by
  unfold repeatWhile; infer_instance
instance (p q : Parse α) [Related R p q] : Related R (separated separator p) (separated separator q) := by
  unfold separated; infer_instance
instance (p q : Parse α) [Related R p q] : Related R (upTo closing p) (upTo closing q) := by
  unfold upTo; infer_instance
instance : Related R qualifiedName qualifiedName := by unfold qualifiedName; infer_instance

end Tokens

/-- Grammars whose readers are related. -/
class Grammar.Related (R : ∀ α : Type, Parse α → Parse α → Prop) (g h : Grammar) : Prop where
  path : Parser.Related R g.path h.path
  annot : Parser.Related R g.annot h.annot
  elementValue : Parser.Related R g.elementValue h.elementValue
  expression : Parser.Related R g.expression h.expression
  conditional : Parser.Related R g.conditional h.conditional
  operand : Parser.Related R g.operand h.operand
  arrayValue : Parser.Related R g.arrayValue h.arrayValue
  block : Parser.Related R g.block h.block
  statement : Parser.Related R g.statement h.statement
  classBody : Parser.Related R g.classBody h.classBody
  declaration : Parser.Related R g.declaration h.declaration

attribute [instance] Grammar.Related.path Grammar.Related.annot Grammar.Related.elementValue Grammar.Related.expression
  Grammar.Related.conditional Grammar.Related.operand Grammar.Related.arrayValue Grammar.Related.block
  Grammar.Related.statement Grammar.Related.classBody Grammar.Related.declaration

end Scaffold.Java.Parser
