import Scaffold.Proofs.Java.Depth
import Scaffold.Proofs.Java.Lexes
import Scaffold.Source.Handles

/-! Source files whose package and imports are given by their names. What such a file declares is what is read from
the text below its imports. -/

namespace Scaffold.Java

open Scaffold.Text

/-- A text that the lexer takes for an identifier, also behind a dot. -/
structure IsName (s : String) : Prop extends IsWord s where
  free : wordKind s = .identifier
  no_digit : s.toList.head?.any isDigit = false

instance (s : String) : Decidable (IsName s) :=
  decidable_of_iff (s.toList.head?.any startsIdentifier = true ∧ s.toList.all inIdentifier = true ∧
      wordKind s = .identifier ∧ s.toList.head?.any isDigit = false)
    ⟨fun ⟨hstarts, hchars, hfree, hdigit⟩ => ⟨⟨hstarts, hchars⟩, hfree, hdigit⟩,
      fun ⟨⟨hstarts, hchars⟩, hfree, hdigit⟩ => ⟨hstarts, hchars, hfree, hdigit⟩⟩

/-- The name of a Java package: nothing, or identifiers with dots between them. -/
def IsJavaPackage (s : String) : Prop := s = "" ∨ ∃ names ≠ [], s = ".".intercalate names ∧ ∀ n ∈ names, IsName n

/-- A clause that names a package or a class. -/
def clause (word : String) (names : List String) : String := word ++ " " ++ ".".intercalate names ++ ";"

def dotted (name : String) : List Token := [⟨.separator, "."⟩, ⟨.identifier, name⟩]

def nameTokens : List String → List Token
  | [] => []
  | first :: more => ⟨.identifier, first⟩ :: more.flatMap dotted

def clauseTokens (word : String) (names : List String) : List Token :=
  ⟨wordKind word, word⟩ :: (nameTokens names ++ [⟨.separator, ";"⟩])

section Lexing

variable {names : List String} {rest : List Char} {ts : List Token}

theorem head_intercalate (hne : names ≠ []) (h : ∀ n ∈ names, IsName n) :
    ∃ c r, (".".intercalate names).toList = c :: r ∧ startsIdentifier c = true ∧ isDigit c = false := by
  obtain ⟨first, more, rfl⟩ := List.exists_cons_of_ne_nil hne
  obtain ⟨hword, -, hdigit⟩ := h first List.mem_cons_self
  have hstarts := hword.starts
  cases hcs : first.toList with
  | nil =>
    rw [hcs] at hstarts
    exact nomatch hstarts
  | cons c r =>
    rw [hcs] at hstarts hdigit
    cases more with
    | nil => exact ⟨c, r, by rw [String.intercalate_singleton, hcs], hstarts, hdigit⟩
    | cons second more =>
      refine ⟨c, r ++ ".".toList ++ (".".intercalate (second :: more)).toList, ?_, hstarts, hdigit⟩
      rw [String.intercalate_cons_cons, String.toList_append, String.toList_append, hcs]
      rfl

theorem Lexes.dotted (hne : names ≠ []) (hnames : ∀ n ∈ names, IsName n) (hrest : rest.takeWhile inIdentifier = [])
    (h : Lexes rest ts) : Lexes ((".".intercalate names).toList ++ rest) (nameTokens names ++ ts) := by
  induction names with
  | nil => exact absurd rfl hne
  | cons first more ih =>
    have hfirst := hnames first List.mem_cons_self
    cases more with
    | nil =>
      rw [String.intercalate_singleton]
      have hword := Lexes.word hfirst.toIsWord hrest h
      rw [hfirst.free] at hword
      exact hword
    | cons second more =>
      have hmore : ∀ n ∈ second :: more, IsName n := fun n hn => hnames n (List.mem_cons_of_mem first hn)
      have htail := ih (List.cons_ne_nil second more) hmore
      obtain ⟨c, r, hcs, hc, hdigit⟩ := head_intercalate (List.cons_ne_nil second more) hmore
      rw [hcs] at htail
      -- The dot is no part of a number, for a name follows.
      have hdot := Lexes.dot hc hdigit htail
      have hword := Lexes.word hfirst.toIsWord (by rfl) hdot
      rw [hfirst.free] at hword
      rw [String.intercalate_cons_cons, String.toList_append, String.toList_append, hcs, List.append_assoc,
        List.append_assoc]
      exact hword

theorem Lexes.clause {w : String} (hw : IsWord w) (hne : names ≠ []) (hnames : ∀ n ∈ names, IsName n)
    (h : Lexes rest ts) : Lexes ((clause w names).toList ++ rest) (clauseTokens w names ++ ts) := by
  have hend := Lexes.dotted hne hnames (by rfl) (Lexes.semicolon h)
  have hblank : Lexes (' ' :: ((".".intercalate names).toList ++ ';' :: rest)) _ := Lexes.blank (by rfl) hend
  have hall := Lexes.word hw (by rfl) hblank
  unfold Java.clause clauseTokens
  rw [String.toList_append, String.toList_append, String.toList_append]
  simpa using hall

theorem Lexes.imports {imports : List (List String)} (h : ∀ names ∈ imports, names ≠ [] ∧ ∀ n ∈ names, IsName n)
    (hrest : Lexes rest ts) :
    Lexes (imports.flatMap (fun names => (Java.clause "import" names).toList ++ ['\n']) ++ rest)
      (imports.flatMap (clauseTokens "import") ++ ts) := by
  induction imports with
  | nil => exact hrest
  | cons names imports ih =>
    obtain ⟨hne, hnames⟩ := h names List.mem_cons_self
    have hmore := ih fun names hn => h names (List.mem_cons_of_mem _ hn)
    have hbreak : Lexes ('\n' :: _) _ := Lexes.blank (by rfl) hmore
    have hline := Lexes.clause (w := "import") ⟨by decide, by decide⟩ hne hnames hbreak
    simpa using hline

end Lexing

namespace Parser

section Reading

variable {α β : Type} {t : Token} {text : String} {r anchor : List Token} {enums : List String}

theorem expect_cons (h : t.text = text) : expect text ⟨t :: r, anchor, enums⟩ = (.ok (), ⟨r, anchor, enums⟩) := by
  change (if (t.text != text) = true then fail else pure () : Parse Unit) ⟨r, anchor, enums⟩ = _
  rw [h, if_neg (by simp)]
  rfl

theorem identifier_cons (h : t.kind = .identifier) :
    identifier ⟨t :: r, anchor, enums⟩ = (.ok t.text, ⟨r, anchor, enums⟩) := by
  change (if (t.kind == .identifier) = true then pure t.text else fail : Parse String) ⟨r, anchor, enums⟩ = _
  rw [h, if_pos (by simp)]
  rfl

theorem accept_cons (h : t.text = text) : accept text ⟨t :: r, anchor, enums⟩ = (.ok true, ⟨r, anchor, enums⟩) := by
  change (if (t.text == text) = true then (do let _ ← next; return true) else return false : Parse Bool)
    ⟨t :: r, anchor, enums⟩ = _
  rw [h, if_pos (by simp)]
  rfl

theorem accept_cons_of_ne (h : t.text ≠ text) :
    accept text ⟨t :: r, anchor, enums⟩ = (.ok false, ⟨t :: r, anchor, enums⟩) := by
  change (if (t.text == text) = true then (do let _ ← next; return true) else return false : Parse Bool)
    ⟨t :: r, anchor, enums⟩ = _
  rw [if_neg (by simpa using h)]
  rfl

/-- Repetition over tokens that come in chunks, with something else behind them. -/
theorem repeatWhile_chunks {p : Parse (Option α)} (anchor : List Token) (enums : List String)
    (chunk : β → List Token) (value : β → α) (bs : List β)
    (hmore : ∀ b ∈ bs, ∀ r, p ⟨chunk b ++ r, anchor, enums⟩ = (.ok (some (value b)), ⟨r, anchor, enums⟩))
    (hchunk : ∀ b ∈ bs, chunk b ≠ []) (hend : p ⟨r, anchor, enums⟩ = (.ok none, ⟨r, anchor, enums⟩)) :
    repeatWhile p ⟨bs.flatMap chunk ++ r, anchor, enums⟩ = (.ok (bs.map value), ⟨r, anchor, enums⟩) := by
  have hfrom : ∀ n, bs.length < n →
      repeatFrom p n ⟨bs.flatMap chunk ++ r, anchor, enums⟩ = (.ok (bs.map value), ⟨r, anchor, enums⟩) := by
    induction bs with
    | nil =>
      intro n hn
      obtain ⟨n, rfl⟩ : ∃ m, n = m + 1 := ⟨n - 1, by omega⟩
      rw [List.flatMap_nil, List.nil_append, repeatFrom, bind_apply, hend]
      rfl
    | cons b bs ih =>
      intro n hn
      obtain ⟨n, rfl⟩ : ∃ m, n = m + 1 := ⟨n - 1, by omega⟩
      have hrest := ih (fun x hx => hmore x (List.mem_cons_of_mem b hx))
        (fun x hx => hchunk x (List.mem_cons_of_mem b hx)) n (Nat.lt_of_succ_lt_succ hn)
      rw [List.flatMap_cons, List.append_assoc, repeatFrom, bind_apply, hmore b List.mem_cons_self]
      dsimp only
      rw [bind_apply, hrest]
      rfl
  -- The fuel is the number of tokens, and no chunk is without one.
  have hlength : bs.length ≤ (bs.flatMap chunk).length := by
    clear hfrom hmore
    induction bs with
    | nil => exact Nat.le_refl 0
    | cons b bs ih =>
      have hb := List.length_pos_iff.2 (hchunk b List.mem_cons_self)
      have hbs := ih fun x hx => hchunk x (List.mem_cons_of_mem b hx)
      rw [List.flatMap_cons, List.length_append, List.length_cons]
      omega
  refine hfrom _ ?_
  rw [List.length_append]
  omega

end Reading

section Clauses

variable {names : List String} {r anchor : List Token} {enums : List String}

theorem qualifiedName_clause (hne : names ≠ []) :
    qualifiedName ⟨nameTokens names ++ (⟨.separator, ";"⟩ :: r), anchor, enums⟩ =
      (.ok names, ⟨⟨.separator, ";"⟩ :: r, anchor, enums⟩) := by
  obtain ⟨first, more, rfl⟩ := List.exists_cons_of_ne_nil hne
  -- What is repeated behind the first name.
  let p : Parse (Option String) := do if ← accept "." then return some (← identifier) else return none
  have hdotted (b : String) (r : List Token) :
      p ⟨dotted b ++ r, anchor, enums⟩ = (.ok (some b), ⟨r, anchor, enums⟩) := by
    have haccept : accept "." ⟨⟨.separator, "."⟩ :: ⟨.identifier, b⟩ :: r, anchor, enums⟩ =
        (.ok true, ⟨⟨.identifier, b⟩ :: r, anchor, enums⟩) := accept_cons rfl
    change (accept "." >>= fun found => _) ⟨⟨.separator, "."⟩ :: ⟨.identifier, b⟩ :: r, anchor, enums⟩ = _
    rw [bind_apply, haccept]
    change (identifier >>= fun name => pure (some name)) ⟨⟨.identifier, b⟩ :: r, anchor, enums⟩ = _
    rw [bind_apply, identifier_cons rfl]
    rfl
  have hend : p ⟨⟨.separator, ";"⟩ :: r, anchor, enums⟩ = (.ok none, ⟨⟨.separator, ";"⟩ :: r, anchor, enums⟩) := by
    change (accept "." >>= fun found => _) _ = _
    rw [bind_apply, accept_cons_of_ne (by decide)]
    rfl
  have hmore := repeatWhile_chunks anchor enums dotted id more (fun b _ r => hdotted b r)
    (fun b _ => List.cons_ne_nil _ _) hend
  change (identifier >>= fun first => repeatWhile p >>= fun rest => pure (first :: rest))
    ⟨⟨.identifier, first⟩ :: (more.flatMap dotted ++ ⟨.separator, ";"⟩ :: r), anchor, enums⟩ = _
  rw [bind_apply, identifier_cons rfl]
  dsimp only
  rw [bind_apply, hmore, List.map_id]
  rfl

theorem importRest_clause (hne : names ≠ []) (hnames : ∀ n ∈ names, IsName n) :
    importRest ⟨nameTokens names ++ (⟨.separator, ";"⟩ :: r), anchor, enums⟩ =
      (.ok { name := ".".intercalate names }, ⟨r, anchor, enums⟩) := by
  obtain ⟨first, more, rfl⟩ := List.exists_cons_of_ne_nil hne
  -- What is repeated behind the first name.
  let p : Parse (Option String) := do
    if (← sees ".") && !(← sees "*" 1) then
      expect "."
      return some (← identifier)
    else return none
  have hdotted (b : String) (hb : b ∈ more) (r : List Token) :
      p ⟨dotted b ++ r, anchor, enums⟩ = (.ok (some b), ⟨r, anchor, enums⟩) := by
    have hstar : (b == "*") = false := by
      rw [beq_eq_false_iff_ne]
      rintro rfl
      exact absurd (hnames "*" (List.mem_cons_of_mem first hb)).starts (by decide)
    have hexpect : expect "." ⟨⟨.separator, "."⟩ :: ⟨.identifier, b⟩ :: r, anchor, enums⟩ =
        (.ok (), ⟨⟨.identifier, b⟩ :: r, anchor, enums⟩) := expect_cons rfl
    change (if (true && !(b == "*")) = true then (expect "." >>= fun _ => identifier >>= fun name => pure (some name))
      else pure none : Parse (Option String)) ⟨⟨.separator, "."⟩ :: ⟨.identifier, b⟩ :: r, anchor, enums⟩ = _
    rw [hstar, if_pos (by decide), bind_apply, hexpect]
    dsimp only
    rw [bind_apply, identifier_cons rfl]
    rfl
  have hend : p ⟨⟨.separator, ";"⟩ :: r, anchor, enums⟩ = (.ok none, ⟨⟨.separator, ";"⟩ :: r, anchor, enums⟩) := by
    cases r <;> rfl
  have hmore := repeatWhile_chunks anchor enums dotted id more hdotted (fun b _ => List.cons_ne_nil _ _) hend
  have hstatic : first ≠ "static" := by
    rintro rfl
    exact absurd (hnames "static" List.mem_cons_self).free (by decide)
  change (accept "static" >>= fun isStatic => identifier >>= fun first => repeatWhile p >>= fun more =>
    acceptPair "." "*" >>= fun onDemand => expect ";" >>= fun _ =>
      pure ({ name := ".".intercalate (first :: more), isStatic, onDemand } : Import))
    ⟨⟨.identifier, first⟩ :: (more.flatMap dotted ++ ⟨.separator, ";"⟩ :: r), anchor, enums⟩ = _
  rw [bind_apply, accept_cons_of_ne hstatic]
  dsimp only
  rw [bind_apply, identifier_cons rfl]
  dsimp only
  rw [bind_apply, hmore, List.map_id]
  cases r <;> rfl

theorem imports_clauses {imports : List (List String)} (anchor : List Token) (enums : List String)
    (himports : ∀ names ∈ imports, names ≠ [] ∧ ∀ n ∈ names, IsName n) (hr : r.head?.all (·.text != "import") = true) :
    repeatWhile import? ⟨imports.flatMap (clauseTokens "import") ++ r, anchor, enums⟩ =
      (.ok (imports.map fun names => { name := ".".intercalate names }), ⟨r, anchor, enums⟩) := by
  refine repeatWhile_chunks anchor enums _ _ _ (fun names hnames r => ?_) (fun names _ => List.cons_ne_nil _ _) ?_
  · obtain ⟨hne, hall⟩ := himports names hnames
    have haccept : accept "import" ⟨⟨wordKind "import", "import"⟩ :: (nameTokens names ++ (⟨.separator, ";"⟩ :: r)),
        anchor, enums⟩ = (.ok true, ⟨nameTokens names ++ (⟨.separator, ";"⟩ :: r), anchor, enums⟩) := accept_cons rfl
    unfold import?
    rw [show clauseTokens "import" names ++ r =
      ⟨wordKind "import", "import"⟩ :: (nameTokens names ++ (⟨.separator, ";"⟩ :: r)) by simp [clauseTokens],
      bind_apply, haccept]
    change (importRest >>= fun found => pure (some found)) _ = _
    rw [bind_apply, importRest_clause hne hall]
    rfl
  · unfold import?
    cases r with
    | nil => rfl
    | cons t r =>
      have ht : t.text ≠ "import" := by simpa using hr
      rw [bind_apply, accept_cons_of_ne ht]
      rfl

theorem annots_of_ne (g : Grammar) {t : Token} (ht : t.kind ≠ .at) :
    g.annots ⟨t :: r, anchor, enums⟩ = (.ok (), ⟨t :: r, anchor, enums⟩) := by
  have hsees : seesAnnot ⟨t :: r, anchor, enums⟩ = (.ok false, ⟨t :: r, anchor, enums⟩) := by
    change (Except.ok (t.kind == .at && _), _) = _
    rw [beq_eq_false_iff_ne.2 ht, Bool.false_and]
  have hend : (do if ← seesAnnot then return some (← g.annot) else return none : Parse (Option Annot))
      ⟨t :: r, anchor, enums⟩ = (.ok none, ⟨t :: r, anchor, enums⟩) := by
    change (seesAnnot >>= fun found => _) _ = _
    rw [bind_apply, hsees]
    rfl
  have hnone := repeatWhile_chunks anchor enums dotted (fun _ => { name := "" }) []
    (fun _ h => absurd h List.not_mem_nil) (fun _ h => absurd h List.not_mem_nil) hend
  unfold Grammar.annots
  rw [bind_apply]
  rw [List.flatMap_nil, List.nil_append] at hnone
  rw [hnone]
  rfl

theorem package?_apply (g : Grammar) {t : Token} (ht : t.kind ≠ .at) :
    g.package? ⟨t :: r, anchor, enums⟩ = if t.text = "package" then
        (qualifiedName >>= fun names => expect ";" >>= fun _ => pure (some (".".intercalate names)) :
          Parse (Option String)) ⟨r, t :: r, enums⟩
      else (.ok none, ⟨t :: r, t :: r, []⟩) := by
  change (g.annots >>= fun _ => accept "package" >>= fun found => if found = true then
      (qualifiedName >>= fun names => expect ";" >>= fun _ => pure (some (".".intercalate names)))
    else (modify (fun c => { c with ahead := c.anchor, enums := [] }) >>= fun _ => pure none) : Parse (Option String))
    ⟨t :: r, t :: r, enums⟩ = _
  rw [bind_apply, annots_of_ne g ht]
  dsimp only
  by_cases htext : t.text = "package"
  · rw [bind_apply, accept_cons htext, if_pos htext]
    rfl
  · rw [bind_apply, accept_cons_of_ne htext, if_neg htext]
    rfl

theorem package?_clause (g : Grammar) (hne : names ≠ []) :
    g.package? ⟨clauseTokens "package" names ++ r, anchor, enums⟩ =
      (.ok (some (".".intercalate names)), ⟨r, clauseTokens "package" names ++ r, enums⟩) := by
  have htokens : clauseTokens "package" names ++ r =
      ⟨wordKind "package", "package"⟩ :: (nameTokens names ++ (⟨.separator, ";"⟩ :: r)) := by
    simp [clauseTokens]
  rw [htokens, package?_apply g (by decide), if_pos rfl, bind_apply, qualifiedName_clause hne]
  dsimp only
  rw [bind_apply, expect_cons (t := ⟨.separator, ";"⟩) rfl]
  rfl

end Clauses

end Parser

/-- The tokens of a file, by the names of its package and its imports and by what stands below them. -/
def fileTokens (package : List String) (imports : List (List String)) (ts : List Token) : List Token :=
  (if package = [] then [] else clauseTokens "package" package) ++ (imports.flatMap (clauseTokens "import") ++ ts)

section File

open Scaffold.Java.Parser

variable {package : List String} {imports : List (List String)} {t : Token} {r : List Token}

theorem package?_file (g : Grammar)
    (hopen : package = [] → imports = [] → t.kind ≠ .at ∧ t.text ≠ "package") :
    ∃ name anchor, g.package? ⟨fileTokens package imports (t :: r), fileTokens package imports (t :: r), []⟩ =
      (.ok name, ⟨imports.flatMap (clauseTokens "import") ++ t :: r, anchor, []⟩) := by
  unfold fileTokens
  by_cases hpackage : package = []
  · rw [if_pos hpackage, List.nil_append]
    cases imports with
    | nil =>
      obtain ⟨hkind, htext⟩ := hopen hpackage rfl
      rw [List.flatMap_nil, List.nil_append, package?_apply g hkind, if_neg htext]
      exact ⟨_, _, rfl⟩
    | cons names imports =>
      rw [show (names :: imports).flatMap (clauseTokens "import") ++ t :: r = ⟨wordKind "import", "import"⟩ ::
        (nameTokens names ++ [⟨.separator, ";"⟩] ++ (imports.flatMap (clauseTokens "import") ++ t :: r)) by
          simp [clauseTokens], package?_apply g (by decide), if_neg (by decide)]
      exact ⟨_, _, rfl⟩
  · rw [if_neg hpackage, package?_clause g hpackage]
    exact ⟨_, _, rfl⟩

theorem ofTokens_file {k : Nat} {ds : List Decl}
    (himports : ∀ names ∈ imports, names ≠ [] ∧ ∀ n ∈ names, IsName n) (ht : t.text ≠ "import")
    (hopen : package = [] → imports = [] → t.kind ≠ .at ∧ t.text ≠ "package")
    (hds : ((Grammar.over k Grammar.dry).types ⟨t :: r, t :: r, []⟩).1 = .ok ds) (hk : k ≤ 4 * (t :: r).length + 4) :
    ∃ u, SourceUnit.ofTokens (fileTokens package imports (t :: r)) = .ok u ∧ u.types = ds := by
  have hdepth : k ≤ 4 * (fileTokens package imports (t :: r)).length + 4 := by
    unfold fileTokens
    rw [List.length_append, List.length_append]
    omega
  -- The grammar of the file is at least as deep as the one in which the types were read.
  obtain ⟨n, hn⟩ := Nat.exists_eq_add_of_le' hdepth
  obtain ⟨name, anchor, hpackage⟩ := package?_file (Grammar.ofDepth (n + k)) (r := r) hopen
  have hall := imports_clauses (r := t :: r) anchor [] himports (by simpa using ht)
  have htypes : ((Grammar.ofDepth (n + k)).types ⟨t :: r, anchor, []⟩).1 = .ok ds := types_of_dry hds
  rcases hx : (Grammar.ofDepth (n + k)).types ⟨t :: r, anchor, []⟩ with ⟨x, c⟩
  rw [hx] at htypes
  cases htypes
  let found : List Import := imports.map fun names => { name := ".".intercalate names }
  refine ⟨{ package := name, imports := found, types := ds }, ?_, rfl⟩
  unfold SourceUnit.ofTokens
  rw [hn]
  change ((do
    let package ← (Grammar.ofDepth (n + k)).package?
    let imports ← repeatWhile import?
    return ({ package, imports, types := ← (Grammar.ofDepth (n + k)).types } : SourceUnit) : Parse SourceUnit)
      ⟨fileTokens package imports (t :: r), fileTokens package imports (t :: r), []⟩).1 = _
  rw [bind_apply, hpackage]
  dsimp only
  rw [bind_apply, hall]
  dsimp only
  rw [bind_apply, hx]
  rfl

/-- What a text declares that stands below the imports of a file, with the kind of its first token. It is found at
some depth of the grammar. -/
def typesBelow? (k : Nat) (cs : List Char) : Option (TokenKind × List (DeclKind × String)) :=
  match tokensFrom (cs.length + 1) (Place.start cs) with
  | .ok (t :: r) =>
    if t.text ≠ "import" ∧ t.text ≠ "package" ∧ k ≤ 4 * r.length then
      match ((Grammar.over k Grammar.dry).types ⟨t :: r, t :: r, []⟩).1 with
      | .ok ds => some (t.kind, (Source.headsOf ds).map fun d => (d.kind, d.name))
      | .error _ => none
    else none
  | _ => none

/-- A file is read if the text below its imports is, and declares what that text declares. -/
theorem read_of_typesBelow? (package : List String) {source : String} {k : Nat} {cs : List Char} {kind : TokenKind}
    {found : List (DeclKind × String)} (hbelow : typesBelow? k cs = some (kind, found)) (hplain : '\\' ∉ source.toList)
    (himports : ∀ names ∈ imports, names ≠ [] ∧ ∀ n ∈ names, IsName n)
    (hopen : package = [] → imports = [] → kind ≠ .at)
    (hlex : ∀ ts, Lexes cs ts → Lexes source.toList (fileTokens package imports ts)) :
    ∃ u, SourceUnit.read source = .ok u ∧ (Source.headsOf u.types).map (fun d => (d.kind, d.name)) = found := by
  unfold typesBelow? at hbelow
  split at hbelow
  · next t r htokens =>
    split at hbelow
    · next hfits =>
      obtain ⟨himport, hpackage, hk⟩ := hfits
      split at hbelow
      · next ds hds =>
        cases hbelow
        have hdepth : k ≤ 4 * (t :: r).length + 4 := by
          rw [List.length_cons]
          omega
        obtain ⟨u, hunit, htypes⟩ := ofTokens_file himports himport (fun hp hi => ⟨hopen hp hi, hpackage⟩) hds hdepth
        have hdecode : Escapes.decode source.toList = .ok source.toList := by
          unfold Escapes.decode
          rw [if_neg (by simpa using hplain)]
        have hsource : Java.tokens source = .ok (fileTokens package imports (t :: r)) := by
          unfold Java.tokens
          dsimp only
          rw [hdecode]
          exact hlex _ htokens
        refine ⟨u, ?_, by rw [htypes]⟩
        unfold SourceUnit.read
        rw [hsource]
        dsimp only
        rw [hunit]
      · exact nomatch hbelow
    · exact nomatch hbelow
  · exact nomatch hbelow

end File

end Scaffold.Java
