import Scaffold.Artifact.Dto
import Scaffold.Java.Lexer
import Scaffold.Proofs.Artifact.SoftDelete

/-! What a service calls on the data it is given, and what the data transfer class declares. Both start from the id
and the owner of the entity, but the class has only the fields that there are, and names every getter alike. -/

namespace Scaffold.Artifact

open Scaffold.Entity (Field)
open Scaffold.Text

/-- The call of a method: its name, and whether anything is passed. -/
structure Call where
  method : String
  passes : Bool
  deriving DecidableEq

/-- The call that is written behind a dot. -/
def Call.read (s : List Char) : Call where
  method := String.ofList (s.takeWhile (· != '('))
  passes := (s.dropWhile (· != '(')).tail.head? != some ')'

/-- Whether a text, last character first, ends in a word. -/
def endsInWord (word seen : List Char) : Bool :=
  match after? word.reverse seen with
  | some (c :: _) => !Java.inIdentifier c
  | some [] => true
  | none => false

/-- The calls on a variable behind what has been seen, last character first. -/
def callsFrom (var seen : List Char) : List Char → List Call
  | [] => []
  | c :: r =>
    (if c == '.' && endsInWord var seen then [Call.read r] else []) ++ callsFrom var (c :: seen) r

/-- The calls on a variable in a line. -/
def callsOn (var line : String) : List Call := callsFrom var.toList [] line.toList

/-- Nothing is called on the variable within the text, whatever stands around it. -/
def Silent (var text : String) : Prop :=
  ∀ seen rest, callsFrom var.toList seen (text.toList ++ rest) =
    callsFrom var.toList (text.toList.reverse ++ seen) rest

/-- Every dot follows something else than the variable. -/
def quietFrom (var seen : List Char) : List Char → Bool
  | [] => true
  | c :: r =>
    (c != '.' || decide (¬ seen <+: var.reverse ∧ ¬ var.reverse <+: seen)) && quietFrom var (c :: seen) r

section Calls

variable {var s t : String}

theorem endsInWord_eq_false {word seen : List Char} (h : ¬ seen <+: word.reverse ∧ ¬ word.reverse <+: seen)
    (more : List Char) : endsInWord word (seen ++ more) = false := by
  have hnone : after? word.reverse (seen ++ more) = none := by
    by_contra hsome
    obtain ⟨rest, hrest⟩ := Option.ne_none_iff_exists'.1 hsome
    have hword : word.reverse <+: seen ++ more := ⟨rest, (after?_eq_some_iff.1 hrest).symm⟩
    exact (List.prefix_or_prefix_of_prefix hword (List.prefix_append seen more)).elim h.2 h.1
  rw [endsInWord, hnone]

theorem callsFrom_quiet {word : List Char} (text : List Char) : ∀ seen, quietFrom word seen text = true →
    ∀ more rest, callsFrom word (seen ++ more) (text ++ rest) =
      callsFrom word (text.reverse ++ (seen ++ more)) rest := by
  induction text with
  | nil => exact fun _ _ _ _ => rfl
  | cons c r ih =>
    intro seen h more rest
    rw [quietFrom, Bool.and_eq_true] at h
    have hsilent : (c == '.' && endsInWord word (seen ++ more)) = false := by
      rcases Bool.or_eq_true_iff.1 h.1 with hc | hseen
      · rw [beq_eq_false_iff_ne.2 (bne_iff_ne.1 hc), Bool.false_and]
      · rw [endsInWord_eq_false (of_decide_eq_true hseen), Bool.and_false]
    rw [List.cons_append, callsFrom, hsilent, if_neg Bool.false_ne_true, List.nil_append, List.reverse_cons,
      List.append_assoc]
    exact ih (c :: seen) h.2 more rest

theorem silent_of_quiet (h : quietFrom var.toList [] t.toList = true) : Silent var t :=
  callsFrom_quiet t.toList [] h

theorem quietFrom_undotted {word text : List Char} (h : '.' ∉ text) : ∀ seen, quietFrom word seen text = true := by
  induction text with
  | nil => exact fun _ => rfl
  | cons c r ih =>
    rw [List.mem_cons, not_or] at h
    intro seen
    rw [quietFrom, bne_iff_ne.2 (Ne.symm h.1), Bool.true_or, Bool.true_and]
    exact ih h.2 _

theorem silent_of_undotted (h : '.' ∉ t.toList) : Silent var t := silent_of_quiet (quietFrom_undotted h [])

theorem Silent.append (hs : Silent var s) (ht : Silent var t) : Silent var (s ++ t) := by
  intro seen rest
  rw [String.toList_append, List.append_assoc, hs, ht, List.reverse_append, List.append_assoc]

theorem Silent.between {u : String} (hs : Silent var s) (ht : quietFrom var.toList [] t.toList = true)
    (hu : quietFrom var.toList [] u.toList = true) : Silent var (t ++ s ++ u) :=
  ((silent_of_quiet ht).append hs).append (silent_of_quiet hu)

/-- A dot behind a text that neither ends the variable nor ends in it. -/
theorem Silent.dot (hs : Silent var s) (ht : Silent var t)
    (hword : ¬ s.toList <:+ var.toList ∧ ¬ var.toList <:+ s.toList) : Silent var (s ++ "." ++ t) := by
  rw [← List.reverse_prefix, ← List.reverse_prefix] at hword
  intro seen rest
  have hchars : (s ++ "." ++ t).toList = s.toList ++ '.' :: t.toList := by
    rw [String.toList_append, String.toList_append, List.append_assoc]
    rfl
  rw [hchars, List.append_assoc, hs, List.cons_append, callsFrom, endsInWord_eq_false hword, Bool.and_false,
    if_neg Bool.false_ne_true, List.nil_append, ht, List.reverse_append, List.reverse_cons]
  simp only [List.append_assoc, List.cons_append, List.nil_append]

theorem Silent.callsOn (h : Silent var t) : callsOn var t = [] := by
  have hwhole := h [] []
  rwa [List.append_nil] at hwhole

theorem callsOn_call {line front name rest : String}
    (hline : line.toList = front.toList ++ (var.toList ++ '.' :: (name.toList ++ '(' :: rest.toList)))
    (hfront : Silent var front) (hend : front.toList.getLast?.all (!Java.inIdentifier ·) = true)
    (hvar : '.' ∉ var.toList) (hdot : '.' ∉ name.toList) (hbracket : '(' ∉ name.toList) (hrest : '.' ∉ rest.toList) :
    callsOn var line = [⟨name, rest.toList.head? != some ')'⟩] := by
  have hword : endsInWord var.toList (var.toList.reverse ++ (front.toList.reverse ++ [])) = true := by
    have hafter : after? var.toList.reverse (var.toList.reverse ++ (front.toList.reverse ++ [])) =
        some front.toList.reverse := after?_eq_some_iff.2 (by rw [List.append_nil])
    rw [endsInWord, hafter]
    cases hlast : front.toList.reverse with
    | nil => rfl
    | cons c r =>
      rw [← List.head?_reverse, hlast, List.head?_cons, Option.all_some] at hend
      exact hend
  have hname : ∀ c ∈ name.toList, (c != '(') = true := fun c hc => bne_iff_ne.2 fun h => hbracket (h ▸ hc)
  have hcall : Call.read (name.toList ++ '(' :: rest.toList) = ⟨name, rest.toList.head? != some ')'⟩ := by
    unfold Call.read
    rw [List.takeWhile_append_of_pos hname, List.dropWhile_append_of_pos hname]
    simp
  have hquiet : Silent var (name ++ "(" ++ rest) :=
    ((silent_of_undotted hdot).append (silent_of_undotted (by decide))).append (silent_of_undotted hrest)
  have hbehind (seen : List Char) : callsFrom var.toList seen (name.toList ++ '(' :: rest.toList) = [] := by
    have hwhole := hquiet seen []
    rw [String.toList_append, String.toList_append, List.append_nil, List.append_assoc] at hwhole
    exact hwhole
  -- Up to the variable and behind the name nothing is found, which leaves the one dot between them.
  rw [callsOn, hline, hfront, silent_of_undotted hvar, callsFrom, hword, hcall, hbehind]
  rfl

end Calls

/-- Nothing but the variable stands before a dot under its name: names are identifiers, and no time of creation has a
type of that name. -/
structure Distinct (var : String) (p : ServicePlan) : Prop extends Undotted p where
  id : '(' ∉ p.id.name.toList
  stamp : ∀ f, p.createTime? = some f → ¬ var.toList <:+ f.rawType.toList

section Bodies

variable {p : ServicePlan} {f : Field}

theorem silent_readOf (hf : '.' ∉ f.name.toList) : Silent "dto" (readOf f "entity") := by
  unfold readOf
  exact (silent_of_undotted (dot_not_mem_getter hf)).between (t := "entity.") (by decide) (by decide)

theorem silent_unsetCheck (hf : '.' ∉ f.name.toList) : Silent "dto" (unsetCheck f "entity") := by
  unfold unsetCheck
  refine (silent_readOf hf).append (silent_of_quiet ?_)
  split <;> decide

theorem silent_isFlagged (hf : '.' ∉ f.name.toList) : Silent "dto" (isFlagged f "entity") := by
  have hread := silent_readOf hf
  unfold isFlagged
  split
  · exact hread
  · exact hread.between (by decide) (by decide)
  · exact hread.append (silent_of_quiet (by decide))
  · exact ((hread.between (by decide) (by decide)).append (silent_of_undotted (dot_not_mem_flagValue f))).append
      (silent_of_quiet (by decide))

/-- A type that is asked for the present moment is no variable. -/
theorem silent_nowExpression (hdot : '.' ∉ f.rawType.toList) (hword : ¬ "dto".toList <:+ f.rawType.toList) :
    Silent "dto" ("(" ++ nowExpression f) := by
  have hvalues : ∀ entry ∈ nowExpressions, quietFrom "dto".toList [] ("(" ++ entry.2).toList = true := by
    decide
  unfold nowExpression
  cases hlookup : nowExpressions.lookup f.rawType with
  | some value =>
    rw [Option.getD_some]
    exact silent_of_quiet (hvalues (f.rawType, value) (Entries.mem_of_lookup hlookup))
  -- The type itself stands in front of the dot, and it is not the variable.
  | none =>
    have hopened : ("(" ++ f.rawType).toList = '(' :: f.rawType.toList := by
      rw [String.toList_append]
      rfl
    have hother : ¬ ("(" ++ f.rawType).toList <:+ "dto".toList ∧ ¬ "dto".toList <:+ ("(" ++ f.rawType).toList := by
      rw [hopened, List.suffix_cons_iff]
      refine ⟨fun h => absurd (h.subset List.mem_cons_self) (by decide), fun h => ?_⟩
      rcases h with heq | hsuffix
      · exact absurd (heq ▸ List.mem_cons_self : '(' ∈ "dto".toList) (by decide)
      · exact hword hsuffix
    have hopen : Silent "dto" ("(" ++ f.rawType) := (silent_of_undotted (by decide)).append (silent_of_undotted hdot)
    rw [Option.getD_none, show ".now()" = "." ++ "now()" by decide, ← String.append_assoc, ← String.append_assoc]
    exact hopen.dot (silent_of_undotted (by decide)) hother

theorem silent_set (hf : '.' ∉ f.name.toList) : Silent "dto" ("    entity." ++ setter f) :=
  (silent_of_quiet (by decide)).append (silent_of_undotted (dot_not_mem_setter hf))

theorem silent_stamp (hd : Distinct "dto" p) : ∀ l ∈ p.stamp, Silent "dto" l := by
  unfold ServicePlan.stamp
  cases h : p.createTime? with
  | none => exact List.forall_mem_nil _
  | some f =>
    have hname := hd.names f (mem_of_fieldIf h)
    have hraw : '.' ∉ f.rawType.toList := fun hmem => hd.stampType f h (mem_of_mem_rawOf hmem)
    have hset := silent_set hname
    simp only [List.forall_mem_cons]
    refine ⟨?_, ?_, silent_of_quiet (by decide), List.forall_mem_nil _⟩
    · exact (silent_unsetCheck hd.toUndotted.id).between (by decide) (by decide)
    · have hline := (hset.append (silent_nowExpression hraw (hd.stamp f h))).append
        (silent_of_quiet (t := ");") (by decide))
      rwa [← String.append_assoc] at hline

theorem silent_saveMethods (hd : Distinct "dto" p) : ∀ m ∈ p.saveMethods, ∀ l ∈ m.body, Silent "dto" l := by
  have hentity : Silent "dto" p.entity.name := silent_of_undotted hd.entity
  have hdto : Silent "dto" p.deps.dto.name := silent_of_undotted hd.dto
  simp only [ServicePlan.saveMethods, List.forall_mem_cons, List.forall_mem_append, List.not_mem_nil, false_imp_iff,
    implies_true, and_true]
  refine ⟨⟨⟨?_, silent_stamp hd⟩, silent_of_quiet (by decide)⟩, ?_⟩
  · exact hentity.append (silent_of_quiet (by decide))
  · split
    · simp only [List.forall_mem_cons]
      refine ⟨?_, silent_of_quiet (by decide), silent_of_quiet (by decide), List.forall_mem_nil _⟩
      exact hdto.between (by decide) (by decide)
    · exact List.forall_mem_singleton.2 (silent_of_quiet (by decide))

theorem silent_rowMethods (hd : Distinct "dto" p) : ∀ m ∈ p.rowMethods, ∀ l ∈ m.body, Silent "dto" l := by
  simp only [ServicePlan.rowMethods, ServicePlan.deleteBody, ServicePlan.findOneBody, List.forall_mem_cons,
    List.not_mem_nil, false_imp_iff, implies_true, and_true]
  cases h : p.deleted? with
  | none =>
    exact ⟨List.forall_mem_singleton.2 (silent_of_quiet (by decide)),
      List.forall_mem_singleton.2 (silent_of_quiet (by decide))⟩
  | some f =>
    have hname := hd.names f (mem_of_fieldIf h)
    have hset := silent_set hname
    simp only [List.forall_mem_cons]
    refine ⟨⟨silent_of_quiet (by decide), ?_, silent_of_quiet (by decide), silent_of_quiet (by decide),
      List.forall_mem_nil _⟩, silent_of_quiet (by decide), ?_, silent_of_quiet (by decide), List.forall_mem_nil _⟩
    · exact ((hset.append (silent_of_quiet (by decide))).append (silent_of_undotted (dot_not_mem_flagValue f))).append
        (silent_of_quiet (by decide))
    · exact (silent_isFlagged hname).between (by decide) (by decide)

theorem silent_readMethods (hd : Distinct "dto" p) : ∀ m ∈ p.readMethods, ∀ l ∈ m.body, Silent "dto" l := by
  have hentity : Silent "dto" p.entity.name := silent_of_undotted hd.entity
  have hdto : Silent "dto" p.deps.dto.name := silent_of_undotted hd.dto
  have hpage {name : String} (hname : Silent "dto" name) : Silent "dto" ("PageInfo<" ++ name) :=
    (silent_of_quiet (by decide)).append hname
  have hconstant {l : String} (h : quietFrom "dto".toList [] l.toList = true) : Silent "dto" l := silent_of_quiet h
  simp only [ServicePlan.readMethods, ServicePlan.pageBody, List.forall_mem_cons]
  refine ⟨⟨hconstant (by decide), List.forall_mem_nil _⟩, ⟨hconstant (by decide), List.forall_mem_nil _⟩,
    ⟨hconstant (by decide), ?_, ?_, hconstant (by decide), hconstant (by decide),
      hconstant (by decide), hconstant (by decide), hconstant (by decide), List.forall_mem_nil _⟩,
    ⟨hconstant (by decide), List.forall_mem_nil _⟩, List.forall_mem_nil _⟩
  · exact (hpage hentity).append (hconstant (by decide))
  · exact (hpage hdto).append (hconstant (by decide))

theorem callsOn_set (hdot : '.' ∉ f.name.toList) (hbracket : '(' ∉ f.name.toList) (value : String)
    (hv : '.' ∉ value.toList) (hgiven : value.toList.head? ≠ some ')') :
    callsOn "dto" ("dto." ++ setter f ++ ("(" ++ value)) = [⟨setter f, true⟩] := by
  have hline : ("dto." ++ setter f ++ ("(" ++ value)).toList =
      "".toList ++ ("dto".toList ++ '.' :: ((setter f).toList ++ '(' :: value.toList)) := by
    simp only [String.toList_append]
    rfl
  have hcall := callsOn_call hline (silent_of_undotted (by decide)) rfl (by decide) (dot_not_mem_setter hdot)
    (not_mem_setter (by decide) hbracket) hv
  rwa [bne_iff_ne.2 hgiven] at hcall

theorem callsOn_readOf (hdot : '.' ∉ f.name.toList) (hbracket : '(' ∉ f.name.toList) {front rest : String}
    (hfront : Silent "dto" front) (hend : front.toList.getLast?.all (!Java.inIdentifier ·) = true)
    (hrest : '.' ∉ rest.toList) : callsOn "dto" (front ++ readOf f "dto" ++ rest) = [⟨getter f, false⟩] := by
  have hline : (front ++ readOf f "dto" ++ rest).toList =
      front.toList ++ ("dto".toList ++ '.' :: ((getter f).toList ++ '(' :: (")" ++ rest).toList)) := by
    unfold readOf
    simp only [String.toList_append, List.append_assoc]
    rfl
  have hbehind : '.' ∉ (")" ++ rest).toList := by
    rw [String.toList_append, List.mem_append, not_or]
    exact ⟨by decide, hrest⟩
  have hcall := callsOn_call hline hfront hend (by decide) (dot_not_mem_getter hdot)
    (not_mem_getter (by decide) hbracket) hbehind
  rwa [head?_append (c := ')') rfl, bne_self_eq_false] at hcall

end Bodies

namespace ServicePlan

variable {p : ServicePlan} {owner : Field}

theorem callsOn_loadOwned (hd : Distinct "dto" p) :
    (p.loadOwned (readOf p.id "dto")).flatMap (callsOn "dto") = [⟨getter p.id, false⟩, ⟨getter p.id, false⟩] := by
  have hdot := hd.toUndotted.id
  have hfront : Silent "dto" (p.entity.name ++ " entity = repository.findById(") :=
    (silent_of_undotted hd.entity).append (silent_of_quiet (by decide))
  have hend :
      (p.entity.name ++ " entity = repository.findById(").toList.getLast?.all (!Java.inIdentifier ·) = true := by
    have hlast : " entity = repository.findById(".toList.getLast? = some '(' := by decide
    rw [String.toList_append, List.getLast?_append, hlast, Option.some_or]
    decide
  have hload : callsOn "dto" (p.entity.name ++ " entity = repository.findById(" ++ readOf p.id "dto" ++ ")") =
      [⟨getter p.id, false⟩] := callsOn_readOf hdot hd.id hfront hend (by decide)
  have hmissing : callsOn "dto" ("        .orElseThrow(() -> new AccessDeniedException(\"Record not found: \" + "
      ++ readOf p.id "dto" ++ "));") = [⟨getter p.id, false⟩] :=
    callsOn_readOf hdot hd.id (silent_of_quiet (by decide)) (by decide) (by decide)
  have hcheck : callsOn "dto" "checkOwner(userId, entity);" = [] := (silent_of_undotted (by decide)).callsOn
  rw [loadOwned, List.flatMap_cons, List.flatMap_cons, List.flatMap_cons, hload, hmissing, hcheck]
  rfl

theorem silent_loadOwned (hd : Distinct "dto" p) : ∀ l ∈ p.loadOwned "id", Silent "dto" l := by
  simp only [loadOwned, List.forall_mem_cons]
  refine ⟨?_, silent_of_quiet (by decide), silent_of_quiet (by decide), List.forall_mem_nil _⟩
  exact (((silent_of_undotted hd.entity).append (silent_of_quiet (by decide))).append
    (silent_of_quiet (by decide))).append (silent_of_quiet (by decide))

theorem callsOn_ownerMethodsOf (hd : Distinct "dto" p) (hdot : '.' ∉ owner.name.toList)
    (hbracket : '(' ∉ owner.name.toList) :
    ((p.ownerMethodsOf owner).flatMap fun m => m.body.flatMap (callsOn "dto")) =
      [⟨setter p.id, true⟩, ⟨setter owner, true⟩, ⟨getter p.id, false⟩, ⟨getter p.id, false⟩, ⟨getter p.id, false⟩,
        ⟨setter owner, true⟩] := by
  have hid := hd.toUndotted.id
  have hclear : callsOn "dto" ("dto." ++ setter p.id ++ "(null);") = [⟨setter p.id, true⟩] :=
    callsOn_set hid hd.id "null);" (by decide) (by decide)
  have hown : callsOn "dto" ("dto." ++ setter owner ++ "(userId);") = [⟨setter owner, true⟩] :=
    callsOn_set hdot hbracket "userId);" (by decide) (by decide)
  have hguard : callsOn "dto" ("if (" ++ readOf p.id "dto" ++ " == null) \x7b") = [⟨getter p.id, false⟩] :=
    callsOn_readOf hid hd.id (silent_of_undotted (by decide)) (by decide) (by decide)
  have hpermitted : callsOn "dto" ("if (!Objects.equals(userId, " ++ readOf owner "entity" ++ ")) \x7b") = [] :=
    ((silent_readOf hdot).between (by decide) (by decide)).callsOn
  have hload : (p.loadOwned "id").flatMap (callsOn "dto") = [] :=
    List.flatMap_eq_nil_iff.2 fun l hl => (silent_loadOwned hd l hl).callsOn
  have hsilent : ∀ l ∈ ["save(dto);", "delete(id);", "\x7d",
      "    throw new AccessDeniedException(\"Record id is required\");",
      "    throw new AccessDeniedException(\"No permission to modify this record\");"], callsOn "dto" l = [] := by
    decide
  simp only [List.forall_mem_cons] at hsilent
  simp only [ownerMethodsOf, List.flatMap_cons, List.flatMap_nil, List.flatMap_append, hclear, hown, hguard, hpermitted,
    callsOn_loadOwned hd, hload, hsilent, List.append_nil, List.nil_append, List.cons_append]

/-- What the bodies of the methods call on a variable, in order. -/
def bodyCalls (p : ServicePlan) (var : String) : List Call :=
  p.methods.flatMap fun m => m.body.flatMap (callsOn var)

/-- Only the methods that guard the rows of an owner call anything on what they are given. -/
theorem bodyCalls_eq (hd : Distinct "dto" p) (ho : p.owner? = some owner) :
    p.bodyCalls "dto" = [⟨setter p.id, true⟩, ⟨setter owner, true⟩, ⟨getter p.id, false⟩, ⟨getter p.id, false⟩,
      ⟨getter p.id, false⟩, ⟨setter owner, true⟩] := by
  have hsilent {ms : List Method} (h : ∀ m ∈ ms, ∀ l ∈ m.body, Silent "dto" l) :
      (ms.flatMap fun m => m.body.flatMap (callsOn "dto")) = [] :=
    List.flatMap_eq_nil_iff.2 fun m hm => List.flatMap_eq_nil_iff.2 fun l hl => (h m hm l hl).callsOn
  have hbracket : '(' ∉ owner.name.toList := by
    rw [name_of_fieldIf ho]
    decide
  unfold bodyCalls methods ownerMethods
  rw [List.flatMap_append, List.flatMap_append, List.flatMap_append, hsilent (silent_saveMethods hd),
    hsilent (silent_rowMethods hd), hsilent (silent_readMethods hd), ho,
    List.append_nil, List.append_nil, List.nil_append]
  exact callsOn_ownerMethodsOf hd (hd.names owner (mem_of_fieldIf ho)) hbracket

end ServicePlan

section Declared

variable {d : Dto} {f g : Field}

/-- The accessors of a data transfer class: for each field a fluent setter, a setter and a getter. -/
def Dto.declared (d : Dto) : List Call :=
  d.fields.flatMap fun f => [⟨f.name, true⟩, ⟨setterName f.name, true⟩, ⟨getterName f.name, false⟩]

theorem Dto.getter_declared_iff {m : String} : ⟨m, false⟩ ∈ d.declared ↔ ∃ g ∈ d.fields, getterName g.name = m := by
  simp [declared, eq_comm]

theorem Dto.setter_declared (hg : g ∈ d.fields) : ⟨setterName g.name, true⟩ ∈ d.declared :=
  List.mem_flatMap.2 ⟨g, hg, by simp⟩

theorem Dto.infix_accessors (hf : f ∈ d.fields) {line : String} (hline : line ∈ accessorLines d.name (Dto.member f))
    (package : String) : line.toList <:+: (d.template package).content.toList := by
  have hblock : (unlines (accessorLines d.name (Dto.member f))).toList <:+:
      (accessors d.name (d.fields.map Dto.member)).toList :=
    infix_intercalate (List.mem_map_of_mem (List.mem_map_of_mem hf))
  have hpresent : (accessors d.name (d.fields.map Dto.member)).isEmpty = false := by
    rw [Bool.eq_false_iff, Ne, String.isEmpty_iff, ← String.toList_eq_nil_iff]
    intro hempty
    have hbrace : "    \x7d" ∈ accessorLines d.name (Dto.member f) := by simp [accessorLines]
    have hnone := (infix_intercalate hbrace).trans hblock
    rw [hempty, List.infix_nil] at hnone
    exact absurd hnone (by decide)
  have hfront : ("public class " ++ d.name ++ d.heritage ++ " \x7b\n").toList.head? = some 'p' :=
    head?_append (head?_append (head?_append rfl))
  refine infix_javaTemplate (infix_trim hfront (by decide) ?_) _ _ _ _
  refine ((infix_intercalate hline).trans hblock).trans (infix_intercalate (List.mem_filter.2 ⟨?_, ?_⟩))
  · exact List.mem_cons_of_mem _ List.mem_cons_self
  · rw [hpresent]
    rfl

/-- A public method for the call opens in the text; it has a parameter if something is passed. -/
def Call.DeclaredIn (c : Call) (text : String) : Prop :=
  ∃ result parameter,
    ("    public " ++ result ++ " " ++ c.method ++ "(" ++ parameter ++ ") \x7b").toList <:+: text.toList ∧
    c.passes = !parameter.isEmpty

theorem Dto.declaredIn {c : Call} (hc : c ∈ d.declared) (package : String) :
    c.DeclaredIn (d.template package).content := by
  obtain ⟨f, hf, hc⟩ := List.mem_flatMap.1 hc
  have hpassed : (Dto.member f).declared.isEmpty = false := by
    rw [Bool.eq_false_iff, Ne, String.isEmpty_iff, ← String.toList_eq_nil_iff, Member.declared]
    simp
  simp only [List.mem_cons, List.not_mem_nil, or_false] at hc
  rcases hc with rfl | rfl | rfl
  · refine ⟨d.name, (Dto.member f).declared, infix_accessors hf ?_ package, by rw [hpassed]; rfl⟩
    simp [accessorLines, Dto.member]
  · refine ⟨"void", (Dto.member f).declared, infix_accessors hf ?_ package, by rw [hpassed]; rfl⟩
    simp [accessorLines, Dto.member]
  · refine ⟨f.wrapperType, "", infix_accessors hf ?_ package, rfl⟩
    have hline : "    public " ++ f.wrapperType ++ " " ++ getterName f.name ++ "(" ++ "" ++ ") \x7b" =
        "    public " ++ f.wrapperType ++ " " ++ getterName f.name ++ "() \x7b" := by
      rw [show "() \x7b" = "(" ++ ("" ++ ") \x7b") by decide]
      simp only [String.append_assoc]
    dsimp only
    rw [hline]
    simp [accessorLines, Dto.member]

/-- The getter of the id is declared unless it is named after a primitive truth value, and with it the setter. -/
theorem Dto.declared_id_iff (id : Field) : (⟨setter id, true⟩ ∈ d.declared ∧ ⟨getter id, false⟩ ∈ d.declared) ↔
    id.typeName ≠ "boolean" ∧ ∃ g ∈ d.fields, Name.upperFirst g.name = Name.upperFirst id.name := by
  rw [getter_declared_iff]
  unfold getter getterName
  constructor
  · rintro ⟨-, g, hg, heq⟩
    split at heq
    · have hhead := congrArg (·.toList.head?) heq
      simp only [String.toList_append, List.head?_append] at hhead
      change some 'g' = some 'i' at hhead
      exact absurd hhead (by decide)
    · next hboolean => exact ⟨by simpa using hboolean, g, hg, String.append_right_inj _ |>.1 heq⟩
  · rintro ⟨hboolean, g, hg, heq⟩
    rw [if_neg (by simpa using hboolean)]
    refine ⟨?_, g, hg, by rw [heq]⟩
    rw [setter, setterName, ← heq]
    exact setter_declared hg

theorem mem_dtoFields {e : Entity} : f ∈ dtoFields e none ↔ f ∈ e.allFields ∧ f.name ≠ "deleted" := by
  simp [dtoFields, technicalFields]

end Declared

/-- What a service calls on the data it is given are the setter of the id, its getter and the setter of the owner. The
class of that data always declares the last one. It declares all of them exactly if the id is no primitive truth value
and the class has a field that is named like it, up to the case of the first letter; so it does for every id that is a
field of the entity, unless that is a primitive truth value or bears the name of the deletion flag. -/
theorem service_accessors_declared (e : Entity) (s : Settings) (deps : ServiceDeps)
    (hd : Distinct "dto" ⟨e, s.forEntity e, deps⟩) (hu : e.hasField "userId" = true) :
    let p : ServicePlan := ⟨e, s.forEntity e, deps⟩
    ∃ owner d rest, e.findField? "userId" = some owner ∧ dtos e (s.forEntity e) none = d :: rest ∧ d.kind = .dto ∧
      p.bodyCalls "dto" = [⟨setter p.id, true⟩, ⟨setter owner, true⟩, ⟨getter p.id, false⟩, ⟨getter p.id, false⟩,
        ⟨getter p.id, false⟩, ⟨setter owner, true⟩] ∧
      (∀ c ∈ d.declared, ∀ package, c.DeclaredIn (d.template package).content) ∧
      ⟨setter owner, true⟩ ∈ d.declared ∧
      ((∀ c ∈ p.bodyCalls "dto", c ∈ d.declared) ↔ p.id.typeName ≠ "boolean" ∧
        ∃ g ∈ d.fields, Name.upperFirst g.name = Name.upperFirst p.id.name) ∧
      ∀ f, e.idField? = some f → f.typeName ≠ "boolean" → f.name ≠ "deleted" →
        ∀ c ∈ p.bodyCalls "dto", c ∈ d.declared := by
  intro p
  obtain ⟨owner, hfound⟩ := Option.isSome_iff_exists.1 ((e.findField?_isSome "userId").trans hu)
  have howner : p.owner? = some owner := by
    unfold ServicePlan.owner? ServicePlan.fieldIf?
    rw [if_pos (show (s.forEntity e).withUserId = true from hu)]
    exact hfound
  have hname : owner.name = "userId" := name_of_fieldIf howner
  have hcalls := p.bodyCalls_eq hd howner
  obtain ⟨d, rest, hdtos, hkind, hfields⟩ : ∃ d rest, dtos e (s.forEntity e) none = d :: rest ∧ d.kind = .dto ∧
      d.fields = dtoFields e none := ⟨_, _, rfl, rfl, rfl⟩
  have hset : ⟨setter owner, true⟩ ∈ d.declared := by
    refine Dto.setter_declared ?_
    rw [hfields, mem_dtoFields, hname]
    exact ⟨mem_of_fieldIf howner, by decide⟩
  have hall : (∀ c ∈ p.bodyCalls "dto", c ∈ d.declared) ↔ p.id.typeName ≠ "boolean" ∧
      ∃ g ∈ d.fields, Name.upperFirst g.name = Name.upperFirst p.id.name := by
    rw [hcalls, ← Dto.declared_id_iff]
    simp [hset]
  refine ⟨owner, d, rest, hfound, hdtos, hkind, hcalls, fun c hc package => Dto.declaredIn hc package, hset, hall, ?_⟩
  intro f hf hboolean hdeleted
  have hid : p.id = f := by
    rw [ServicePlan.id, show p.entity.idField? = some f from hf, Option.getD_some]
  obtain ⟨i, -, hi⟩ := Option.bind_eq_some_iff.1 hf
  rw [hall, hid, hfields]
  exact ⟨hboolean, f, mem_dtoFields.2 ⟨List.mem_of_getElem? hi, hdeleted⟩, rfl⟩

/-- An entity with an owner whose id, if it has one, is the given field. -/
def orderEntity (id : Option Field) : Entity where
  name := "Order"
  package := "shop"
  annotations := ["Entity"]
  fields := id.toList ++ [{ name := "userId", typeName := "Long" }]

def orderPlan (id : Option Field) : ServicePlan :=
  let handle (name : String) : Handle := { name, package := "shop" }
  { entity := orderEntity id
    settings := Settings.forEntity {} (orderEntity id)
    deps := ⟨handle "OrderDTO", handle "OrderQuery", handle "OrderMapper", handle "OrderRepository",
      handle "OrderDao"⟩ }

def orderNumber : Field where
  name := "number"
  typeName := "long"
  isId := true

theorem service_accessors_declared_number :
    ∃ d rest, dtos (orderEntity (some orderNumber)) (orderPlan (some orderNumber)).settings none = d :: rest ∧
    (orderPlan (some orderNumber)).bodyCalls "dto" ≠ [] ∧
    ∀ c ∈ (orderPlan (some orderNumber)).bodyCalls "dto", c ∈ d.declared := by
  have hd : Distinct "dto" (orderPlan (some orderNumber)) :=
    { toUndotted := ⟨by decide, by decide, by decide, nofun⟩, id := by decide, stamp := nofun }
  obtain ⟨owner, d, rest, -, hdtos, -, hcalls, -, -, -, hall⟩ :=
    service_accessors_declared (orderEntity (some orderNumber)) {} (orderPlan (some orderNumber)).deps hd (by decide)
  exact ⟨d, rest, hdtos, hcalls ▸ List.cons_ne_nil _ _, hall orderNumber (by decide) (by decide) (by decide)⟩

def orderActive : Field where
  name := "active"
  typeName := "boolean"
  isId := true

/-- The service of an entity with an owner calls something on the data that the class of the data does not declare. -/
def CallsUndeclared (p : ServicePlan) : Prop :=
  p.entity.hasField "userId" = true ∧ ∃ c ∈ p.bodyCalls "dto",
    ∀ d rest, dtos p.entity p.settings none = d :: rest → c ∉ d.declared

/-- Where the entity has no id, the service sets one that the class of its data does not know. Where the id is a
primitive truth value, the service asks for it as one asks the entity, not as the class is asked. -/
theorem id_accessor_undeclared :
    CallsUndeclared (orderPlan none) ∧ CallsUndeclared (orderPlan (some orderActive)) := by
  have hnone : Distinct "dto" (orderPlan none) :=
    { toUndotted := ⟨by decide, by decide, by decide, nofun⟩, id := by decide, stamp := nofun }
  have hactive : Distinct "dto" (orderPlan (some orderActive)) :=
    { toUndotted := ⟨by decide, by decide, by decide, nofun⟩, id := by decide, stamp := nofun }
  refine ⟨⟨by decide, ⟨"setId", true⟩, ?_, ?_⟩, ⟨by decide, ⟨"isActive", false⟩, ?_, ?_⟩⟩
  · rw [ServicePlan.bodyCalls_eq hnone rfl]
    decide
  · rintro d rest hdtos
    cases hdtos
    decide
  · rw [ServicePlan.bodyCalls_eq hactive rfl]
    decide
  · rintro d rest hdtos
    cases hdtos
    decide

end Scaffold.Artifact
