import Scaffold.Proofs.Run.Simulation

/-! How directories are found and artifacts placed, on two stores that a simulation compares. -/

namespace Scaffold.Run

variable {σ τ α : Type}

namespace Planner

variable (p : Planner σ)

theorem registerSource?_apply (content path : String) (s : Session σ) :
    registerSource? content path s =
      match s.symbols.registerSource content (some path) with
      | .ok (hs, symbols) => (.ok (some hs), { s with symbols })
      | .error f =>
        match (Source.ReadFault.unreadable f).message? with
        | none => (.error (.unread f), s)
        | some reason => (.ok none, { s with log := s.log ++ [⟨.warning, "Cannot parse " ++ path
            ++ ", referencing it by name: " ++ reason⟩] }) := by
  unfold registerSource?
  simp only [Effect.bind_apply, Effect.get_apply]
  rcases s.symbols.registerSource content (some path) with f | ⟨hs, symbols⟩
  · dsimp only
    rcases (Source.ReadFault.unreadable f).message? with _ | reason <;> rfl
  · rfl

/-- What the registration of a placed artifact comes to: its class, the table, and what is said. -/
def registration (t : Template) (content path directory : String) (symbols : Symbols) :
    Except Failure Handle × Symbols × List LogLine :=
  let h := p.nameOnly t path directory
  match symbols.registerSource content (some path) with
  | .ok (hs, known) =>
    match hs.find? (·.name == t.name) with
    | some h => (.ok h, known, [])
    | none => (.ok h, known.register h,
        [⟨.warning, path ++ " does not declare " ++ t.name ++ "; referencing it by name"⟩])
  | .error f =>
    match (Source.ReadFault.unreadable f).message? with
    | none => (.error (.unread f), symbols, [])
    | some reason => (.ok h, symbols.register h,
        [⟨.warning, "Cannot parse " ++ path ++ ", referencing it by name: " ++ reason⟩])

theorem register_apply (t : Template) (content path directory : String) (s : Session σ) :
    p.register t content path directory s =
      ((p.registration t content path directory s.symbols).1,
        { s with
          symbols := (p.registration t content path directory s.symbols).2.1
          log := s.log ++ (p.registration t content path directory s.symbols).2.2 }) := by
  unfold register registration
  simp only [Effect.bind_apply, registerSource?_apply]
  rcases s.symbols.registerSource content (some path) with f | ⟨hs, known⟩
  · dsimp only
    rcases (Source.ReadFault.unreadable f).message? with _ | reason
    · simp only [List.append_nil]
    · rfl
  · dsimp only
    cases hs.find? fun x => x.name == t.name with
    | none => rfl
    | some h => simp only [List.append_nil, Effect.pure_apply]

theorem registration_name {t : Template} {content path directory : String} {symbols : Symbols}
    {h : Handle} (hr : (p.registration t content path directory symbols).1 = .ok h) :
    h.name = t.name := by
  unfold registration at hr
  rcases hsource : symbols.registerSource content (some path) with f | ⟨hs, known⟩
  · rw [hsource] at hr
    dsimp only at hr
    rcases hmessage : (Source.ReadFault.unreadable f).message? with _ | reason
    · rw [hmessage] at hr
      exact nomatch hr
    · rw [hmessage] at hr
      cases hr
      rfl
  · rw [hsource] at hr
    dsimp only at hr
    rcases hfind : hs.find? fun x => x.name == t.name with _ | k
    · rw [hfind] at hr
      cases hr
      rfl
    · rw [hfind] at hr
      cases hr
      have hname := List.find?_some hfind
      exact beq_iff_eq.1 hname

/-- Asks the store for the file of a template and takes note of what comes back. -/
def deposit (t : Template) (directory : String) : Step σ Store.Placed := do
  let placed ← p.store.createFile directory t.fileName t.content
  say .info ((if placed.created then "Created " else "Keeping existing ") ++ placed.path)
  setContext fun c => { c with products := c.products ++ [productOf t placed] }
  return placed

/-- Makes a placed artifact a class that later ones refer to. -/
def adopt (t : Template) (directory : String) (placed : Store.Placed) : Step σ (Option Handle) := do
  if isJava t then
    let h ← p.register t placed.content placed.path directory
    setHandle t.kind h
    return some h
  else return none

theorem place_eq (t : Template) (directory : String) :
    p.place t directory = p.deposit t directory >>= p.adopt t directory := by
  funext s
  unfold place deposit
  simp only [Effect.bind_apply]
  rcases p.store.createFile directory t.fileName t.content s with ⟨_ | placed, s'⟩ <;> rfl

theorem deposit_apply (t : Template) (directory : String) (s : Session σ) :
    p.deposit t directory s =
      match p.store.createFile directory t.fileName t.content s with
      | (.error f, s') => (.error f, s')
      | (.ok placed, s') => (.ok placed,
          { s' with
            log := s'.log ++ [⟨.info, (if placed.created then "Created " else "Keeping existing ")
              ++ placed.path⟩]
            context := { s'.context with
              products := s'.context.products ++ [productOf t placed] } }) := by
  unfold deposit
  simp only [Effect.bind_apply]
  rcases p.store.createFile directory t.fileName t.content s with ⟨_ | placed, s'⟩ <;> rfl

end Planner

namespace Simulation

open Comparison

variable {p : Planner σ} {T : Store (Session τ)} {e : Entity} {r : Nat} {F : Facts}
variable (S : Simulation p.layout e p.store T)

theorem follows_return (a : α) : S.Follows e r r F (pure a) (pure a) fun _ => {} :=
  .aside (fun _ _ => rfl) (fun _ => rfl) (fun _ => rfl)
    fun _ b h _ => ⟨h, fun _ _ => knows_empty b⟩

theorem follows_throw {V : α → Facts} (f : Failure) :
    S.Follows e r r F (throw f : Step σ α) (throw f) V :=
  .aside (fun _ _ => rfl) (fun _ => rfl) (fun _ => rfl) fun _ _ h _ => ⟨h, nofun⟩

theorem follows_pure {V : α → Facts} (a : α) (h : ∀ b, S.Knows b F → S.Knows b (V a)) :
    S.Follows e r r F (pure a) (pure a) V :=
  .aside (fun _ _ => rfl) (fun _ => rfl) (fun _ => rfl)
    fun _ b hb hF => ⟨hb, fun _ ha => by cases ha; exact h b hF⟩

theorem follows_setContext {change : Context → Context}
    (hp : ∀ c, (change c).products = c.products)
    (hc : ∀ c b, S.Fits b e c → S.Knows b F → S.Fits b e (change c)) :
    S.Follows e r r F (setContext change) (setContext change) fun _ => {} :=
  .aside (fun _ _ => rfl) (fun _ => rfl) (fun s => hp s.context)
    fun s b h hF => ⟨hc s.context b h hF, fun _ _ => knows_empty b⟩

/-- What a context says of an entity, and the directories that it gives. -/
def contextFacts (e : Entity) (c : Context) : Facts where
  dirs := c.dirs.container :: if c.dirs.service = "" then [] else [c.dirs.service]
  holds := c.entity = e

theorem follows_context :
    S.Follows e r r F context context (contextFacts e) := by
  refine .aside (fun _ _ => rfl) (fun _ => rfl) (fun _ => rfl) fun s b h _ => ⟨h, ?_⟩
  rintro c ⟨⟩
  refine ⟨h.entity, fun d hd => ?_⟩
  rcases List.mem_cons.1 hd with rfl | hd
  · exact h.container
  · by_cases hs : s.context.dirs.service = ""
    · rw [if_pos hs] at hd
      exact nomatch hd
    · rw [if_neg hs] at hd
      rw [List.mem_singleton.1 hd]
      exact h.service.resolve_left hs

theorem follows_setHandle {kind : ArtifactKind} {h : Handle}
    (hd : F.holds → kind = .dao → h.name = e.baseName ++ "Dao") :
    S.Follows e r r F (setHandle kind h) (setHandle kind h) fun _ => {} := by
  refine S.follows_setContext (fun _ => rfl) fun c b hc hF => ⟨hc.entity, hc.container, hc.service, ?_⟩
  intro k hk
  by_cases hkind : kind = .dao
  · subst hkind
    change (Entries.put _ _ _).lookup _ = _ at hk
    rw [Entries.lookup_put_self] at hk
    cases hk
    exact hd hF.1 rfl
  · change (Entries.put _ _ _).lookup _ = _ at hk
    rw [Entries.lookup_put_ne (Ne.symm hkind)] at hk
    exact hc.dao k hk

theorem follows_require (kind : ArtifactKind) :
    S.Follows e r r F (require kind) (require kind)
      fun h => ⟨[], kind = .dao → h.name = e.baseName ++ "Dao"⟩ := by
  refine .aside (fun s b => ?_) (fun s => ?_) (fun s => ?_) fun s b hs hF => ?_
  · rw [require_apply, require_apply]
    change (match s.context.handle? kind with | some h => _ | none => _) = _
    rcases s.context.handle? kind with _ | h <;> rfl
  · rw [require_apply]
    rcases s.context.handle? kind with _ | h <;> rfl
  · rw [require_apply]
    rcases s.context.handle? kind with _ | h <;> rfl
  · rw [require_apply]
    rcases hk : s.context.handle? kind with _ | h
    · exact ⟨hs, nofun⟩
    · refine ⟨hs, fun a ha => ?_⟩
      cases ha
      exact ⟨fun hd => hs.dao h (hd ▸ hk), nofun⟩

theorem follows_classWhere? (fits : Handle → Bool) (name : String) :
    S.Follows e r r F (classWhere? fits name) (classWhere? fits name) fun _ => {} :=
  .aside (fun _ _ => rfl) (fun _ => rfl) (fun _ => rfl)
    fun _ b h _ => ⟨h, fun _ _ => knows_empty b⟩

/-- Sessions whose stores are related stay so when what was done leaves the context alone. -/
theorem related_of_context {s t : Session σ} {b c : τ} (hb : S.Related e r s b) (hg : S.Grows b c)
    (hv : S.verdict t.store = .agree) (hc : t.context = s.context)
    (hh : S.holds t.store s.context.products c) : S.Related e r t c := by
  refine ⟨hv, ?_, ?_, ?_⟩
  · rw [hc]
    exact hh
  · rw [hc]
    exact hb.fits.grow hg
  · rw [hc]
    exact hb.ranks

theorem follows_subdir {parent name : String} (hp : parent ∈ F.dirs) (hn : name ∈ directoryNames) :
    S.Follows e r r F (p.subdir parent name) ((p.on T).subdir parent name) Facts.dir := by
  intro s b
  cases hdir : p.store.isDir s (Store.join parent name) with
  | true =>
    rw [p.subdir_of_isDir hdir]
    refine ⟨.refl _, fun hb hF => .of_agree ⟨b, ?_, .refl b, hb, ?_⟩ hb.agree⟩
    · exact (p.on T).subdir_of_isDir ((S.isDir hb.holds (hF.2 parent hp) hn).trans hdir)
    · rintro d ⟨⟩
      exact knows_dir (S.found hb.holds (hF.2 parent hp) hn hdir)
  | false =>
    rw [p.subdir_of_missing hdir]
    have hsettled := S.makeDir_settled (Store.join parent name) s
    have hcontext := S.steady.makeDir (Store.join parent name) s
    have hparts := S.makeDir_parts (Store.join parent name) s
    have hmake (hb : S.Related e r s b) (hF : S.Knows b F) :=
      S.makeDir hb.agree hb.holds (hF.2 parent hp) hn hdir
    have hright (hb : S.Related e r s b) (hF : S.Knows b F) :=
      (p.on T).subdir_of_missing ((S.isDir hb.holds (hF.2 parent hp) hn).trans hdir)
    -- Making a directory leaves no part of the work to the right side.
    rcases hx : p.store.makeDir (Store.join parent name) s with ⟨f | u, t⟩
    · rw [hx] at hsettled hcontext hparts hmake
      dsimp only at hsettled hcontext hparts hmake ⊢
      by_cases ho : f.origin = .store
      · rw [if_pos ho]
        refine ⟨hsettled, fun hb hF => .of_whole (fun g t' => hparts g t' hb.agree) fun hv => ?_⟩
        obtain ⟨c, hT, hg, hh, -⟩ := (hmake hb hF).agrees hv
        refine ⟨c, ?_, hg, S.related_of_context hb hg hv hcontext hh, ?_⟩
        · rw [hright hb hF, show (p.on T).store.makeDir _ _ = _ from hT]
          dsimp only
          rw [if_pos ho]
          rfl
        · rintro d ⟨⟩
          exact knows_dir (hg _ (hF.2 parent hp))
      · rw [if_neg ho]
        refine ⟨hsettled, fun hb hF => .of_whole (fun g t' => hparts g t' hb.agree) fun hv => ?_⟩
        obtain ⟨c, hT, hg, hh, -⟩ := (hmake hb hF).agrees hv
        refine ⟨c, ?_, hg, S.related_of_context hb hg hv hcontext hh, nofun⟩
        rw [hright hb hF, show (p.on T).store.makeDir _ _ = _ from hT]
        dsimp only
        rw [if_neg ho]
    · rw [hx] at hsettled hcontext hparts hmake
      refine ⟨hsettled, fun hb hF => .of_whole (fun g t' => hparts g t' hb.agree) fun hv => ?_⟩
      obtain ⟨c, hT, hg, hh, hk⟩ := (hmake hb hF).agrees hv
      refine ⟨c, ?_, hg, S.related_of_context hb hg hv hcontext hh, ?_⟩
      · rw [hright hb hF, show (p.on T).store.makeDir _ _ = _ from hT]
      · rintro d ⟨⟩
        exact knows_dir (hk u rfl)

theorem known_serviceBase {a : σ} {ps : List Product} {b : τ} {container : String}
    (hh : S.holds a ps b) (hc : S.known b container) : S.known b (p.serviceBase container) := by
  unfold Planner.serviceBase
  rcases hp : p.layout.parent? container with _ | parent
  · exact hc
  · have hparent := S.above hh hc hp
    dsimp only
    rcases hq : p.layout.parent? parent with _ | above
    · exact hparent
    · exact S.above hh hparent hq

theorem follows_serviceDir :
    S.Follows e r r F p.serviceDir (p.on T).serviceDir Facts.dir := by
  unfold Planner.serviceDir
  refine .bind S.follows_context (fun c => ?_) (Nat.le_refl r)
  dsimp only
  by_cases h : (c.dirs.service != "") = true
  · rw [if_pos h, if_pos h]
    refine S.follows_pure _ fun b hb => knows_dir (hb.2 _ (Facts.mem_and.2 (.inr ?_)))
    refine List.mem_cons_of_mem _ ?_
    rw [if_neg (bne_iff_ne.1 h)]
    exact List.mem_singleton_self _
  · rw [if_neg h, if_neg h]
    refine .bind S.follows_context (fun x => ?_) (Nat.le_refl r)
    refine .learn (.dir (p.serviceBase x.dirs.container)) (fun s b hs hb => ?_) ?_
    · exact knows_dir (S.known_serviceBase hs.holds (hb.2 _ (Facts.mem_and.2 (.inr List.mem_cons_self))))
    · refine .bind (S.follows_subdir (by simp) (by decide)) (fun d => ?_) (Nat.le_refl r)
      refine .bind (S.follows_setContext (fun _ => rfl) fun c b hc hb => ?_) (fun _ => ?_)
        (Nat.le_refl r)
      · exact ⟨hc.entity, hc.container, .inr (hb.2 d (by simp)), hc.dao⟩
      · exact S.follows_pure d fun b hb => knows_dir (hb.2 d (by simp))

theorem follows_belowService {name : String} (hn : name ∈ directoryNames) :
    S.Follows e r r F (p.belowService name) ((p.on T).belowService name) Facts.dir :=
  .bind S.follows_serviceDir (fun _ => S.follows_subdir (by simp) hn) (Nat.le_refl r)

theorem follows_besideContainer {name : String} (hn : name ∈ directoryNames) :
    S.Follows e r r F (p.besideContainer name) ((p.on T).besideContainer name) Facts.dir := by
  unfold Planner.besideContainer
  refine .bind S.follows_context (fun c => ?_) (Nat.le_refl r)
  have hcontainer : c.dirs.container ∈ (F.and (contextFacts e c)).dirs :=
    Facts.mem_and.2 (.inr List.mem_cons_self)
  change S.Follows e r r _ _ (match p.layout.parent? c.dirs.container with
    | none => _
    | some parent => (p.on T).subdir parent name) _
  dsimp only
  rcases hp : p.layout.parent? c.dirs.container with _ | parent
  · exact S.follows_pure _ fun b hb => knows_dir (hb.2 _ hcontainer)
  · refine .learn (.dir parent) (fun s b hs hb => ?_) ?_
    · exact knows_dir (S.above hs.holds (hb.2 _ hcontainer) hp)
    · exact S.follows_subdir (by simp) hn

theorem findSubdir?_on {s : Session σ} {b : τ} {parent name : String}
    (hh : S.holds s.store s.context.products b) (hp : S.known b parent) (hn : name ∈ directoryNames) :
    T.findSubdir? (s.on b) parent name = p.store.findSubdir? s parent name := by
  unfold Store.findSubdir?
  dsimp only
  rw [S.isDir hh hp hn]

theorem known_findSubdir? {s : Session σ} {b : τ} {parent name d : String}
    (hh : S.holds s.store s.context.products b) (hp : S.known b parent) (hn : name ∈ directoryNames)
    (h : p.store.findSubdir? s parent name = some d) : S.known b d := by
  unfold Store.findSubdir? at h
  dsimp only at h
  by_cases hd : p.store.isDir s (Store.join parent name) = true
  · rw [if_pos hd] at h
    cases h
    exact S.found hh hp hn hd
  · rw [if_neg hd] at h
    exact nomatch h

theorem controllerDir?_on {s : Session σ} {b : τ} {parent : String}
    (hh : S.holds s.store s.context.products b) (hp : S.known b parent) :
    (p.on T).controllerDir? (s.on b) parent = p.controllerDir? s parent ∧
      ∀ d, p.controllerDir? s parent = some d → S.known b d := by
  have hcontroller : T.findSubdir? (s.on b) parent "controller" = _ :=
    S.findSubdir?_on hh hp (by decide)
  have hweb : T.findSubdir? (s.on b) parent "web" = _ := S.findSubdir?_on hh hp (by decide)
  change (T.findSubdir? (s.on b) parent "controller").or
    ((T.findSubdir? (s.on b) parent "web").map fun w => (T.findSubdir? (s.on b) w "rest").getD w) = _ ∧ _
  unfold Planner.controllerDir?
  rw [hcontroller, hweb]
  rcases hc : p.store.findSubdir? s parent "controller" with _ | c
  · rcases hw : p.store.findSubdir? s parent "web" with _ | w
    · exact ⟨rfl, nofun⟩
    · have hknown : S.known b w := S.known_findSubdir? hh hp (by decide) hw
      have hrest : T.findSubdir? (s.on b) w "rest" = _ := S.findSubdir?_on hh hknown (by decide)
      simp only [Option.none_or, Option.map_some, hrest, true_and]
      rintro d ⟨⟩
      rcases hr : p.store.findSubdir? s w "rest" with _ | x
      · exact hknown
      · exact S.known_findSubdir? hh hknown (by decide) hr
  · refine ⟨rfl, ?_⟩
    rintro d ⟨⟩
    exact S.known_findSubdir? hh hp (by decide) hc

theorem known_controllerParent {a : σ} {ps : List Product} {b : τ} {service : String}
    (hh : S.holds a ps b) (hs : S.known b service) :
    S.known b ((p.layout.parent? service).getD p.layout.javaRoot) := by
  rcases hp : p.layout.parent? service with _ | parent
  · exact (S.roots hh).1
  · exact S.above hh hs hp

theorem follows_controllerDirBelow {parent : String} (hp : parent ∈ F.dirs) :
    S.Follows e r r F
      (get >>= fun s => match p.controllerDir? s parent with
        | some d => pure d
        | none => p.subdir parent "controller")
      (get >>= fun s => match (p.on T).controllerDir? s parent with
        | some d => pure d
        | none => (p.on T).subdir parent "controller") Facts.dir := by
  intro s b
  rw [Effect.bind_apply, Effect.get_apply, Effect.bind_apply, Effect.get_apply]
  dsimp only
  cases hd : p.controllerDir? s parent with
  | some d =>
    refine ⟨.refl _, fun hb hF => .of_agree ⟨b, ?_, .refl b, hb, ?_⟩ hb.agree⟩
    · rw [(S.controllerDir?_on hb.holds (hF.2 parent hp)).1, hd]
      rfl
    · rintro x ⟨⟩
      exact knows_dir ((S.controllerDir?_on hb.holds (hF.2 parent hp)).2 d hd)
  | none =>
    obtain ⟨hsettled, hout⟩ := S.follows_subdir hp (by decide : "controller" ∈ directoryNames) s b
    refine ⟨hsettled, fun hb hF => ?_⟩
    rw [(S.controllerDir?_on hb.holds (hF.2 parent hp)).1, hd]
    exact hout hb hF

theorem follows_controllerDir :
    S.Follows e r r F p.controllerDir (p.on T).controllerDir Facts.dir := by
  unfold Planner.controllerDir
  refine .bind S.follows_serviceDir (fun service => ?_) (Nat.le_refl r)
  refine .learn (.dir ((p.layout.parent? service).getD p.layout.javaRoot)) (fun s b hs hb => ?_) ?_
  · exact knows_dir (S.known_controllerParent hs.holds (hb.2 _ (by simp)))
  · exact S.follows_controllerDirBelow (by simp)

theorem createFile_settled (directory name content : String) (s : Session σ) :
    S.Settled s.store (p.store.createFile directory name content s).2.store :=
  Store.createFile_keeps (R := fun s t : Session σ => S.Settled s.store t.store) (fun _ => .refl _)
    (fun h k => h.trans k) S.makeDir_settled S.write_settled _ _ _ s

include S in
theorem createFile_context (directory name content : String) (s : Session σ) :
    (p.store.createFile directory name content s).2.context = s.context :=
  Store.createFile_keeps (R := fun s t : Session σ => t.context = s.context) (fun _ => rfl)
    (fun h k => k.trans h) S.steady.makeDir S.steady.write _ _ _ s

theorem follows_deposit {t : Template} {directory : String} (hd : directory ∈ F.dirs)
    (ht : F.holds → Artifact.Belongs p.layout e t directory) (hr : r ≤ t.kind.rank) :
    S.Follows e r (t.kind.rank + 1) F (p.deposit t directory) ((p.on T).deposit t directory)
      fun _ => {} := by
  intro s b
  have hsettled := S.createFile_settled directory t.fileName t.content s
  have hcontext := S.createFile_context directory t.fileName t.content s
  have hcreate (hb : S.Related e r s b) (hF : S.Knows b F) := S.createFile hb.agree hb.holds
    (hF.2 directory hd) (ht hF.1) fun a ha => Nat.lt_of_lt_of_le (hb.ranks a ha) hr
  rw [Planner.deposit_apply, Planner.deposit_apply]
  rcases hx : p.store.createFile directory t.fileName t.content s with ⟨f | placed, u⟩
  · rw [hx] at hsettled hcontext hcreate
    refine ⟨hsettled, fun hb hF => (hcreate hb hF).andThen rfl (fun g t' hT => ?_) fun hv c hT ⟨hg, hh⟩ => ?_⟩
    · rw [show (p.on T).store.createFile _ _ _ _ = _ from hT]
    · refine ⟨c, ?_, hg, ?_, nofun⟩
      · rw [show (p.on T).store.createFile _ _ _ _ = _ from hT]
      · refine S.related_of_context (hb.mono (Nat.le_succ_of_le hr)) hg hv hcontext ?_
        simpa only [gained, List.append_nil] using hh
  · rw [hx] at hsettled hcontext hcreate
    refine ⟨hsettled, fun hb hF => (hcreate hb hF).andThen rfl (fun g t' hT => ?_) fun hv c hT ⟨hg, hh⟩ => ?_⟩
    · rw [show (p.on T).store.createFile _ _ _ _ = _ from hT]
    · refine ⟨c, ?_, hg, ⟨hv, ?_, ?_, ?_⟩, fun _ _ => knows_empty c⟩
      · rw [show (p.on T).store.createFile _ _ _ _ = _ from hT]
        rfl
      · dsimp only
        rw [hcontext]
        exact hh
      · have hfits := hb.fits.grow hg
        rw [← hcontext] at hfits
        exact ⟨hfits.entity, hfits.container, hfits.service, hfits.dao⟩
      · intro a ha
        dsimp only at ha
        rw [hcontext] at ha
        rcases List.mem_append.1 ha with ha | ha
        · exact Nat.lt_succ_of_lt (Nat.lt_of_lt_of_le (hb.ranks a ha) hr)
        · rw [List.mem_singleton.1 ha]
          exact Nat.lt_succ_self _

theorem follows_register (t : Template) (content path directory : String) :
    S.Follows e r r F (p.register t content path directory)
      ((p.on T).register t content path directory) fun h => ⟨[], h.name = t.name⟩ := by
  refine .aside (fun s b => ?_) (fun s => ?_) (fun s => ?_) fun s b hs _ => ?_
  · rw [Planner.register_apply, Planner.register_apply]
    rfl
  · rw [Planner.register_apply]
  · rw [Planner.register_apply]
  · rw [Planner.register_apply]
    exact ⟨hs, fun h hh => ⟨p.registration_name hh, nofun⟩⟩

theorem follows_adopt {t : Template} {directory : String}
    (ht : F.holds → Artifact.Belongs p.layout e t directory) (placed : Store.Placed) :
    S.Follows e r r F (p.adopt t directory placed) ((p.on T).adopt t directory placed)
      fun h => ⟨[], ∀ k, h = some k → k.name = t.name⟩ := by
  unfold Planner.adopt
  by_cases hj : Planner.isJava t = true
  · rw [if_pos hj, if_pos hj]
    refine .bind (S.follows_register t _ _ _) (fun h => ?_) (Nat.le_refl r)
    refine .bind (S.follows_setHandle fun hF hk => ?_) (fun _ => ?_) (Nat.le_refl r)
    · exact hF.2.trans ((ht hF.1).dao_name hk)
    · refine S.follows_pure _ fun b hb => ⟨?_, nofun⟩
      rintro k ⟨⟩
      exact hb.1.1.2
  · rw [if_neg hj, if_neg hj]
    exact S.follows_pure _ fun b _ => ⟨nofun, nofun⟩

/-- Placing a template takes its kind, whose rank none before has reached. -/
theorem follows_place {t : Template} {directory : String} (hd : directory ∈ F.dirs)
    (ht : F.holds → Artifact.Belongs p.layout e t directory) (hr : r ≤ t.kind.rank) :
    S.Follows e r (t.kind.rank + 1) F (p.place t directory) ((p.on T).place t directory)
      fun h => ⟨[], ∀ k, h = some k → k.name = t.name⟩ := by
  rw [Planner.place_eq, Planner.place_eq]
  refine .bind (S.follows_deposit hd ht hr) (fun placed => S.follows_adopt ?_ placed) (Nat.le_refl _)
  exact fun h => ht h.1

theorem follows_placeClass {t : Template} {directory : String} (hd : directory ∈ F.dirs)
    (ht : F.holds → Artifact.Belongs p.layout e t directory) (hr : r ≤ t.kind.rank) :
    S.Follows e r (t.kind.rank + 1) F (p.placeClass t directory) ((p.on T).placeClass t directory)
      fun h => ⟨[], h.name = t.name⟩ := by
  refine .bind (S.follows_place hd ht hr) (fun h => ?_) (Nat.le_refl _)
  cases h with
  | none => exact S.follows_throw _
  | some h => exact S.follows_pure h fun b hb => ⟨hb.1.2 h rfl, nofun⟩

theorem follows_placeFile {t : Template} {directory : String} (hd : directory ∈ F.dirs)
    (ht : F.holds → Artifact.Belongs p.layout e t directory) (hr : r ≤ t.kind.rank) :
    S.Follows e r (t.kind.rank + 1) F (p.placeFile t directory) ((p.on T).placeFile t directory)
      fun _ => {} :=
  .bind (S.follows_place hd ht hr) (fun _ => .bind S.follows_context
    (fun _ => S.follows_return _) (Nat.le_refl _)) (Nat.le_refl _)

theorem follows_findOrPlace {fits : Handle → Bool} {kind : ArtifactKind} {name directory : String}
    {template : String → Template} (hd : directory ∈ F.dirs) (hk : kind ≠ .dao)
    (ht : Artifact.Belongs p.layout e (template (p.layout.packageOf directory)) directory)
    (hr : r ≤ (template (p.layout.packageOf directory)).kind.rank) :
    S.Follows e r ((template (p.layout.packageOf directory)).kind.rank + 1) F
      (p.findOrPlace fits kind name directory template)
      ((p.on T).findOrPlace fits kind name directory template) fun _ => {} := by
  refine .bind (S.follows_classWhere? fits name) (fun known => ?_) (Nat.le_succ_of_le hr)
  cases known with
  | some h =>
    refine .bind (S.follows_return h) (fun h => ?_) (Nat.le_succ_of_le hr)
    refine .bind (S.follows_setHandle fun _ hkind => absurd hkind hk) (fun _ => ?_)
      (Nat.le_succ_of_le hr)
    exact (S.follows_return h).mono (Nat.le_refl r) (Nat.le_succ_of_le hr) fun _ h => h
  | none =>
    refine .bind (S.follows_placeClass (Facts.mem_and.2 (.inl hd)) (fun _ => ht) hr) (fun h => ?_)
      (Nat.le_refl _)
    exact .bind (S.follows_setHandle fun _ hkind => absurd hkind hk)
      (fun _ => S.follows_return h) (Nat.le_refl _)

end Simulation

end Scaffold.Run
