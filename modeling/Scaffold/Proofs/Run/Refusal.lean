import Scaffold.Proofs.Run.Journal

/-! Runs in which writing is refused at some paths. Such a run is the one without refusals, up to the first
write that they turn down. -/

namespace Scaffold.Run

open Store (Memory)

variable {σ τ : Type}

/-- How a run ends that is refused this request: with the reason, in the session before it. -/
def Event.stop? (refuses : String → Option String) (ev : Event σ) : Option (Failure × Session σ) :=
  match ev.request with
  | .makeDir _ => none
  | .write path _ => (refuses path).map fun reason => (.refused reason, ev.before)

theorem Event.stop?_eq_none_iff {refuses : String → Option String} {ev : Event σ} :
    ev.stop? refuses = none ↔
      ∀ path content, ev.request = .write path content → refuses path = none := by
  unfold stop?
  rcases ev.request with path | ⟨path, content⟩
  · exact ⟨fun _ _ _ => nofun, fun _ => rfl⟩
  · dsimp only
    rw [Option.map_eq_none_iff]
    refine ⟨fun h path' content' heq => ?_, fun h => h path content rfl⟩
    cases heq
    exact h

def firstStop (refuses : String → Option String) (events : List (Event σ)) : Verdict σ :=
  match events.findSome? (Event.stop? refuses) with
  | none => .agree
  | some (f, t) => .part f t

section FirstStop

variable {refuses : String → Option String} {events : List (Event σ)}

theorem firstStop_agree_iff :
    firstStop refuses events = .agree ↔ ∀ ev ∈ events, ev.stop? refuses = none := by
  unfold firstStop
  rw [← List.findSome?_eq_none_iff]
  rcases events.findSome? (Event.stop? refuses) with _ | ⟨f, t⟩
  · exact ⟨fun _ => rfl, fun _ => rfl⟩
  · exact ⟨nofun, nofun⟩

theorem firstStop_append (more : List (Event σ)) :
    firstStop refuses events = .agree ∨
      firstStop refuses (events ++ more) = firstStop refuses events := by
  unfold firstStop
  rw [List.findSome?_append]
  rcases events.findSome? (Event.stop? refuses) with _ | ⟨f, t⟩
  · exact .inl rfl
  · exact .inr rfl

theorem firstStop_append_one (h : firstStop refuses events = .agree) (ev : Event σ) :
    firstStop refuses (events ++ [ev]) = match ev.stop? refuses with
      | none => .agree
      | some (f, t) => .part f t := by
  have hnone := List.findSome?_eq_none_iff.2 (firstStop_agree_iff.1 h)
  unfold firstStop
  rw [List.findSome?_append, hnone, Option.none_or, List.findSome?_singleton]

theorem firstStop_append_makeDirs (h : firstStop refuses events = .agree) {more : List (Event σ)}
    (hmore : ∀ ev ∈ more, ∃ path, ev.request = .makeDir path) :
    firstStop refuses (events ++ more) = .agree := by
  refine firstStop_agree_iff.2 fun ev hev => ?_
  rcases List.mem_append.1 hev with hev | hev
  · exact firstStop_agree_iff.1 h ev hev
  · obtain ⟨path, hpath⟩ := hmore ev hev
    unfold Event.stop?
    rw [hpath]

theorem firstStop_part {f : Failure} {t : Session σ} (h : firstStop refuses events = .part f t) :
    ∃ earlier ev later path content reason, events = earlier ++ ev :: later ∧
      (∀ x ∈ earlier, x.stop? refuses = none) ∧ ev.request = .write path content ∧
      refuses path = some reason ∧ f = .refused reason ∧ t = ev.before := by
  unfold firstStop at h
  rcases hfind : events.findSome? (Event.stop? refuses) with _ | ⟨g, u⟩
  · rw [hfind] at h
    exact nomatch h
  · rw [hfind] at h
    cases h
    obtain ⟨earlier, ev, later, hsplit, hev, hearlier⟩ := List.findSome?_eq_some_iff.1 hfind
    refine ⟨earlier, ev, later, ?_⟩
    unfold Event.stop? at hev
    rcases hrequest : ev.request with path | ⟨path, content⟩
    · rw [hrequest] at hev
      exact nomatch hev
    · rw [hrequest] at hev
      obtain ⟨reason, hreason, hpair⟩ := Option.map_eq_some_iff.1 hev
      cases hpair
      exact ⟨path, content, reason, hsplit, hearlier, rfl, hreason, rfl, rfl⟩

/-- The first request to write that is turned down decides. -/
theorem firstStop_of_split {earlier : List (Event σ)} {ev : Event σ} {path content reason : String}
    (hearlier : ∀ x ∈ earlier, x.stop? refuses = none) (later : List (Event σ))
    (hev : ev.request = .write path content) (hreason : refuses path = some reason) :
    firstStop refuses (earlier ++ ev :: later) = .part (.refused reason) ev.before := by
  have hstop : ev.stop? refuses = some (.refused reason, ev.before) := by
    unfold Event.stop?
    rw [hev]
    exact congrArg (Option.map _) hreason
  unfold firstStop
  rw [List.findSome?_append, List.findSome?_eq_none_iff.2 hearlier, Option.none_or, List.findSome?_cons,
    hstop]

end FirstStop

section Simulation

variable {S : Store (Session σ)} (refuses : String → Option String)

theorem refusing_write_apply (path content : String) (s : Session σ) :
    (S.refusing { write := refuses }).write path content s = match refuses path with
      | some reason => (.error (.refused reason), s)
      | none => S.write path content s := by
  change (match refuses path with | some reason => _ | none => _ : Step σ Unit) s = _
  rcases refuses path with _ | reason <;> rfl

/-- What the two comparisons say of a file at a path where nothing is. -/
theorem createFile_refusing {s : Session (Journaled σ)} (directory name content : String)
    (h : firstStop refuses s.store.events = .agree) :
    match firstStop refuses ((journaling S).createFile directory name content s).2.store.events with
    | .agree => (S.refusing { write := refuses }).createFile directory name content s.plain =
        (((journaling S).createFile directory name content s).1,
          ((journaling S).createFile directory name content s).2.plain)
    | .part f t => (S.refusing { write := refuses }).createFile directory name content s.plain =
        (.error f, t)
    | .void => False := by
  have hread : (journaling S).read s (Store.join directory name) =
    S.read s.plain (Store.join directory name) := rfl
  have hread' : (S.refusing { write := refuses }).read s.plain (Store.join directory name) =
    S.read s.plain (Store.join directory name) := rfl
  rcases hr : S.read s.plain (Store.join directory name) with _ | held
  · rw [Store.createFile_of_absent (hread.trans hr), Store.createFile_of_absent (hread'.trans hr)]
    obtain ⟨events, hevents, hprepare⟩ := Journaled.prepare_apply (S := S) directory s
    have hsame := firstStop_append_makeDirs h fun ev hev => (hevents ev hev).2
    rw [hprepare, show (S.refusing { write := refuses }).prepare directory s.plain =
      S.prepare directory s.plain from rfl]
    rcases S.prepare directory s.plain with ⟨f | _, u⟩
    · dsimp only
      rw [Session.journal_events, hsame]
      rfl
    · dsimp only
      rw [Journaled.write_apply, refusing_write_apply]
      have hone := fun failure => firstStop_append_one hsame (Event.mk
        (.write (Store.join directory name) (Store.normalize content)) u failure)
      unfold Event.stop? at hone
      dsimp only at hone
      rcases hx : refuses (Store.join directory name) with _ | reason
      · rw [hx] at hone
        rcases S.write (Store.join directory name) (Store.normalize content) u with ⟨g | _, v⟩
        · dsimp only
          rw [Session.journal_events, hone]
          rfl
        · dsimp only
          rw [Session.journal_events, hone]
          rfl
      · rw [hx] at hone
        rcases S.write (Store.join directory name) (Store.normalize content) u with ⟨g | _, v⟩
        · dsimp only
          rw [Session.journal_events, hone]
          rfl
        · dsimp only
          rw [Session.journal_events, hone]
          rfl
  · rw [Store.createFile_of_read (hread.trans hr), Store.createFile_of_read (hread'.trans hr)]
    dsimp only
    rw [h]

/-- A run with a journal beside the run that is refused some of its writes. -/
def refusalSimulation (hS : Steady S) (l : Layout) (e : Entity) :
    Simulation l e (journaling S) (S.refusing { write := refuses }) where
  holds a _ b := a.store = b
  known _ _ := True
  verdict a := firstStop refuses a.events
  roots _ := ⟨trivial, trivial, trivial⟩
  above _ _ _ := trivial
  isDir := by
    rintro s b d name rfl - -
    rfl
  found _ _ _ _ := trivial
  steady := ⟨fun path s => hS.makeDir path s.plain, fun path content s => hS.write path content s.plain⟩
  makeDir_settled _ _ := firstStop_append _
  write_settled _ _ _ := firstStop_append _
  makeDir_parts path s f t h := by
    have hsame := firstStop_append_one h ⟨.makeDir path, s.plain, failureOf (S.makeDir path s.plain).1⟩
    exact fun hpart => nomatch hsame.symm.trans hpart
  makeDir := by
    rintro s b d name h rfl - - -
    have hsame := firstStop_append_one h ⟨.makeDir (Store.join d name), s.plain,
      failureOf (S.makeDir (Store.join d name) s.plain).1⟩
    exact .of_agree ⟨_, rfl, fun _ _ => trivial, rfl, fun _ _ => trivial⟩ hsame
  createFile := by
    rintro s b t d h rfl - - -
    have hcreate := createFile_refusing (S := S) refuses d t.fileName t.content h
    rcases hv : firstStop refuses
        ((journaling S).createFile d t.fileName t.content s).2.store.events with _ | ⟨f, u⟩ | _
    · rw [hv] at hcreate
      exact .of_agree ⟨_, hcreate, fun _ _ => trivial, rfl⟩ hv
    · rw [hv] at hcreate
      exact .of_part hcreate hv
    · exact .of_void hv

end Simulation

/-- An artifact that needs no write, or one that is not turned down. -/
def Product.passes (refuses : String → Option String) (a : Product) : Bool :=
  !(a.created && (refuses a.path).isSome)

section Chronicle

variable {S : Store (Session σ)} {refuses : String → Option String} {events : List (Event σ)}
variable {ps : List Product}

/-- Artifacts pass whose writes were not turned down. -/
theorem passes_of_writes (h : events.filterMap Event.written? = createdFiles ps)
    (hnone : ∀ ev ∈ events, ev.stop? refuses = none) {a : Product} (ha : a ∈ ps) :
    a.passes refuses = true := by
  unfold Product.passes
  cases hc : a.created with
  | false => rfl
  | true =>
    have hmem : (a.path, a.content) ∈ createdFiles ps :=
      List.mem_map_of_mem (f := fun a : Product => (a.path, a.content)) (List.mem_filter.2 ⟨ha, hc⟩)
    rw [← h] at hmem
    obtain ⟨ev, hev, hwritten⟩ := List.mem_filterMap.1 hmem
    have hstop := hnone ev hev
    unfold Event.written? at hwritten
    unfold Event.stop? at hstop
    rcases hrequest : ev.request with path | ⟨path, content⟩
    · rw [hrequest] at hwritten
      exact nomatch hwritten
    · rw [hrequest] at hwritten hstop
      rcases hfailure : ev.failure with _ | f
      · rw [hfailure] at hwritten
        obtain ⟨rfl, -⟩ := Prod.mk.inj (Option.some.inj hwritten)
        rw [Option.map_eq_none_iff.1 hstop]
        rfl
      · rw [hfailure] at hwritten
        exact nomatch hwritten

theorem Chronicle.written (h : Chronicle S events ps)
    (hw : ∀ path content s, (S.write path content s).1 = .ok ()) {ev : Event σ} (hev : ev ∈ events)
    {path content : String} (hrequest : ev.request = .write path content) :
    ev.written? = some (path, content) := by
  have hhonest := h.honest ev hev
  unfold Event.Honest at hhonest
  rw [hrequest] at hhonest
  unfold Event.written?
  rw [hrequest, hhonest, show (Request.ask S (.write path content) ev.before).1 = _ from hw path content _]
  rfl

/-- The artifacts before the first one whose write is turned down. -/
theorem Chronicle.takeWhile (h : Chronicle S events ps)
    (hw : ∀ path content s, (S.write path content s).1 = .ok ()) {earlier later : List (Event σ)}
    {ev : Event σ} {path content reason : String} (hsplit : events = earlier ++ ev :: later)
    (hnone : ∀ x ∈ earlier, x.stop? refuses = none) (hrequest : ev.request = .write path content)
    (hreason : refuses path = some reason) :
    ev.before.context.products = ps.takeWhile (Product.passes refuses) ∧
      ∃ a rest, ps = ev.before.context.products ++ a :: rest ∧ a.created = true ∧ a.path = path := by
  have hwritten := h.written hw (by rw [hsplit]; simp) hrequest
  obtain ⟨hfiles, a, rest, hps, hc, hentry⟩ := h.moments earlier ev later _ hsplit hwritten
  obtain ⟨rfl, -⟩ := Prod.mk.inj hentry
  refine ⟨?_, a, rest, hps, hc, rfl⟩
  have hrefused : ¬a.passes refuses = true := by
    unfold Product.passes
    rw [hc, hreason]
    exact nofun
  rw [hps, List.takeWhile_append_of_pos fun b hb => passes_of_writes hfiles.symm hnone hb,
    List.takeWhile_cons_of_neg hrefused, List.append_nil]

end Chronicle

theorem memoryPlanner_refusing (l : Layout) (settings : Settings) (blocked refuses : String → Option String) :
    memoryPlanner l settings { makeDir := blocked, write := refuses } =
      (memoryPlanner l settings { makeDir := blocked }).on
        ((memoryPlanner l settings { makeDir := blocked }).store.refusing { write := refuses }) := by
  have hwrite : (inSession (Memory.store.refusing { makeDir := blocked, write := refuses })).write =
      ((inSession (Memory.store.refusing { makeDir := blocked })).refusing { write := refuses }).write := by
    funext path content s
    rw [refusing_write_apply]
    change onStore (match refuses path with | some reason => _ | none => _) s = _
    rcases refuses path with _ | reason <;> rfl
  exact congrArg (fun write => Planner.mk l settings
    { inSession (Memory.store.refusing { makeDir := blocked }) with write }) hwrite

/-- How a run ends that is refused the write of an artifact: `all` are the artifacts of the run without
refusals, and `ev` is its request to write that one. -/
structure Interrupted (p : Planner Memory) (refuses : String → Option String) (start : Session Memory)
    (all : List Product) (ev : Event Memory) (path reason : String) (r : Result) (t : Session Memory) :
    Prop where
  status : r.status = .aborted
  products : r.products = all.takeWhile (Product.passes refuses)
  next : ∃ a rest, all = r.products ++ a :: rest ∧ a.created = true ∧ a.path = path
  files : t.store.files = start.store.files ++ createdFiles r.products
  symbols : t.symbols = ev.before.symbols
  error : r.error = some reason
  stage : ∃ done stage later, stages p.settings = done ++ stage :: later ∧ r.failedStage = some stage ∧
    (p.through done start).2.context.products <+: r.products ∧
    (p.through (done ++ [stage]) start).2.context.products <+: all ∧
    r.products.length < (p.through (done ++ [stage]) start).2.context.products.length

section Run

variable {p : Planner σ} {refuses : String → Option String} {e : Entity} {directory : String}
variable {s : Session σ}

theorem related_refusal_started (hS : Steady p.store) :
    (refusalSimulation refuses hS p.layout e).Related e 0
      ((p.on (journaling p.store)).started e directory (s.journal [])) s.store :=
  Simulation.related_started (p := p.on (journaling p.store)) (refusalSimulation refuses hS p.layout e) rfl
    rfl trivial

theorem run_refusing_agrees (hS : Steady p.store) (hs : s.busy = false) (he : e.isEntity = true)
    (h : firstStop refuses
      ((p.on (journaling p.store)).run e directory (s.journal [])).2.store.events = .agree) :
    (p.on (p.store.refusing { write := refuses })).run e directory s = p.run e directory s := by
  obtain ⟨c, hrun, hend⟩ := Simulation.run_agrees (p := p.on (journaling p.store))
    (refusalSimulation refuses hS p.layout e) hs he (related_refusal_started hS) h
  rw [(run_journal hS directory hs he).1]
  refine Eq.trans hrun ?_
  rw [← show _ = c from hend.holds]
  rfl

/-- What the artifacts are at the end of the stages `done`, and at the end of the next one, in which a
write is turned down. -/
theorem through_refused (hS : Steady p.store)
    (hw : ∀ path content s, (p.store.write path content s).1 = .ok ())
    (hs : s.busy = false) (he : e.isEntity = true) {done later : List Stage} {stage : Stage}
    (hstages : stages p.settings = done ++ stage :: later) {reason : String} {before : Session σ}
    (hdone : firstStop refuses ((p.on (journaling p.store)).through done
      ((p.on (journaling p.store)).started e directory (s.journal []))).2.store.events = .agree)
    (hstop : firstStop refuses ((p.on (journaling p.store)).through (done ++ [stage])
      ((p.on (journaling p.store)).started e directory (s.journal []))).2.store.events =
        .part (.refused reason) before) :
    (∀ a ∈ (p.through done (p.started e directory s)).2.context.products, a.passes refuses = true) ∧
      (p.through done (p.started e directory s)).2.context.products <+:
        (p.run e directory s).2.context.products ∧
      (p.through (done ++ [stage]) (p.started e directory s)).2.context.products <+:
        (p.run e directory s).2.context.products ∧
      before.context.products.length <
        (p.through (done ++ [stage]) (p.started e directory s)).2.context.products.length := by
  have hall := ascending_stages p.settings
  have hsplit : stages p.settings = (done ++ [stage]) ++ later := by
    rw [hstages, List.append_assoc, List.singleton_append]
  rw [p.run_products directory hs he]
  refine ⟨?_, ?_, ?_, ?_⟩
  · obtain ⟨hplain, hchronicle⟩ :=
      through_journal hS e directory s (ascending_append.1 (hstages ▸ hall)).1
    rw [hplain]
    exact fun a => passes_of_writes hchronicle.writes (firstStop_agree_iff.1 hdone)
  · rw [hstages]
    exact through_products hS e directory s (hstages ▸ hall)
  · rw [hsplit]
    exact through_products hS e directory s (hsplit ▸ hall)
  · obtain ⟨hplain, hchronicle⟩ :=
      through_journal hS e directory s (ascending_append.1 (hsplit ▸ hall)).1
    -- Without refusals the same file is written, which adds an artifact to those of that moment.
    obtain ⟨earlier, ev, rest, path, content, _, hevents, -, hrequest, -, -, rfl⟩ := firstStop_part hstop
    have hwritten := hchronicle.written hw (by rw [hevents]; simp) hrequest
    obtain ⟨-, a, more, hps, -⟩ := hchronicle.moments earlier ev rest _ hevents hwritten
    rw [hplain]
    change ev.before.context.products.length < ((p.on (journaling p.store)).through _ _).2.context.products.length
    rw [hps, List.length_append, List.length_cons]
    omega

end Run

/-- A run that is refused some writes is the run without these refusals, as its journal tells it: the same,
if none of its writes is turned down, and else cut off before the first one that is. -/
theorem refused_run_is_prefix (l : Layout) (settings : Settings) (blocked refuses : String → Option String)
    {e : Entity} (he : e.isEntity = true) (directory : String) {s : Session Memory}
    (hs : s.busy = false) :
    let p := memoryPlanner l settings { makeDir := blocked }
    let q := memoryPlanner l settings { makeDir := blocked, write := refuses }
    let R := (p.on (journaling p.store)).run e directory (s.journal [])
    p.run e directory s = (R.1, R.2.plain) ∧
      ((∀ ev ∈ R.2.store.events, ∀ path content, ev.request = .write path content →
          refuses path = none) →
        q.run e directory s = p.run e directory s) ∧
      ∀ earlier ev later path content reason, R.2.store.events = earlier ++ ev :: later →
        (∀ x ∈ earlier, ∀ path content, x.request = .write path content → refuses path = none) →
        ev.request = .write path content → refuses path = some reason →
        ∃ r t, q.run e directory s = (.ok r, t) ∧ Interrupted p refuses (p.started e directory s)
          R.2.context.products ev path reason r t := by
  intro p q R
  have hS : Steady p.store := steady_inSession _
  have hw : ∀ path content s, (p.store.write path content s).1 = .ok () := fun _ _ _ => rfl
  have hq : q = p.on (p.store.refusing { write := refuses }) := memoryPlanner_refusing l settings blocked refuses
  obtain ⟨hplain, hchronicle⟩ := run_journal hS directory hs he
  refine ⟨hplain, fun hnone => ?_, ?_⟩
  · rw [hq]
    exact run_refusing_agrees hS hs he (firstStop_agree_iff.2 fun ev hev =>
      Event.stop?_eq_none_iff.2 (hnone ev hev))
  intro earlier ev later path content reason hsplit hpass hrequest hreason
  have hnone : ∀ x ∈ earlier, x.stop? refuses = none := fun x hx =>
    Event.stop?_eq_none_iff.2 (hpass x hx)
  obtain ⟨hproducts, a, rest, hall, hc, hpath⟩ := hchronicle.takeWhile hw hsplit hnone hrequest hreason
  have hstop := firstStop_of_split hnone later hrequest hreason
  rw [← hsplit] at hstop
  obtain ⟨done, stage, last, hstages, -, hdone, hpart, hrun⟩ :=
    Simulation.run_parts (p := p.on (journaling p.store)) (refusalSimulation refuses hS l e) hs he
      (related_refusal_started hS) rfl hstop
  obtain ⟨hpasses, hprefix, hnext, hlength⟩ := through_refused hS hw hs he hstages hdone hpart
  have hend : q.run e directory s = Planner.released (Planner.aborted stage (.refused reason) ev.before) := by
    rw [hq]
    exact hrun
  have hledger := (run_ledger (Memory.shows_refusing _) l settings e directory hend).1
  rw [hplain] at hprefix hnext
  refine ⟨_, _, hend, rfl, hproducts, ⟨a, rest, hall, hc, hpath⟩, hledger.files, rfl, rfl,
    done, stage, last, hstages, rfl, ?_, hnext, hlength⟩
  obtain ⟨more, hmore⟩ := hprefix
  change _ <+: ev.before.context.products
  rw [hproducts, show R.2.context.products = _ from hmore.symm, List.takeWhile_append_of_pos hpasses]
  exact List.prefix_append _ _

def Request.isWrite : Request → Bool
  | .makeDir _ => false
  | .write .. => true

/-- The mapping document of the entity is written. -/
theorem sample_writes :
    ((((memoryPlanner {} {} {}).on (journaling (memoryPlanner {} {} {}).store)).run sampleEntity "m"
      (Session.journal { store := sampleMemory } [])).2.store.events.any (·.request.isWrite)) = true := by
  decide +kernel

theorem refused_run_is_prefix_sample : ∃ r t,
    (memoryPlanner {} {} { write := fun _ => some "disk full" }).run sampleEntity "m"
        { store := sampleMemory } = (.ok r, t) ∧
      r.status = .aborted ∧ r.error = some "disk full" ∧
      t.store.files = sampleMemory.files ++ createdFiles r.products := by
  obtain ⟨-, -, hrefused⟩ := refused_run_is_prefix {} {} (fun _ => none) (fun _ => some "disk full")
    (e := sampleEntity) (by decide) "m" (s := { store := sampleMemory }) rfl
  obtain ⟨ev, hev, hwrite⟩ := List.any_eq_true.1 sample_writes
  have hfind : (List.find? (fun ev : Event Memory => ev.request.isWrite) _).isSome = true :=
    List.find?_isSome.2 ⟨ev, hev, hwrite⟩
  obtain ⟨first, hfirst⟩ := Option.isSome_iff_exists.1 hfind
  obtain ⟨hisWrite, earlier, later, hsplit, hearlier⟩ := List.find?_eq_some_iff_append.1 hfirst
  rcases hrequest : first.request with path | ⟨path, content⟩
  · rw [hrequest] at hisWrite
    exact nomatch hisWrite
  · obtain ⟨r, t, hrun, hend⟩ := hrefused earlier first later path content "disk full" hsplit
      (fun x hx path content h => by have := hearlier x hx; rw [h] at this; exact nomatch this)
      hrequest rfl
    exact ⟨r, t, hrun, hend.status, hend.error, hend.files⟩

end Scaffold.Run
