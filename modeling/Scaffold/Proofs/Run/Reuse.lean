import Scaffold.Proofs.Artifact.Characters
import Scaffold.Proofs.Run.Repeat

/-! The directory for controllers is the same in the second run, and so is what controllers are called. Main
statement: the second run of an entity ends like the first one, makes nothing, and has its artifacts without the
types that entities share. -/

namespace Scaffold

theorem Store.le_length_join {name : String} (h : '/' ∉ name.toList) (directory : String) :
    directory.toList.length + name.toList.length ≤ (join directory name).toList.length := by
  unfold join
  rw [not_startsWith_slash_of_not_mem h, Bool.or_false]
  by_cases hempty : directory.isEmpty = true
  · rw [if_pos hempty, String.isEmpty_iff.1 hempty]
    exact Nat.le_of_eq (Nat.zero_add _)
  · rw [if_neg hempty]
    split <;> simp only [String.toList_append, List.length_append] <;> omega

theorem Store.mem_parentsFrom {n : Nat} {path x : String} (h : x ∈ parentsFrom n path) :
    x = parent path ∨ ∃ m, x ∈ parentsFrom m (parent path) := by
  cases n with
  | zero => exact absurd h List.not_mem_nil
  | succ n =>
    unfold parentsFrom at h
    dsimp only at h
    split at h
    · exact absurd h List.not_mem_nil
    · exact (List.mem_cons.1 h).imp_right fun h => ⟨n, h⟩

namespace Run

open Store (Memory)

theorem Ledger.read_now {before now : Memory} {ps : List Product} (h : Ledger before ps now) {a : Product}
    (ha : a ∈ ps) : now.read a.path = some a.content := by
  cases hc : a.created with
  | false => exact h.kept_now ha hc
  | true =>
    have hmem : (a.path, a.content) ∈ createdFiles ps :=
      List.mem_map.2 ⟨a, List.mem_filter.2 ⟨ha, hc⟩, rfl⟩
    have hfree := h.fresh a ha hc
    unfold Memory.read at hfree ⊢
    rw [h.files, List.lookup_append, hfree, Option.none_or]
    exact Entries.lookup_of_mem h.distinct hmem

theorem Planner.performAll_of_through {σ : Type} {p : Planner σ} {rest : List Stage} {s t : Session σ}
    (h : p.through rest s = (.ok (), t)) : p.performAll rest s = completed t := by
  induction rest generalizing s with
  | nil =>
    cases h
    rfl
  | cons stage rest ih =>
    rw [through_cons] at h
    rw [performAll_cons]
    rcases hx : p.perform stage s with ⟨f | _, u⟩ <;> rw [hx] at h
    · exact nomatch h
    · exact ih h

theorem Planner.through_of_completed {σ : Type} {p : Planner σ} {rest : List Stage} {s t : Session σ}
    {r : Result} (h : p.performAll rest s = (.ok r, t)) (hr : r.status = .completed) :
    ∃ u, p.through rest s = (.ok (), u) ∧ completed u = (.ok r, t) := by
  induction rest generalizing s with
  | nil => exact ⟨s, rfl, h⟩
  | cons stage rest ih =>
    rw [performAll_cons] at h
    rw [through_cons]
    rcases hx : p.perform stage s with ⟨f | _, u⟩ <;> rw [hx] at h
    · dsimp only at h
      split at h
      · cases h
        exact nomatch hr
      · exact nomatch h
    · exact ih h

variable {p : Planner Memory} {E : Ending} {s t : Session Memory}

theorem serviceDir_memory (hp : p.store = inSession Memory.store) (s : Session Memory) :
    ∃ d store dirs, p.serviceDir s = (.ok d, { s with store, context := { s.context with dirs } }) ∧
      ∀ x, s.store.isDir x = true → store.isDir x = true := by
  unfold Planner.serviceDir
  simp only [Effect.bind_apply, context_apply]
  by_cases h : (s.context.dirs.service != "") = true
  · rw [if_pos h]
    exact ⟨_, s.store, s.context.dirs, rfl, fun _ h => h⟩
  · obtain ⟨store, hsubdir, -, hgrow, -⟩ := subdir_memory hp (p.serviceBase s.context.dirs.container) "service" s
    rw [if_neg h]
    simp only [Effect.bind_apply, context_apply, hsubdir]
    exact ⟨_, store, _, rfl, hgrow⟩

theorem findSubdir?_memory (hp : p.store = inSession Memory.store) (s : Session Memory) (parent name : String) :
    p.store.findSubdir? s parent name =
      if s.store.isDir (Store.join parent name) = true then some (Store.join parent name) else none := by
  rw [hp]
  rfl

theorem isDir_of_findSubdir? (hp : p.store = inSession Memory.store) {parent name d : String}
    (h : p.store.findSubdir? s parent name = some d) : d = Store.join parent name ∧ s.store.isDir d = true := by
  rw [findSubdir?_memory hp] at h
  split at h
  · next hd =>
    cases h
    exact ⟨rfl, hd⟩
  · exact nomatch h

/-- A directory for controllers that is there is beside the services, or below a directory for web classes
where there is none beside the services. -/
theorem controllerDir?_memory (hp : p.store = inSession Memory.store) {parent d : String}
    (h : p.controllerDir? s parent = some d) : s.store.isDir d = true ∧
      (d = Store.join parent "controller" ∨
        s.store.isDir (Store.join parent "web") = true ∧
          (d = Store.join (Store.join parent "web") "rest" ∨
            d = Store.join parent "web" ∧
              s.store.isDir (Store.join (Store.join parent "web") "rest") = false)) := by
  unfold Planner.controllerDir? at h
  rcases hc : p.store.findSubdir? s parent "controller" with _ | c
  · rw [hc, Option.none_or] at h
    rcases hw : p.store.findSubdir? s parent "web" with _ | w
    · rw [hw] at h
      exact nomatch h
    · obtain ⟨rfl, hweb⟩ := isDir_of_findSubdir? hp hw
      rw [hw, Option.map_some, findSubdir?_memory hp] at h
      by_cases hr : s.store.isDir (Store.join (Store.join parent "web") "rest") = true
      · rw [if_pos hr] at h
        cases h
        exact ⟨hr, .inr ⟨hweb, .inl rfl⟩⟩
      · rw [if_neg hr] at h
        cases h
        exact ⟨hweb, .inr ⟨hweb, .inr ⟨rfl, Bool.eq_false_iff.2 hr⟩⟩⟩
  · rw [hc] at h
    cases h
    obtain ⟨rfl, hdir⟩ := isDir_of_findSubdir? hp hc
    exact ⟨hdir, .inl rfl⟩

theorem controllerDir?_beside (hp : p.store = inSession Memory.store) {parent : String}
    (h : s.store.isDir (Store.join parent "controller") = true) :
    p.controllerDir? s parent = some (Store.join parent "controller") := by
  unfold Planner.controllerDir?
  rw [findSubdir?_memory hp, if_pos h]
  rfl

theorem controllerDir_memory (hp : p.store = inSession Memory.store) (s : Session Memory) :
    ∃ d store dirs, p.controllerDir s = (.ok d, { s with store, context := { s.context with dirs } }) ∧
      store.isDir d = true ∧ ∀ x, s.store.isDir x = true → store.isDir x = true := by
  obtain ⟨service, store, dirs, hservice, hgrow⟩ := serviceDir_memory hp s
  rw [controllerDir_apply, hservice]
  dsimp only
  rcases hd : p.controllerDir? _ ((p.layout.parent? service).getD p.layout.javaRoot) with _ | d
  · obtain ⟨more, hsubdir, hmade, hmore, -⟩ := subdir_memory hp
      ((p.layout.parent? service).getD p.layout.javaRoot) "controller"
      { s with store, context := { s.context with dirs } }
    dsimp only
    rw [hsubdir]
    exact ⟨_, more, dirs, rfl, hmade, fun x hx => hmore x (hgrow x hx)⟩
  · exact ⟨d, store, dirs, rfl, (controllerDir?_memory hp hd).1, hgrow⟩

def pageDirs : List String := ["ui", "ui/views"]

theorem join_not_mem_pageDirs {name : String} (h : ∀ d ∈ pageDirs, ¬ name.toList <:+ d.toList)
    (parent : String) : Store.join parent name ∉ pageDirs :=
  fun hmem => h _ hmem (Store.suffix_join parent name)

/-- The directory for controllers that was found is found again where there are more directories, none of them
longer but those of pages. -/
theorem controllerDir?_stays (hp : p.store = inSession Memory.store) {parent d : String}
    (hd : p.controllerDir? s parent = some d) (hgrow : ∀ x, s.store.isDir x = true → t.store.isDir x = true)
    (hfew : ∀ x, t.store.isDir x = true →
      s.store.isDir x = true ∨ x.toList.length ≤ d.toList.length ∨ x ∈ pageDirs)
    (hnone : d ≠ Store.join parent "controller" → s.store.isDir (Store.join parent "controller") = false) :
    p.controllerDir? t parent = some d := by
  -- The three places by length: `web`, then `web/rest` or `controller`. A new directory is no longer than the
  -- one that was found, which leaves none that comes before it in the search.
  have hlength : (Store.join parent "web").toList.length + 10 =
      (Store.join parent "controller").toList.length + 3 :=
    Store.length_join (a := "web") (b := "controller") parent (by decide) (by decide)
  have hrest : (Store.join parent "web").toList.length + 4 ≤
      (Store.join (Store.join parent "web") "rest").toList.length :=
    Store.le_length_join (show '/' ∉ "rest".toList by decide) _
  have hlong : (Store.join (Store.join parent "web") "rest").toList.length ≤
      (Store.join parent "web").toList.length + 1 + 4 := Store.length_join_le _ "rest"
  obtain ⟨hdir, hcases⟩ := controllerDir?_memory hp hd
  unfold Planner.controllerDir?
  simp only [findSubdir?_memory hp]
  by_cases hc : d = Store.join parent "controller"
  · rw [← hc, if_pos (hgrow d hdir)]
    rfl
  · obtain ⟨hweb, hcases⟩ := hcases.resolve_left hc
    have hbound : d.toList.length ≤ (Store.join parent "web").toList.length + 5 := by
      rcases hcases with rfl | ⟨rfl, -⟩
      · exact hlong
      · omega
    have hbeside : t.store.isDir (Store.join parent "controller") ≠ true := fun hx => by
      rcases hfew _ hx with h | h | h
      · rw [hnone hc] at h
        exact nomatch h
      · omega
      · exact join_not_mem_pageDirs (by decide) _ h
    rw [if_neg hbeside, if_pos (hgrow _ hweb), Option.none_or, Option.map_some]
    rcases hcases with rfl | ⟨rfl, hr⟩
    · rw [if_pos (hgrow _ hdir)]
      rfl
    · have hbelow : t.store.isDir (Store.join (Store.join parent "web") "rest") ≠ true := fun hx => by
        rcases hfew _ hx with h | h | h
        · rw [hr] at h
          exact nomatch h
        · omega
        · exact join_not_mem_pageDirs (by decide) _ h
      rw [if_neg hbelow]
      rfl

theorem controllerDir_again (hp : p.store = inSession Memory.store) (he : Echo E s t) {d : String}
    {s' : Session Memory} (h : p.controllerDir s = (.ok d, s')) (hs : Ahead E s')
    (hfew : ∀ x, E.store.isDir x = true →
      s'.store.isDir x = true ∨ x.toList.length ≤ d.toList.length ∨ x ∈ pageDirs) :
    ∃ u, p.controllerDir t = (.ok d, u) ∧ Echo E s' u := by
  have hservice : Repeats E True p.serviceDir p.serviceDir fun a b => b = a := .serviceDir hp
  obtain ⟨service, store, dirs, hfirst, -⟩ := serviceDir_memory hp s
  have hnext := hservice.2 trivial s t he service
  rw [hfirst] at hnext
  rw [controllerDir_apply, hfirst] at h
  rw [controllerDir_apply]
  dsimp only at h hnext
  let v : Session Memory := { s with store, context := { s.context with dirs } }
  rcases hd : p.controllerDir? v ((p.layout.parent? service).getD p.layout.javaRoot) with _ | c
  · rw [hd] at h
    dsimp only at h
    -- Made by the first run, so it is there for the second one, and comes first.
    obtain ⟨more, hsubdir, hmade, hgrow, -⟩ := subdir_memory hp
      ((p.layout.parent? service).getD p.layout.javaRoot) "controller" v
    rw [hsubdir] at h
    cases h
    have hv : Ahead E v := ⟨fun x hx => hs.dirs x (hgrow x hx), hs.products, hs.known⟩
    obtain ⟨b, u, hu, hecho, hb⟩ := hnext rfl hv
    rw [hb] at hu
    rw [hu]
    dsimp only
    rw [controllerDir?_beside hp (by rw [hecho.store]; exact hs.dirs _ hmade)]
    exact ⟨u, rfl, hecho.grow⟩
  · rw [hd] at h
    cases h
    obtain ⟨b, u, hu, hecho, hb⟩ := hnext rfl hs
    rw [hb] at hu
    have hfound : p.controllerDir? u ((p.layout.parent? service).getD p.layout.javaRoot) = some d := by
      refine controllerDir?_stays hp hd (fun x hx => ?_) (fun x hx => ?_) fun hne => ?_
      · rw [hecho.store]
        exact hs.dirs x hx
      · rw [hecho.store] at hx
        exact hfew x hx
      · exact Bool.eq_false_iff.2 fun hdir => hne (Option.some.inj (hd.symm.trans (controllerDir?_beside hp hdir)))
    rw [hu]
    dsimp only
    rw [hfound]
    exact ⟨u, rfl, hecho⟩

theorem require_state {σ : Type} (kind : ArtifactKind) (s : Session σ) : (require kind s).2 = s := by
  rw [require_apply]
  cases s.context.handle? kind <;> rfl

theorem controllerDeps_state {σ : Type} (s : Session σ) : (Planner.controllerDeps s).2 = s := by
  have hkeeps : Effect.Keeps (fun s t : Session σ => t = s) Planner.controllerDeps := by
    refine .bind (fun h k => k.trans h) (require_state _) fun _ => ?_
    refine .bind (fun h k => k.trans h) (require_state _) fun _ => ?_
    refine .bind (fun h k => k.trans h) (require_state _) fun _ => ?_
    exact .bind (fun h k => k.trans h) (fun _ => rfl) fun _ _ => rfl
  exact hkeeps s

theorem finishController_of_ahead (hp : p.store = inSession Memory.store) (hE : E.Sound)
    {o : Artifact.ControllerOptions} {d : String} (hok : (p.finishController o d s).1 = .ok ())
    (hs : Ahead E (p.finishController o d s).2) (hd : s.store.isDir d = true)
    (hslash : '/' ∉ (s.context.entity.baseName ++ o.suffix).toList) :
    (∃ k : Handle, k.name = s.context.entity.baseName ++ o.suffix ∧
      (p.finishController o d s).2.symbols = s.symbols.register k) ∧
      ∀ x, (p.finishController o d s).2.store.isDir x = true →
        s.store.isDir x = true ∨ x.toList.length ≤ d.toList.length := by
  unfold Planner.finishController at hok hs ⊢
  rw [Effect.bind_apply, setDirs_apply] at hok hs ⊢
  dsimp only at hok hs ⊢
  rw [Effect.bind_apply] at hok hs ⊢
  -- Only the directory is noted before the classes that the controller builds on are looked for.
  let v : Session Memory :=
    { s with context := { s.context with dirs := { s.context.dirs with controller := d } } }
  rcases hdeps : (Planner.controllerDeps v).1 with f | deps
  · rw [show Planner.controllerDeps _ = (.error f, v) from Prod.ext hdeps (controllerDeps_state v)] at hok
    exact nomatch hok
  · rw [show Planner.controllerDeps _ = (.ok deps, v) from Prod.ext hdeps (controllerDeps_state v)] at hok hs ⊢
    dsimp only at hok hs ⊢
    rw [Effect.bind_apply, context_apply] at hok hs ⊢
    dsimp only at hok hs ⊢
    rw [Effect.bind_apply] at hok hs ⊢
    let controller : Artifact.Controller :=
      { entity := s.context.entity, settings := s.context.settings, deps, options := o }
    have hplace : Ahead E (p.place (controller.template (p.layout.packageOf d)) d v).2 := by
      rcases hx : p.place (controller.template (p.layout.packageOf d)) d v with ⟨f | h, w⟩ <;> rw [hx] at hs
      · exact hs
      · exact hs
    obtain ⟨placed, store, k, hm, -, -, -, hfew, hsome, hk⟩ := place_of_ahead hp hE hplace
    obtain ⟨x, rfl⟩ := Option.isSome_iff_exists.1 (hsome.trans (isJava_javaTemplate _ _ _ _ _))
    rw [show p.place _ d _ = _ from hm]
    refine ⟨⟨x, (hk x rfl).1, rfl⟩, fun y hy => ?_⟩
    rcases hfew hd y hy with hy | hy
    · refine .inr (Nat.le_trans (Store.length_of_mem_parentsFrom hy) (Store.length_parent_join ?_))
      change '/' ∉ ((s.context.entity.baseName ++ o.suffix) ++ ".java").toList
      rw [String.toList_append, List.mem_append, not_or]
      exact ⟨hslash, by decide⟩
    · exact .inl hy

theorem controllerStage_of_ahead (hp : p.store = inSession Memory.store) (hE : E.Sound)
    (hs : Ahead E (p.controllerStage s).2) : Ahead E s := by
  obtain ⟨d, store, dirs, hdir, -, hgrow⟩ := controllerDir_memory hp s
  rw [controllerStage_apply, hdir] at hs
  have hv := (Repeats.finishController (P := True) hp hE fun _ => ⟨rfl, rfl⟩).1 _ hs
  exact ⟨fun x hx => hv.dirs x (hgrow x hx), hv.products, hv.known⟩

/-- The second run places the controller where the first one has, and calls it the same. -/
theorem controllerStage_again (hp : p.store = inSession Memory.store) (hE : E.Sound) (he : Echo E s t)
    (hok : (p.controllerStage s).1 = .ok ()) (hs : Ahead E (p.controllerStage s).2)
    (hneutral : AllNeutral s.context.products)
    (hfew : ∀ x, E.store.isDir x = true → (p.controllerStage s).2.store.isDir x = true ∨ x ∈ pageDirs)
    (hsymbols : E.symbols = (p.controllerStage s).2.symbols)
    (hslash : '/' ∉ s.context.entity.baseName.toList) :
    ∃ u, p.controllerStage t = (.ok (), u) ∧ Echo E (p.controllerStage s).2 u := by
  obtain ⟨d, store, dirs, hdir, hmade, -⟩ := controllerDir_memory hp s
  have hfirst : p.controllerStage s = p.finishController (Planner.controllerOptions s.symbols) d
      { s with store, context := { s.context with dirs } } := by
    rw [controllerStage_apply, hdir]
  rw [hfirst] at hok hs hfew hsymbols ⊢
  have hback := (Repeats.finishController (P := True) hp hE fun _ => ⟨rfl, rfl⟩).1 _ hs
  have hname : '/' ∉ (s.context.entity.baseName ++ suffix s.symbols).toList := by
    rw [String.toList_append, List.mem_append, not_or]
    refine ⟨hslash, ?_⟩
    rcases Simulation.controllerOptions_suffix s.symbols with h | h <;>
      · rw [show suffix s.symbols = _ from h]
        decide
  obtain ⟨⟨k, hk, hsymbols'⟩, hdirs⟩ := finishController_of_ahead hp hE hok hs hmade hname
  -- The second search sees the directories of the end. Those made after the first one are no longer than what
  -- it found, or hold pages, so they do not answer before it.
  obtain ⟨u, hu, hecho⟩ := controllerDir_again hp he hdir hback fun x hx =>
    (hfew x hx).elim (fun h => (hdirs x h).imp_right .inl) fun h => .inr (.inr h)
  have hsuffix : suffix u.symbols = suffix s.symbols := by
    rw [hecho.suffix hneutral, hsymbols, hsymbols']
    exact suffix_register_controller hk
  rw [controllerStage_apply, hu]
  obtain ⟨_, v, hv, hend, -⟩ := (Repeats.finishController (P := True) hp hE fun _ => ⟨rfl, hsuffix⟩).2
    trivial _ u hecho () hok hs
  exact ⟨v, hv, hend⟩

theorem mem_pageDirs {name x : String} (hn : Store.IsName name)
    (h : x ∈ Store.parents (Store.join "ui/views" name)) : x ∈ pageDirs := by
  have hviews : Store.Normal "ui/views" := ⟨by decide +kernel, by decide +kernel⟩
  have hparent : Store.parent (Store.join "ui/views" name) = "ui/views" := by
    rw [(hviews.join hn).parent_eq, hviews.parts_join hn, List.dropLast_concat, hviews.eq]
  rcases Store.mem_parentsFrom h with rfl | ⟨m, h⟩
  · rw [hparent]
    decide
  rw [hparent] at h
  rcases Store.mem_parentsFrom h with rfl | ⟨k, h⟩
  · decide +kernel
  · cases k with
    | zero => exact absurd h List.not_mem_nil
    | succ k => exact absurd h (by rw [Store.parentsFrom, if_pos (by decide +kernel)]; exact List.not_mem_nil)

theorem placeFile_apply {σ : Type} (p : Planner σ) (t : Template) (directory : String) (s : Session σ) :
    p.placeFile t directory s = match p.place t directory s with
      | (.error f, u) => (.error f, u)
      | (.ok _, u) => (.ok ((u.context.products.getLast?.map (·.path)).getD ""), u) := by
  unfold Planner.placeFile
  rw [Effect.bind_apply]
  rcases p.place t directory s with ⟨f | h, u⟩ <;> rfl

theorem subdir_pages (hp : p.store = inSession Memory.store) (s : Session Memory) :
    ∃ m n, p.subdir "" "ui" s = (.ok "ui", { s with store := m }) ∧
      p.subdir "ui" "views" { s with store := m } = (.ok "ui/views", { s with store := n }) ∧
      n.isDir "ui/views" = true ∧ ∀ x, n.isDir x = true → s.store.isDir x = true ∨ x ∈ pageDirs := by
  have hui : Store.join "" "ui" = "ui" ∧ Store.parents "ui" = [] := by decide +kernel
  have hviews : Store.join "ui" "views" = "ui/views" ∧ Store.parents "ui/views" = ["ui"] := by decide +kernel
  obtain ⟨m, hm, -, -, hmfew⟩ := subdir_memory hp "" "ui" s
  obtain ⟨n, hn, hmade, -, hnfew⟩ := subdir_memory hp "ui" "views" { s with store := m }
  rw [hui.1, hui.2] at hmfew
  rw [hviews.1, hviews.2] at hnfew
  rw [hui.1] at hm
  rw [hviews.1] at hn hmade
  refine ⟨m, n, hm, hn, hmade, fun x hx => ?_⟩
  rcases hnfew x hx with rfl | h | h
  · exact .inr (by decide)
  · exact .inr (List.mem_singleton.1 h ▸ by decide)
  · rcases hmfew x h with rfl | h | h
    · exact .inr (by decide)
    · exact absurd h List.not_mem_nil
    · exact .inl h

theorem pageTemplate_vue (e : Entity) (fields : List Entity.Field) (url : String) :
    Text.endsWith (Artifact.pageTemplate e fields url).fileName ".vue" = true := by
  rw [Text.endsWith_iff]
  change _ <:+ (Name.kebab e.baseName ++ ".vue").toList
  rw [String.toList_append]
  exact List.suffix_append _ _

/-- Where the project has no root of its own, pages add directories of their own alone, and no class. -/
theorem pageStage_of_ahead (hp : p.store = inSession Memory.store) (hE : E.Sound)
    (hroot : p.layout.projectRoot = "") (hs : Ahead E (p.pageStage s).2)
    (hslash : '/' ∉ s.context.entity.baseName.toList) :
    (p.pageStage s).2.symbols = s.symbols ∧
      ∀ x, (p.pageStage s).2.store.isDir x = true → s.store.isDir x = true ∨ x ∈ pageDirs := by
  obtain ⟨m, n, hm, hn, hmade, hdirs⟩ := subdir_pages hp s
  unfold Planner.pageStage at hs ⊢
  simp only [Effect.bind_apply, hroot, hm, hn, setDirs_apply, context_apply, placeFile_apply] at hs ⊢
  let t := Artifact.pageTemplate s.context.entity (Artifact.dtoFields s.context.entity none)
    (Artifact.controllerPath s.context.settings.controllerPath s.context.entity.baseName)
  let v : Session Memory :=
    { s with store := n, context := { s.context with dirs := { s.context.dirs with pages := "ui/views" } } }
  have hplace : Ahead E (p.place t "ui/views" v).2 := by
    rcases hx : p.place t "ui/views" v with ⟨f | h, w⟩ <;> rw [hx] at hs
    · exact hs
    · exact ⟨hs.dirs, hs.products, hs.known⟩
  obtain ⟨placed, store, k, hx, -, -, -, hfew, hsome, -⟩ := place_of_ahead hp hE hplace
  -- A page is no Java file, so nothing is registered for it.
  obtain rfl : k = none := by
    rw [← Option.isNone_iff_eq_none, ← Option.isSome_eq_false_iff, hsome]
    exact Text.not_endsWith (pageTemplate_vue _ _ _) (by decide)
  have hname : Store.IsName t.fileName :=
    ArtifactKind.isName_file (k := .page) (List.mem_singleton_self _) hslash
  rw [show p.place _ "ui/views" _ = _ from hx]
  refine ⟨rfl, fun x hx => ?_⟩
  rcases hfew hmade x hx with h | h
  · exact .inr (mem_pageDirs hname h)
  · exact hdirs x h

def declaredKind (settings : Settings) : ArtifactKind → ClassKind
  | .baseRepository | .repository | .entityMapper | .mapper | .dao => .interface
  | .service => if settings.withInterface then .interface else .plain
  | _ => .plain

/-- An artifact of an entity, called as its kind is. -/
structure Named (e : Entity) (a : Product) : Prop where
  path : Text.endsWith a.path a.kind.extension = true
  name : a.kind.extension = ".java" → a.name ∈ a.kind.stems e.baseName

theorem Named.java {e : Entity} {a : Product} (h : Named e a) (hj : Text.endsWith a.path ".java" = true) :
    a.kind.extension = ".java" := by
  by_contra hne
  have hclash : ¬ a.kind.extension.toList <:+ ".java".toList ∧ ¬ ".java".toList <:+ a.kind.extension.toList := by
    revert hne
    cases a.kind <;> decide
  exact Bool.false_ne_true ((Text.not_endsWith hj hclash).symm.trans h.path)

theorem ne_of_ending {base ending other : String} (h : ¬ ending.toList <:+ other.toList) :
    base ++ ending ≠ other := by
  rintro rfl
  rw [String.toList_append] at h
  exact h (List.suffix_append _ _)

theorem neutral_of_stem {kind : ArtifactKind} {base stem : String} (h : stem ∈ kind.stems base)
    (hk : kind.rank < 13) : Neutral stem := by
  cases kind with
  | controller | page => exact absurd hk (by decide)
  | baseRepository | entityMapper | baseQuery =>
    rw [List.mem_singleton.1 h]
    exact ⟨by decide, by decide⟩
  | _ =>
    rw [List.mem_singleton.1 h]
    exact ⟨ne_of_ending (by decide), ne_of_ending (by decide)⟩

theorem fitting_of_stem {kind : ArtifactKind} {base stem : String} (h : stem ∈ kind.stems base)
    (hj : kind.extension = ".java") (settings : Settings) : Fitting stem (declaredKind settings kind) := by
  cases kind with
  | baseRepository | repository | entityMapper | mapper | dao => exact fun _ => rfl
  | baseQuery =>
    rw [List.mem_singleton.1 h]
    exact fun hname => absurd hname (by decide)
  | page | daoXml => exact absurd hj (by decide)
  | controller =>
    refine fun hname => absurd hname ?_
    rcases List.mem_cons.1 h with rfl | h
    · exact not_or.2 ⟨ne_of_ending (by decide), ne_of_ending (by decide)⟩
    · rw [List.mem_singleton.1 h]
      exact not_or.2 ⟨ne_of_ending (by decide), ne_of_ending (by decide)⟩
  | _ =>
    rw [List.mem_singleton.1 h]
    exact fun hname => absurd hname (not_or.2 ⟨ne_of_ending (by decide), ne_of_ending (by decide)⟩)

/-- A run beside itself, with the names of its artifacts. -/
def namedSimulation (l : Layout) (e : Entity) :
    Simulation l e (inSession Memory.store) (inSession Memory.store) :=
  selfSimulation (steady_inSession Memory.store) (fun _ ps => ∀ a ∈ ps, Named e a) (fun _ _ h => h) l e
    fun t directory s ht h a ha => by
      obtain ⟨placed, store, hfile, hpath, -⟩ := createFile_memory directory t.fileName t.content s
      rw [hfile] at ha
      rcases List.mem_append.1 ha with ha | ha
      · exact h a ha
      · obtain ⟨stem, hstem, hname, hclass⟩ := ht.file
        rw [List.mem_singleton.1 ha]
        refine ⟨?_, fun hj => ?_⟩
        · rw [show (productOf t placed).path = _ from hpath]
          refine Store.endsWith_join (Text.endsWith_iff.2 ?_)
          rw [hname, String.toList_append]
          exact List.suffix_append _ _
        · rw [show (productOf t placed).name = stem from hclass hj]
          exact hstem

theorem through_named (hp : p.store = inSession Memory.store) (e : Entity) (directory : String)
    (s : Session Memory) {done : List Stage} (h : Ascending 0 done) {x : Except Failure Unit}
    (ht : p.through done (p.started e directory s) = (x, t)) :
    t.context.entity = e ∧ ∀ a ∈ t.context.products, Named e a ∧ a.kind.rank < lastBound 0 done := by
  obtain ⟨l, settings, store⟩ := p
  change store = _ at hp
  subst hp
  let p : Planner Memory := ⟨l, settings, inSession Memory.store⟩
  let S := namedSimulation l e
  have hstart : S.Related e 0 (p.started e directory s) s.store :=
    Simulation.related_started (p := p) S rfl ⟨rfl, nofun⟩ trivial
  obtain ⟨-, hout⟩ := Simulation.follows_through (p := p) (F := {}) S done h
    (p.started e directory s) s.store
  obtain ⟨c, -, -, hend, -⟩ := (hout hstart (Comparison.knows_empty _)).agrees rfl
  rw [show p.through done _ = _ from ht] at hend
  exact ⟨hend.fits.entity, fun a ha => ⟨hend.holds.2 a ha, hend.ranks a ha⟩⟩

def classStages : List Stage := [.repository, .dto, .mapper, .query, .dao, .service]

def pageStages (settings : Settings) : List Stage := if settings.withPage then [.page] else []

theorem stages_eq (settings : Settings) :
    stages settings = classStages ++ .controller :: pageStages settings := rfl

theorem Planner.through_eq_ok {σ : Type} {p : Planner σ} {done last : List Stage} {stage : Stage}
    {s u : Session σ} : p.through (done ++ stage :: last) s = (.ok (), u) ↔
      ∃ v w, p.through done s = (.ok (), v) ∧ p.perform stage v = (.ok (), w) ∧
        p.through last w = (.ok (), u) := by
  rw [through_append]
  rcases p.through done s with ⟨f | _, v⟩
  · exact ⟨nofun, fun ⟨_, _, h, _⟩ => nomatch h⟩
  dsimp only
  rw [through_cons]
  rcases hx : p.perform stage v with ⟨f | _, w⟩
  · exact ⟨nofun, fun ⟨_, _, h, hw, _⟩ => by cases h; rw [hx] at hw; exact nomatch hw⟩
  · exact ⟨fun h => ⟨v, w, rfl, hx, h⟩, fun ⟨_, _, h, hw, hu⟩ => by cases h; rw [hx] at hw; cases hw; exact hu⟩

section Second

variable {l : Layout} {settings : Settings} {e : Entity} {directory : String} {r : Result}

/-- What a completed run has left is sound, when its sources declare what they are called after. -/
theorem sound_of_run (hrun : (memoryPlanner l settings {}).run e directory s = (.ok r, t))
    (hnamed : ∀ a ∈ r.products, Named e a)
    (hdeclares : ∀ a ∈ r.products, Text.endsWith a.path ".java" = true →
      Source.Declares a.content a.name (declaredKind settings a.kind)) :
    Ending.Sound ⟨t.store, t.symbols, r.products⟩ where
  read _ ha := (run_ledger (Memory.shows_refusing {}) l settings e directory hrun).1.read_now ha
  parses a ha hj := ⟨_, hdeclares a ha hj,
    fitting_of_stem ((hnamed a ha).name ((hnamed a ha).java hj)) ((hnamed a ha).java hj) settings⟩

theorem pageStages_of_ahead (hp : p.store = inSession Memory.store) (hE : E.Sound)
    (hroot : p.layout.projectRoot = "") (hslash : '/' ∉ s.context.entity.baseName.toList) {u : Session Memory}
    (hthrough : p.through (pageStages settings) s = (.ok (), u)) (hu : Ahead E u) :
    u.symbols = s.symbols ∧ ∀ x, u.store.isDir x = true → s.store.isDir x = true ∨ x ∈ pageDirs := by
  unfold pageStages at hthrough
  cases hw : settings.withPage with
  | false =>
    rw [hw] at hthrough
    cases hthrough
    exact ⟨rfl, fun _ h => .inl h⟩
  | true =>
    have hpage : p.pageStage s = (.ok (), u) := by
      rw [hw, if_pos rfl, ← List.nil_append [Stage.page], Planner.through_eq_ok] at hthrough
      obtain ⟨v, w, hv, hx, hu⟩ := hthrough
      cases hv
      cases hu
      exact hx
    have hfacts := pageStage_of_ahead hp hE hroot (by rw [hpage]; exact hu) hslash
    rw [hpage] at hfacts
    exact hfacts

theorem stages_again (hp : p.store = inSession Memory.store) (hE : E.Sound)
    (hroot : p.layout.projectRoot = "") (hslash : '/' ∉ e.baseName.toList) {u : Session Memory}
    (hthrough : p.through (stages p.settings) (p.started e directory s) = (.ok (), u)) (hu : Ahead E u)
    (hstore : E.store = u.store) (hsymbols : E.symbols = u.symbols)
    (he : Echo E (p.started e directory s) t) :
    ∃ v, p.through (stages p.settings) t = (.ok (), v) ∧ Echo E u v := by
  rw [stages_eq, Planner.through_eq_ok] at hthrough
  obtain ⟨v, w, hv, hw, hlast⟩ := hthrough
  have hclasses : Repeats E True (p.through classStages) (p.through classStages) fun _ _ => True :=
    .through hp hE (by decide)
  have hpages : Repeats E True (p.through (pageStages p.settings)) (p.through (pageStages p.settings))
      fun _ _ => True := .through hp hE (by unfold pageStages; cases p.settings.withPage <;> decide)
  -- Backwards from the end of the first run to its parts, then forwards with the second run through them.
  have haheadW : Ahead E w := hpages.1 w (by rw [hlast]; exact hu)
  have haheadV : Ahead E v := by
    refine controllerStage_of_ahead hp hE ?_
    rw [show p.controllerStage v = _ from hw]
    exact haheadW
  obtain ⟨hentity, hnamed⟩ := through_named hp e directory s
    (by simp [classStages, Ascending, Stage.rank, Stage.bound]) hv
  have hentityW : w.context.entity = e := by
    have hlonger : p.through (classStages ++ [.controller]) (p.started e directory s) = (.ok (), w) :=
      Planner.through_eq_ok.2 ⟨v, w, hv, hw, rfl⟩
    exact (through_named hp e directory s (by simp [classStages, Ascending, Stage.rank, Stage.bound]) hlonger).1
  obtain ⟨hsame, hfew⟩ := pageStages_of_ahead hp hE hroot (by rw [hentityW]; exact hslash) hlast hu
  obtain ⟨_, x, hx, hvx, -⟩ := hclasses.2 trivial _ t he () (by rw [hv]) (by rw [hv]; exact haheadV)
  rw [hv] at hvx
  have hagain := controllerStage_again hp hE hvx
  rw [show p.controllerStage v = _ from hw] at hagain
  obtain ⟨y, hy, hwy⟩ := hagain rfl haheadW
    (fun a ha hj => neutral_of_stem ((hnamed a ha).1.name ((hnamed a ha).1.java hj)) (hnamed a ha).2)
    (by rw [hstore]; exact hfew) (hsymbols.trans hsame) (by rw [hentity]; exact hslash)
  obtain ⟨_, z, hz, huz, -⟩ := hpages.2 trivial w y hwy () (by rw [hlast]) (by rw [hlast]; exact hu)
  rw [hlast] at huz
  refine ⟨z, ?_, huz⟩
  rw [stages_eq, Planner.through_eq_ok]
  exact ⟨x, y, hx, hy, hz⟩

/-- A completed run of an entity that has no slash in its name is repeated without a change, be its store empty
at first or not: the next run of the same entity is completed as well, leaves the files and the directories as
they are, makes nothing, and has the artifacts of the first one in the same order, apart from the types that
entities share. The sources of the first run each declare the one type that they are called after. -/
theorem second_run_reuses (l : Layout) (hroot : l.projectRoot = "") (settings : Settings) (e : Entity)
    (hname : '/' ∉ e.name.toList) (directory : String) {s t : Session Memory} {r : Result}
    (hrun : (memoryPlanner l settings {}).run e directory s = (.ok r, t)) (hdone : r.status = .completed)
    (hdeclares : ∀ a ∈ r.products, Text.endsWith a.path ".java" = true →
      Source.Declares a.content a.name (declaredKind settings a.kind)) :
    ∃ r' t', (memoryPlanner l settings {}).run e directory t = (.ok r', t') ∧ r'.status = .completed ∧
      t'.store = t.store ∧ r'.products = again r.products := by
  let p : Planner Memory := memoryPlanner l settings {}
  have hp : p.store = inSession Memory.store := rfl
  have hfree : s.busy = false := by
    refine Bool.eq_false_iff.2 fun hbusy => ?_
    rw [Planner.run_of_busy _ _ _ hbusy] at hrun
    exact nomatch hrun
  have hentity : e.isEntity = true := by
    by_contra hplain
    rw [Planner.run_of_skipped _ _ hfree (Bool.eq_false_iff.2 hplain)] at hrun
    cases hrun
    exact nomatch hdone
  have hfirst := hrun
  rw [Planner.run_of_entity _ _ hfree hentity] at hfirst
  rcases hall : p.performAll (stages p.settings) (p.started e directory s) with ⟨f | x, last⟩
  · rw [show (memoryPlanner l settings {}).performAll _ _ = _ from hall] at hfirst
    exact nomatch hfirst
  rw [show (memoryPlanner l settings {}).performAll _ _ = _ from hall] at hfirst
  cases hfirst
  obtain ⟨u, hthrough, hcompleted⟩ := Planner.through_of_completed hall hdone
  cases hcompleted
  obtain ⟨-, hnamed⟩ := through_named hp e directory s (ascending_stages p.settings) hthrough
  have hE := sound_of_run hrun (fun a ha => (hnamed a ha).1) hdeclares
  have hslash : '/' ∉ e.baseName.toList := fun h => hname (Name.mem_of_mem_base h)
  obtain ⟨v, hagain, hecho⟩ := stages_again hp hE hroot hslash hthrough
    ⟨fun _ h => h, fun _ h => h, fun _ _ h => h⟩ rfl rfl
    (t := p.started e directory _) ⟨rfl, ⟨rfl, rfl, rfl, rfl, nofun⟩, fun _ _ h => h, fun _ => rfl⟩
  rw [Planner.run_of_entity _ _ rfl hentity]
  rw [show (memoryPlanner l settings {}).performAll _ _ = _ from Planner.performAll_of_through hagain]
  exact ⟨_, _, rfl, rfl, hecho.store, hecho.context.products⟩

end Second

/-- The classes of the sample entity, each with a source that declares it. -/
def sampleClasses : Memory :=
  .ofFiles ([("repository/", "interface ", "BaseRepository"), ("repository/", "interface ", "ARepository"),
    ("service/dto/", "class ", "ADTO"), ("service/mapper/", "interface ", "EntityMapper"),
    ("service/mapper/", "interface ", "AMapper"), ("service/query/", "class ", "AQuery"),
    ("dao/", "interface ", "ADao"), ("service/", "class ", "AService"),
    ("controller/", "class ", "AController")].map
      fun (directory, keyword, name) => (directory ++ name ++ ".java", keyword ++ name ++ " \x7b\x7d"))

theorem sample_declares :
    ((memoryPlanner {} {} {}).run sampleEntity "m" { store := sampleClasses }).1.toOption.map
        (fun r => (r.status, decide (∀ a ∈ r.products, Text.endsWith a.path ".java" = true →
          Source.Declares a.content a.name (declaredKind {} a.kind)))) =
      some (.completed, true) := by
  decide +kernel

theorem second_run_reuses_sample : ∃ r t,
    (memoryPlanner {} {} {}).run sampleEntity "m" { store := sampleClasses } = (.ok r, t) ∧
      r.status = .completed ∧ ∃ r' t', (memoryPlanner {} {} {}).run sampleEntity "m" t = (.ok r', t') ∧
        r'.status = .completed ∧ t'.store = t.store ∧ r'.products = again r.products := by
  have hrun := sample_declares
  rcases hx : (memoryPlanner {} {} {}).run sampleEntity "m" { store := sampleClasses } with ⟨_ | r, t⟩
  · rw [hx] at hrun
    exact nomatch hrun
  · rw [hx] at hrun
    obtain ⟨hdone, hdeclares⟩ := Prod.mk.inj (Option.some.inj hrun)
    exact ⟨r, t, rfl, hdone, second_run_reuses {} rfl {} sampleEntity (by decide +kernel) "m" hx hdone
      (of_decide_eq_true hdeclares)⟩

end Run

end Scaffold
