import Scaffold.Proofs.Run.Packages

/-! The paths of the artifacts of a run. Each artifact has a path of its own, unless the entity is called so that
one of its files has the name of a shared type. -/

namespace Scaffold

namespace Store

theorem takeWhile_reverse_join {directory name : String} (h : '/' ∉ name.toList) :
    (join directory name).toList.reverse.takeWhile (· != '/') = name.toList.reverse := by
  have hname : ∀ c ∈ name.toList.reverse, (c != '/') = true := by
    intro c hc
    rw [bne_iff_ne]
    rintro rfl
    exact h (List.mem_reverse.1 hc)
  unfold join
  rw [not_startsWith_slash_of_not_mem h, Bool.or_false]
  by_cases hempty : directory.isEmpty = true
  · rw [if_pos hempty, List.takeWhile_eq_self_iff.2 hname]
  · rw [if_neg hempty]
    by_cases hslash : Text.endsWith directory "/" = true
    · obtain ⟨front, hfront⟩ := Text.endsWith_iff.1 hslash
      rw [if_pos hslash, String.toList_append, ← hfront, List.reverse_append, List.reverse_append,
        List.takeWhile_append_of_pos hname]
      simp
    · rw [if_neg hslash, String.toList_append, String.toList_append, List.reverse_append, List.reverse_append,
        List.takeWhile_append_of_pos hname]
      simp

theorem name_eq_of_join_eq {directory other name last : String} (hn : '/' ∉ name.toList) (hl : '/' ∉ last.toList)
    (h : join directory name = join other last) : name = last := by
  have hchars : name.toList.reverse = last.toList.reverse := by
    rw [← takeWhile_reverse_join hn, ← takeWhile_reverse_join hl, h]
  exact String.toList_inj.1 (List.reverse_inj.1 hchars)

end Store

namespace Run

open Store (Memory)

variable {σ : Type}

/-- Artifacts in the order of their ranks, each of another rank than those before. -/
def Ranked (ps : List Product) : Prop := ps.Pairwise fun a b => a.kind.rank < b.kind.rank

theorem Verdict.agree_ne_part (f : Failure) (t : Session σ) : (Verdict.agree : Verdict σ) ≠ .part f t := by
  intro h
  cases h

/-- A run beside itself, with the ranks of its artifacts. -/
def rankedSimulation {S : Store (Session σ)} (hS : Steady S) (l : Layout) (e : Entity) : Simulation l e S S where
  holds a ps b := a = b ∧ Ranked ps
  known _ _ := True
  verdict _ := .agree
  roots _ := ⟨trivial, trivial, trivial⟩
  above _ _ _ := trivial
  isDir := by
    rintro s b d name ⟨rfl, -⟩ - -
    rfl
  found _ _ _ _ := trivial
  steady := hS
  makeDir_settled _ _ := .inl rfl
  write_settled _ _ _ := .inl rfl
  makeDir_parts _ _ f t _ := Verdict.agree_ne_part f t
  makeDir := by
    rintro s b d name - ⟨rfl, h⟩ - - -
    exact ⟨_, rfl, fun _ _ => trivial, ⟨rfl, h⟩, fun _ _ => trivial⟩
  createFile := by
    rintro s b t d - ⟨rfl, h⟩ - - hranks
    refine ⟨_, rfl, fun _ _ => trivial, rfl, ?_⟩
    rcases (S.createFile d t.fileName t.content s).1 with f | placed
    · rw [gained, List.append_nil]
      exact h
    · refine List.pairwise_append.2 ⟨h, List.pairwise_singleton _ _, fun a ha b hb => ?_⟩
      rw [List.mem_singleton.1 hb]
      exact hranks a ha

theorem ranked_run {p : Planner σ} (hS : Steady p.store) {e : Entity} (directory : String) {s : Session σ}
    (hs : s.busy = false) (he : e.isEntity = true) : Ranked (p.run e directory s).2.context.products := by
  let R := rankedSimulation hS p.layout e
  have hstart : R.Related e 0 (p.started e directory s) s.store :=
    Simulation.related_started (p := p) R rfl ⟨rfl, List.Pairwise.nil⟩ trivial
  obtain ⟨c, -, hend⟩ := Simulation.run_agrees (p := p) R hs he hstart rfl
  exact hend.holds.2

/-- Of two artifacts at one path the first is a shared type, and the second its counterpart of the entity. -/
theorem counterpart_of_path_eq {p : Planner σ} {T : Terrain} {e : Entity} {container d d' : String} {a b : Product}
    {t u : Template} (he : '/' ∉ e.name.toList) (ha : Housed p T e container a t d)
    (hb : Housed p T e container b u d') (hr : a.kind.rank < b.kind.rank) (h : a.path = b.path) :
    a.kind.counterpart? = some (b.kind, e.baseName) := by
  obtain ⟨stem, hstem, hfile, -⟩ := ha.template.file
  obtain ⟨other, hother, hlast, -⟩ := hb.template.file
  have hname : t.fileName = u.fileName := by
    rw [ha.path, hb.path] at h
    exact Store.name_eq_of_join_eq (ha.template.no_slash he) (hb.template.no_slash he) h
  rw [ha.kind, hb.kind] at hr ⊢
  exact ArtifactKind.counterpart_of_file_eq hstem hother hr (by rw [← hfile, ← hlast, hname])

theorem base_of_counterpart {kind other : ArtifactKind} {base : String}
    (h : kind.counterpart? = some (other, base)) : base = "Base" ∨ base = "Entity" := by
  cases kind with
  | baseRepository | baseQuery =>
    cases h
    exact .inl rfl
  | entityMapper =>
    cases h
    exact .inr rfl
  | _ => exact nomatch h

theorem Ledger.kept_before {before now : Memory} {ps : List Product} (h : Ledger before ps now)
    (hpaths : (ps.map (·.path)).Nodup) {a : Product} (ha : a ∈ ps) (hc : a.created = false) :
    before.read a.path = some a.content := by
  obtain ⟨earlier, later, rfl⟩ := List.append_of_mem ha
  have hkept := h.kept earlier a later rfl hc
  have hnone : (createdFiles earlier).lookup a.path = none := by
    refine List.lookup_eq_none_iff.2 fun entry hentry => ?_
    obtain ⟨b, hb, rfl⟩ := List.mem_map.1 hentry
    rw [List.map_append, List.map_cons, List.nodup_append] at hpaths
    refine bne_iff_ne.2 fun hsame => ?_
    exact hpaths.2.2 b.path (List.mem_map_of_mem (List.mem_of_mem_filter hb)) a.path List.mem_cons_self hsame.symm
  rw [List.lookup_append, hnone, Option.or_none] at hkept
  exact hkept

/-- Two artifacts of a run share a path only where an entity with the base name `Base` or `Entity` has a file that
is called like a shared type before it. All other entities have a path for each artifact, whatever the store makes
of the directories: what a run reports as kept was there before it, and in an empty store all is new. -/
theorem artifacts_have_own_paths (S : Store σ) (l : Layout) (settings : Settings) {e : Entity}
    (hname : '/' ∉ e.name.toList) (directory : String) {s t : Session σ} {r : Result}
    (hrun : (Planner.mk l settings (inSession S)).run e directory s = (.ok r, t)) :
    (r.products.Pairwise fun a b => a.path = b.path → a.kind.counterpart? = some (b.kind, e.baseName)) ∧
      (e.baseName ≠ "Base" → e.baseName ≠ "Entity" → (r.products.map (·.path)).Nodup ∧
        ∀ view : σ → Memory, S.Shows view →
          (∀ a ∈ r.products, a.created = false → (view s.store).read a.path = some a.content) ∧
          ((view s.store).files = [] → ∀ a ∈ r.products, a.created = true)) := by
  let p : Planner σ := ⟨l, settings, inSession S⟩
  change p.run e directory s = _ at hrun
  have hpairs : r.products.Pairwise fun a b =>
      a.path = b.path → a.kind.counterpart? = some (b.kind, e.baseName) := by
    cases hs : s.busy with
    | true =>
      rw [p.run_of_busy e directory hs] at hrun
      exact nomatch hrun
    | false =>
      cases he : e.isEntity with
      | false =>
        rw [p.run_of_skipped directory hs he] at hrun
        cases hrun
        exact .nil
      | true =>
        have hranked : Ranked (p.run e directory s).2.context.products :=
          ranked_run (steady_inSession S) directory hs he
        have hend : (anyRegime (steady_inSession S)).At e (Store.stripSlashes directory) (p.run e directory s).2 :=
          Regime.at_run _ trivial trivial hs he
        rw [hrun] at hranked hend
        rw [(p.run_ok hs he hrun).1]
        refine hranked.imp_of_mem fun {a b} ha hb hr hpath => ?_
        obtain ⟨u, d, hhoused⟩ := hend.housed a ha
        obtain ⟨v, d', hother⟩ := hend.housed b hb
        exact counterpart_of_path_eq hname hhoused hother hr hpath
  refine ⟨hpairs, fun hbase hentity => ?_⟩
  have hpaths : (r.products.map (·.path)).Nodup := by
    refine List.pairwise_map.2 (hpairs.imp fun h hsame => ?_)
    exact (base_of_counterpart (h hsame)).elim hbase hentity
  refine ⟨hpaths, fun view hS => ?_⟩
  have hledger := (run_ledger hS l settings e directory hrun).1
  refine ⟨fun a ha hc => hledger.kept_before hpaths ha hc, fun hempty a ha => ?_⟩
  cases hc : a.created with
  | true => rfl
  | false =>
    have hread := hledger.kept_before hpaths ha hc
    unfold Memory.read at hread
    rw [hempty] at hread
    exact nomatch hread

theorem artifacts_have_own_paths_sample : ∃ r t,
    (memoryPlanner {} {} {}).run sampleEntity "m" { store := sampleMemory } = (.ok r, t) ∧
      r.status = .completed ∧ (r.products.map (·.path)).Nodup := by
  have hrun := sample_completes
  rcases hx : (memoryPlanner {} {} {}).run sampleEntity "m" { store := sampleMemory } with ⟨_ | r, t⟩
  · rw [hx] at hrun
    exact nomatch hrun
  · rw [hx] at hrun
    obtain ⟨-, hpaths⟩ := artifacts_have_own_paths (Memory.store.refusing {}) {} {} (e := sampleEntity) (by decide)
      "m" hx
    exact ⟨r, t, rfl, congrArg Prod.fst (Option.some.inj hrun), (hpaths (by decide) (by decide)).1⟩

/-- An entity whose repository is called like the one that all repositories build on. -/
def baseEntity : Entity := { name := "BaseEntity", package := "m", annotations := ["Entity"] }

def baseMemory : Memory :=
  .ofFiles (["repository/BaseRepository", "service/dto/BaseDTO", "service/mapper/EntityMapper",
    "service/mapper/BaseMapper", "service/query/BaseQuery", "dao/BaseDao", "service/BaseService",
    "controller/BaseController"].map fun name => (name ++ ".java", ""))

/-- The repository of the entity stands behind the one that all build on, at the same path. -/
theorem base_repository_shadowed :
    ((memoryPlanner {} {} {}).run baseEntity "m" { store := baseMemory }).1.toOption.map (fun r =>
        (r.status, (r.products.take 2).map fun a => (a.kind, a.path))) =
      some (.completed, [(.baseRepository, "repository/BaseRepository.java"),
        (.repository, "repository/BaseRepository.java")]) := by
  decide +kernel

end Run

end Scaffold
