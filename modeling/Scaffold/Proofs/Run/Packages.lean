import Scaffold.Proofs.Run.Ledger
import Scaffold.Proofs.Run.Regime
import Scaffold.Proofs.Store.Above

/-! Classes sit where their packages say: the homes of an entity at the Java root or below it do not leave the
root, and the package line of a new source names the directory of its file. -/

namespace Scaffold

namespace Run.Layout

open Scaffold.Text
open Scaffold.Store (Bare)

/-- A path lies below the Java root. Below the top is every path that is not absolute. -/
def Covers (l : Layout) (path : String) : Prop :=
  if l.javaRoot = "" then startsWith path "/" = false else startsWith path (l.javaRoot ++ "/") = true

instance (l : Layout) (path : String) : Decidable (l.Covers path) :=
  inferInstanceAs (Decidable (if l.javaRoot = "" then startsWith path "/" = false
    else startsWith path (l.javaRoot ++ "/") = true))

/-- A directory at the Java root or below it. -/
structure Inside (l : Layout) (directory : String) : Prop extends Bare directory where
  within : directory = l.javaRoot ∨ l.Covers directory

variable {l : Layout} {d : String}

theorem covers_top (h : l.javaRoot = "") : l.Covers d ↔ startsWith d "/" = false := by
  unfold Covers
  rw [if_pos h]

theorem covers_iff (h : l.javaRoot ≠ "") : l.Covers d ↔ ∃ rest, d.toList = l.javaRoot.toList ++ '/' :: rest := by
  unfold Covers
  rw [if_neg h, startsWith_iff, String.toList_append]
  constructor
  · rintro ⟨rest, hrest⟩
    exact ⟨rest, by rw [← hrest]; simp⟩
  · rintro ⟨rest, hrest⟩
    exact ⟨rest, by rw [hrest]; simp⟩

theorem Inside.nonempty (h : l.Inside d) (hroot : l.javaRoot ≠ "") : d ≠ "" := by
  rintro rfl
  rcases h.within with hw | hw
  · exact hroot hw.symm
  · obtain ⟨rest, hrest⟩ := (covers_iff hroot).1 hw
    exact absurd hrest.symm (by simp)

theorem Inside.covers_join (h : l.Inside d) {name : String} (hn : '/' ∉ name.toList) :
    l.Covers (Store.join d name) := by
  by_cases hroot : l.javaRoot = ""
  · rw [covers_top hroot]
    exact h.front_join hn
  · rw [covers_iff hroot, Store.toList_join h.back hn (h.nonempty hroot)]
    rcases h.within with rfl | hw
    · exact ⟨_, rfl⟩
    · obtain ⟨rest, hrest⟩ := (covers_iff hroot).1 hw
      exact ⟨rest ++ '/' :: name.toList, by rw [hrest]; simp⟩

theorem Inside.join (h : l.Inside d) {name : String} (hn : '/' ∉ name.toList) (hne : name ≠ "") :
    l.Inside (Store.join d name) :=
  ⟨h.toBare.join hn hne, .inr (h.covers_join hn)⟩

theorem parent?_eq_some {u : String} (h : l.parent? d = some u) : d ≠ l.javaRoot ∧ u = Store.parent d := by
  unfold Layout.parent? at h
  split at h
  · cases h
  · next htop =>
    rw [Bool.or_eq_true, beq_iff_eq, not_or] at htop
    exact ⟨htop.1, (Option.some.inj h).symm⟩

/-- A text that goes on with a slash does so before its last slash, or its last slash is this one. -/
theorem before_last_slash {root rest before name : List Char} (h : root ++ '/' :: rest = before ++ '/' :: name)
    (hname : '/' ∉ name) : ∃ s, before = root ++ s ∧ (s = [] ∨ ∃ z, s = '/' :: z) := by
  rcases List.append_eq_append_iff.1 h with ⟨s, hs, hslash⟩ | ⟨s, hs, hslash⟩
  · refine ⟨s, hs, ?_⟩
    rcases s with _ | ⟨c, z⟩
    · exact .inl rfl
    · rw [List.cons_append] at hslash
      exact .inr ⟨z, by rw [(List.cons.inj hslash).1]⟩
  · rcases s with _ | ⟨c, z⟩
    · exact ⟨[], by rw [List.append_nil] at hs ⊢; exact hs.symm, .inl rfl⟩
    · rw [List.cons_append] at hslash
      exact absurd (by rw [(List.cons.inj hslash).2]; simp) hname

/-- The step upwards from a directory below the root ends at the root or below it. -/
theorem Inside.parent? (h : l.Inside d) (hroot : l.Inside l.javaRoot) {u : String} (hu : l.parent? d = some u) :
    l.Inside u := by
  obtain ⟨hne, rfl⟩ := parent?_eq_some hu
  have hbare : Bare (Store.parent d) := h.toBare.parent
  refine ⟨hbare, ?_⟩
  by_cases htop : l.javaRoot = ""
  · exact .inr ((covers_top htop).2 hbare.front)
  · obtain ⟨rest, hrest⟩ := (covers_iff htop).1 (h.within.resolve_left hne)
    obtain ⟨before, name, hd, hname, hparent⟩ := Store.exists_above h.front (by rw [hrest]; simp)
    obtain ⟨s, rfl, hs⟩ := before_last_slash (hrest.symm.trans hd) hname
    -- What is left behind the root is empty or begins with the slash that was there.
    rw [Store.rdropWhile_append_of_back hroot.toBare.getLast?_ne] at hparent
    have hprefix : s.rdropWhile (· == '/') <+: s := List.rdropWhile_prefix _ _
    rcases hchars : s.rdropWhile (· == '/') with _ | ⟨c, z⟩ <;> rw [hchars] at hparent hprefix
    · exact .inl (String.toList_inj.1 (hparent.trans (List.append_nil _)))
    · refine .inr ((covers_iff htop).2 ⟨z, ?_⟩)
      rcases hs with rfl | ⟨y, rfl⟩
      · exact nomatch List.prefix_nil.1 hprefix
      · rw [hparent, (List.cons_prefix_cons.1 hprefix).1]

end Run.Layout

namespace Run

variable {σ : Type}

/-- A class in its place: its path lies below the Java root, and a new source begins with the line of the
package of its directory. -/
structure Layout.Sits (l : Layout) (a : Product) : Prop where
  below : l.Covers a.path
  headed : a.created = true → Artifact.Headed (l.packageOf (Store.parent a.path)) a.content

section Inside

variable {p : Planner σ} {T : Terrain} {container : String} (hroot : p.layout.Inside p.layout.javaRoot)
  (hc : p.layout.Inside container)

theorem inside_below {parent name d : String} (hp : p.layout.Inside parent) (h : T.Below parent name d)
    (hn : '/' ∉ name.toList ∧ name ≠ "") : p.layout.Inside d := by
  rcases h.2 with rfl | ⟨rfl, -⟩
  · exact hp.join hn.1 hn.2
  · exact hp

include hroot hc in
theorem inside_serviceHome {d : String} (h : p.ServiceHome T container d) : p.layout.Inside d := by
  have hbase : p.layout.Inside (p.serviceBase container) := by
    unfold Planner.serviceBase
    rcases hparent : p.layout.parent? container with _ | parent
    · exact hc
    · have hp := hc.parent? hroot hparent
      dsimp only
      rcases habove : p.layout.parent? parent with _ | above
      · exact hp
      · exact hp.parent? hroot habove
  exact inside_below hbase h (by decide)

include hroot hc in
theorem inside_belowServiceHome {name d : String} (h : p.BelowServiceHome T container name d)
    (hn : '/' ∉ name.toList ∧ name ≠ "") : p.layout.Inside d := by
  obtain ⟨service, hservice, hd⟩ := h
  exact inside_below (inside_serviceHome hroot hc hservice) hd hn

include hroot hc in
theorem inside_besideHome {name d : String} (h : p.BesideHome T container name d)
    (hn : '/' ∉ name.toList ∧ name ≠ "") : p.layout.Inside d := by
  have hd := h.2
  rcases hparent : p.layout.parent? container with _ | parent <;> rw [hparent] at hd
  · rw [hd]
    exact hc
  · exact inside_below (hc.parent? hroot hparent) hd hn

include hroot hc in
theorem inside_controllerHome {d : String} (h : p.ControllerHome T container d) : p.layout.Inside d := by
  obtain ⟨service, hservice, hd⟩ := h
  have hs := inside_serviceHome hroot hc hservice
  have hparent : p.layout.Inside ((p.layout.parent? service).getD p.layout.javaRoot) := by
    rcases hparent : p.layout.parent? service with _ | parent
    · exact hroot
    · exact hs.parent? hroot hparent
  have hweb : p.layout.Inside (Store.join ((p.layout.parent? service).getD p.layout.javaRoot) "web") :=
    hparent.join (by decide) (by decide)
  rcases hd with hd | ⟨-, rfl | rfl⟩
  · exact inside_below hparent hd (by decide)
  · exact hweb
  · exact hweb.join (by decide) (by decide)

include hroot hc in
/-- The homes of classes do not leave the Java root. -/
theorem inside_home {kind : ArtifactKind} {d : String} (h : p.Home T container kind d)
    (hk : kind.extension = ".java") : p.layout.Inside d := by
  cases kind with
  | baseRepository | repository | dao => exact inside_besideHome hroot hc h (by decide)
  | dto | dtoAdd | dtoUpdate | entityMapper | mapper | baseQuery | query | serviceImpl =>
    exact inside_belowServiceHome hroot hc h (by decide)
  | service => exact inside_serviceHome hroot hc h
  | controller => exact inside_controllerHome hroot hc h
  | daoXml | page => exact absurd hk (by decide)

theorem extension_of_java {kind : ArtifactKind} {path : String}
    (hpath : Text.endsWith path kind.extension = true) (hjava : Text.endsWith path ".java" = true) :
    kind.extension = ".java" := by
  have hexts : kind.extension = ".java" ∨ kind.extension = ".xml" ∨ kind.extension = ".vue" := by
    cases kind <;> decide
  rcases hexts with hext | hext | hext <;> rw [hext] at hpath
  · exact hext
  · rw [Text.not_endsWith hpath (by decide)] at hjava
    cases hjava
  · rw [Text.not_endsWith hpath (by decide)] at hjava
    cases hjava

include hroot hc in
theorem Housed.sits {e : Entity} {a : Product} {t : Template} {directory : String}
    (h : Housed p T e container a t directory) (he : '/' ∉ e.name.toList)
    (hjava : Text.endsWith a.path ".java" = true) : p.layout.Sits a := by
  have hpath : Text.endsWith a.path t.kind.extension = true := by
    rw [h.path]
    exact Store.endsWith_join h.template.extension
  have hk := extension_of_java hpath hjava
  have hslash := h.template.no_slash he
  have hinside := inside_home hroot hc h.home hk
  refine ⟨?_, fun hcreated => ?_⟩
  · rw [h.path]
    exact hinside.covers_join hslash
  · rw [h.path, h.text hcreated, Store.parent_join hinside.toBare hslash]
    exact (h.template.headed hk).normalize

end Inside

theorem Planner.subdir_value (p : Planner σ) {parent name d : String} {s : Session σ}
    (h : (p.subdir parent name s).1 = .ok d) : d = Store.join parent name ∨ d = parent := by
  cases hdir : p.store.isDir s (Store.join parent name) with
  | true =>
    rw [p.subdir_of_isDir hdir] at h
    exact .inl (Except.ok.inj h).symm
  | false =>
    rw [p.subdir_of_missing hdir] at h
    rcases hx : p.store.makeDir (Store.join parent name) s with ⟨f | _, t⟩ <;> rw [hx] at h
    · dsimp only at h
      split at h
      · exact .inr (Except.ok.inj h).symm
      · exact nomatch h
    · exact .inl (Except.ok.inj h).symm

/-- What every store keeps up, however it makes directories and whatever is there: runs use no names but their
own. -/
def anyRegime {p : Planner σ} (hS : Steady p.store) : Regime p where
  holds _ := True
  terrain _ := ⟨fun _ => True, fun _ _ => True⟩
  fails _ := True
  own _ := trivial
  steady := hS
  roots _ := ⟨trivial, trivial, trivial⟩
  above _ _ _ := trivial
  found _ _ := trivial
  aside _ _ _ := ⟨trivial, .refl _⟩
  subdir {s parent} name _ _ := by
    refine ⟨trivial, .refl _, ?_⟩
    rcases hx : (p.subdir parent name s).1 with f | d
    · trivial
    · exact ⟨trivial, (p.subdir_value hx).imp_right fun h => ⟨h, trivial⟩⟩
  createFile _ _ _ _ := ⟨trivial, .refl _, fun _ _ => trivial⟩

theorem Layout.inside_of (javaRoot : String) (resourcesRoot : Option String) (projectRoot : String) :
    (Layout.of javaRoot resourcesRoot projectRoot).Inside
      (Layout.of javaRoot resourcesRoot projectRoot).javaRoot :=
  ⟨Store.bare_stripSlashes javaRoot, .inl rfl⟩

/-- Whatever the store does, all classes of a run for an entity at the Java root or below it sit where their
packages say, also those of a run that ends without a result. -/
theorem classes_sit_in_packages (S : Store σ) (javaRoot : String) (resourcesRoot : Option String)
    (projectRoot : String) (settings : Settings) {e : Entity} (hname : '/' ∉ e.name.toList) {directory : String}
    (hd : Store.stripSlashes directory = (Layout.of javaRoot resourcesRoot projectRoot).javaRoot ∨
      (Layout.of javaRoot resourcesRoot projectRoot).Covers (Store.stripSlashes directory)) (s : Session σ) :
    let p : Planner σ := ⟨Layout.of javaRoot resourcesRoot projectRoot, settings, inSession S⟩
    (∀ r t, p.run e directory s = (.ok r, t) → ∀ a ∈ r.products, Text.endsWith a.path ".java" = true →
      p.layout.Sits a) ∧
    (s.busy = false → e.isEntity = true → ∀ a ∈ (p.run e directory s).2.context.products,
      Text.endsWith a.path ".java" = true → p.layout.Sits a) := by
  intro p
  have hroot : p.layout.Inside p.layout.javaRoot := Layout.inside_of javaRoot resourcesRoot projectRoot
  have hc : p.layout.Inside (Store.stripSlashes directory) := ⟨Store.bare_stripSlashes directory, hd⟩
  have hproducts : s.busy = false → e.isEntity = true → ∀ a ∈ (p.run e directory s).2.context.products,
      Text.endsWith a.path ".java" = true → p.layout.Sits a := by
    intro hs he a ha hjava
    have hend : (anyRegime (steady_inSession S)).At e (Store.stripSlashes directory) (p.run e directory s).2 :=
      Regime.at_run _ trivial trivial hs he
    obtain ⟨t, home, hhoused⟩ := hend.housed a ha
    exact hhoused.sits hroot hc hname hjava
  refine ⟨fun r t hrun a ha => ?_, hproducts⟩
  cases hs : s.busy with
  | true =>
    rw [p.run_of_busy e directory hs] at hrun
    exact nomatch hrun
  | false =>
    cases he : e.isEntity with
    | false =>
      rw [p.run_of_skipped directory hs he] at hrun
      cases hrun
      exact nomatch ha
    | true =>
      have hsame := (p.run_ok hs he hrun).1
      rw [hsame] at ha
      refine hproducts hs he a ?_
      rw [hrun]
      exact ha

/-- Sources of which only the repository of the sample entity is missing, with a directory for the web. -/
def sampleRoot : Store.Memory :=
  .ofFiles (["BaseRepository", "service/dto/ADTO", "service/mapper/EntityMapper", "service/mapper/AMapper",
    "service/query/AQuery", "dao/ADao", "service/AService", "web/AController"].map fun name =>
      ("src/" ++ name ++ ".java", ""))

def sampleRefusals : Store.Refusals where
  makeDir path := if path == "src/repository" then some "read-only" else none

/-- The missing repository goes to the root, into the unnamed package. -/
theorem sample_creates_class :
    ((memoryPlanner (.of "/src" none "") {} sampleRefusals).run sampleEntity "src/m/"
      { store := sampleRoot }).1.toOption.map (fun r => (r.status,
        decide (∃ a ∈ r.products, a.path = "src/ARepository.java" ∧ a.created = true))) =
      some (.completed, true) := by
  decide +kernel

theorem classes_sit_in_packages_sample : ∃ r t,
    (memoryPlanner (.of "/src" none "") {} sampleRefusals).run sampleEntity "src/m/" { store := sampleRoot } =
      (.ok r, t) ∧ r.status = .completed ∧
      (∃ a ∈ r.products, a.path = "src/ARepository.java" ∧ a.created = true) ∧
      ∀ a ∈ r.products, Text.endsWith a.path ".java" = true → (Layout.of "/src" none "").Sits a := by
  have hrun := sample_creates_class
  have hd : Store.stripSlashes "src/m/" = (Layout.of "/src" none "").javaRoot ∨
      (Layout.of "/src" none "").Covers (Store.stripSlashes "src/m/") := .inr (by decide +kernel)
  have hsits := classes_sit_in_packages (Store.Memory.store.refusing sampleRefusals) "/src" none "" {}
    (e := sampleEntity) (by decide) hd { store := sampleRoot }
  rcases hx : (memoryPlanner (.of "/src" none "") {} sampleRefusals).run sampleEntity "src/m/"
    { store := sampleRoot } with ⟨_ | r, t⟩
  · rw [hx] at hrun
    exact nomatch hrun
  · rw [hx] at hrun
    obtain ⟨hdone, hcreated⟩ := Prod.mk.inj (Option.some.inj hrun)
    exact ⟨r, t, rfl, hdone, of_decide_eq_true hcreated, hsits.1 r t hx⟩

end Run

end Scaffold
