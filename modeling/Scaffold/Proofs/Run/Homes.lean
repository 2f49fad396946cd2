import Scaffold.Proofs.Artifact.Heading
import Scaffold.Run.Generate

/-! Where the artifacts of a run live. Every kind has its homes: a directory near the entity or below a
source root, or the one above where that could not be made. -/

namespace Scaffold.Run

variable {σ : Type}

/-- What is known of directories: which are there, and which could not be made below another one. -/
structure Terrain where
  there : String → Prop
  refused : String → String → Prop

namespace Terrain

/-- On the second terrain more is known. -/
structure Extends (T U : Terrain) : Prop where
  there : ∀ {d}, T.there d → U.there d
  refused : ∀ {parent name}, T.refused parent name → U.refused parent name

theorem Extends.refl (T : Terrain) : T.Extends T := ⟨id, id⟩

theorem Extends.trans {T U V : Terrain} (h : T.Extends U) (k : U.Extends V) : T.Extends V :=
  ⟨fun hd => k.there (h.there hd), fun hd => k.refused (h.refused hd)⟩

/-- The directory for a name below another one; that one itself, if the store could not make it. -/
def Below (T : Terrain) (parent name d : String) : Prop :=
  T.there d ∧ (d = Store.join parent name ∨ d = parent ∧ T.refused parent name)

theorem Below.extend {T U : Terrain} {parent name d : String} (h : T.Below parent name d) (k : T.Extends U) :
    U.Below parent name d :=
  ⟨k.there h.1, h.2.imp_right fun hd => ⟨hd.1, k.refused hd.2⟩⟩

end Terrain

namespace Planner

variable (p : Planner σ) (T : Terrain) (container : String)

/-- The directory of the services of an entity. -/
def ServiceHome (d : String) : Prop := T.Below (p.serviceBase container) "service" d

def BelowServiceHome (name d : String) : Prop :=
  ∃ service, p.ServiceHome T container service ∧ T.Below service name d

def BesideHome (name d : String) : Prop :=
  T.there d ∧ match p.layout.parent? container with
    | none => d = container
    | some parent => T.Below parent name d

/-- The directory of the controllers: one of theirs, or the one for the web that is there, or its part for
services. -/
def ControllerHome (d : String) : Prop :=
  ∃ service, p.ServiceHome T container service ∧
    let parent := (p.layout.parent? service).getD p.layout.javaRoot
    T.Below parent "controller" d ∨ T.there d ∧
      (d = Store.join parent "web" ∨ d = Store.join (Store.join parent "web") "rest")

/-- The directories that a kind of artifact may be put into. -/
def Home : ArtifactKind → String → Prop
  | .baseRepository, d | .repository, d => p.BesideHome T container "repository" d
  | .dto, d | .dtoAdd, d | .dtoUpdate, d => p.BelowServiceHome T container "dto" d
  | .entityMapper, d | .mapper, d => p.BelowServiceHome T container "mapper" d
  | .baseQuery, d | .query, d => p.BelowServiceHome T container "query" d
  | .dao, d => p.BesideHome T container "dao" d
  | .daoXml, d => T.Below p.layout.resourcesRoot "mappers" d
  | .service, d => p.ServiceHome T container d
  | .serviceImpl, d => p.BelowServiceHome T container "impl" d
  | .controller, d => p.ControllerHome T container d
  | .page, d => ∃ ui, T.Below p.layout.projectRoot "ui" ui ∧ T.Below ui "views" d

variable {p T container}

theorem BelowServiceHome.extend {U : Terrain} {name d : String} (h : p.BelowServiceHome T container name d)
    (k : T.Extends U) : p.BelowServiceHome U container name d := by
  obtain ⟨service, hservice, hd⟩ := h
  exact ⟨service, Terrain.Below.extend hservice k, hd.extend k⟩

theorem BesideHome.extend {U : Terrain} {name d : String} (h : p.BesideHome T container name d)
    (k : T.Extends U) : p.BesideHome U container name d := by
  refine ⟨k.there h.1, ?_⟩
  have hd := h.2
  rcases hparent : p.layout.parent? container with _ | parent <;> rw [hparent] at hd
  · exact hd
  · exact hd.extend k

theorem ControllerHome.extend {U : Terrain} {d : String} (h : p.ControllerHome T container d)
    (k : T.Extends U) : p.ControllerHome U container d := by
  obtain ⟨service, hservice, hd⟩ := h
  exact ⟨service, Terrain.Below.extend hservice k, hd.imp (·.extend k) fun hd => ⟨k.there hd.1, hd.2⟩⟩

theorem Home.extend {U : Terrain} {kind : ArtifactKind} {d : String} (h : p.Home T container kind d)
    (k : T.Extends U) : p.Home U container kind d := by
  cases kind with
  | baseRepository | repository | dao => exact BesideHome.extend h k
  | dto | dtoAdd | dtoUpdate | entityMapper | mapper | baseQuery | query | serviceImpl =>
    exact BelowServiceHome.extend h k
  | daoXml | service => exact Terrain.Below.extend h k
  | controller => exact ControllerHome.extend h k
  | page =>
    obtain ⟨ui, hui, hd⟩ := h
    exact ⟨ui, hui.extend k, hd.extend k⟩

theorem Home.there {kind : ArtifactKind} {d : String} (h : p.Home T container kind d) : T.there d := by
  cases kind with
  | baseRepository | repository | dao | daoXml | service => exact h.1
  | dto | dtoAdd | dtoUpdate | entityMapper | mapper | baseQuery | query | serviceImpl =>
    obtain ⟨_, -, hd⟩ := h
    exact hd.1
  | controller =>
    obtain ⟨_, -, hd | hd⟩ := h
    · exact hd.1
    · exact hd.1
  | page =>
    obtain ⟨_, -, hd⟩ := h
    exact hd.1

end Planner

/-- An artifact at home: it comes from a template for its directory, whose text a new file holds. -/
structure Housed (p : Planner σ) (T : Terrain) (e : Entity) (container : String) (a : Product)
    (t : Template) (directory : String) : Prop where
  template : Artifact.Addressed p.layout e t directory
  kind : a.kind = t.kind
  home : p.Home T container t.kind directory
  path : a.path = Store.join directory t.fileName
  text : a.created = true → a.content = Store.normalize t.content

theorem Housed.extend {p : Planner σ} {T U : Terrain} {e : Entity} {container : String} {a : Product}
    {t : Template} {directory : String} (h : Housed p T e container a t directory) (k : T.Extends U) :
    Housed p U e container a t directory :=
  ⟨h.template, h.kind, h.home.extend k, h.path, h.text⟩

end Scaffold.Run
