import Mathlib.Data.List.Basic
import Scaffold.Artifact.Controller
import Scaffold.Artifact.Dao
import Scaffold.Artifact.Dto
import Scaffold.Artifact.Mapping
import Scaffold.Artifact.Page
import Scaffold.Artifact.Persistence
import Scaffold.Artifact.Query
import Scaffold.Artifact.Service
import Scaffold.Run.Layout

/-! The place of every kind of artifact in the order of a run, and the files that an entity gives it.
Only the shared types are written alike for all entities. -/

namespace Scaffold

namespace ArtifactKind

def rank : ArtifactKind → Nat
  | .baseRepository => 0
  | .repository => 1
  | .dto => 2
  | .dtoAdd => 3
  | .dtoUpdate => 4
  | .entityMapper => 5
  | .mapper => 6
  | .baseQuery => 7
  | .query => 8
  | .dao => 9
  | .daoXml => 10
  | .service => 11
  | .serviceImpl => 12
  | .controller => 13
  | .page => 14

/-- The types that all entities of a project share. -/
def shared : ArtifactKind → Bool
  | .baseRepository | .entityMapper | .baseQuery => true
  | _ => false

def extension : ArtifactKind → String
  | .daoXml => ".xml"
  | .page => ".vue"
  | _ => ".java"

/-- What an artifact of some kind can be called, without the extension. -/
def stems (base : String) : ArtifactKind → List String
  | .baseRepository => [Artifact.baseRepositoryName]
  | .repository => [base ++ "Repository"]
  | .dto => [base ++ "DTO"]
  | .dtoAdd => [base ++ "AddDTO"]
  | .dtoUpdate => [base ++ "UpdateDTO"]
  | .entityMapper => [Artifact.entityMapperName]
  | .mapper => [base ++ "Mapper"]
  | .baseQuery => [Artifact.baseQueryName]
  | .query => [base ++ "Query"]
  | .dao | .daoXml => [base ++ "Dao"]
  | .service => [base ++ "Service"]
  | .serviceImpl => [base ++ "ServiceImpl"]
  | .controller => [base ++ "Controller", base ++ "Resource"]
  | .page => [Name.kebab base]

/-- All kinds by rank. -/
def all : List ArtifactKind :=
  [.baseRepository, .repository, .dto, .dtoAdd, .dtoUpdate, .entityMapper, .mapper, .baseQuery, .query,
   .dao, .daoXml, .service, .serviceImpl, .controller, .page]

/-- What stands in file names behind the base name of the entity. Shared types and pages are called
otherwise. -/
def endings (k : ArtifactKind) : List String :=
  if k.shared || k == .page then [] else (k.stems "").map (· ++ k.extension)

/-- What file names of shared types and of pages end with. -/
def fixedEnd : ArtifactKind → String
  | .page => ".vue"
  | k => (k.stems "").headD "" ++ k.extension

/-- Whether a file of one kind can be told from one of another kind of the same entity. -/
abbrev Apart (k m : ArtifactKind) : Prop :=
  ∀ a ∈ k.endings, a ∉ m.endings ∧ ((m.shared || m == .page) = true →
    ¬ a.toList <:+ m.fixedEnd.toList ∧ ¬ m.fixedEnd.toList <:+ a.toList)

theorem all_apart : all.Pairwise Apart := by
  decide +kernel

theorem all_rank (k : ArtifactKind) : all[k.rank]? = some k := by
  cases k <;> rfl

theorem apart_of_rank_lt {k m : ArtifactKind} (h : k.rank < m.rank) : Apart k m := by
  obtain ⟨hk, hkey⟩ := List.getElem?_eq_some_iff.1 k.all_rank
  obtain ⟨hm, hmey⟩ := List.getElem?_eq_some_iff.1 m.all_rank
  have hapart := List.pairwise_iff_getElem.1 all_apart k.rank m.rank hk hm h
  rwa [hkey, hmey] at hapart

theorem file_of_entity {k : ArtifactKind} {base stem : String} (h : stem ∈ k.stems base)
    (hk : (k.shared || k == .page) = false) : ∃ a ∈ k.endings, stem ++ k.extension = base ++ a := by
  have hstem : ∃ s ∈ k.stems "", stem = base ++ s := by
    cases k <;> first | exact absurd hk (by decide) | simpa [stems] using h
  obtain ⟨s, hs, rfl⟩ := hstem
  refine ⟨s ++ k.extension, ?_, String.append_assoc⟩
  unfold endings
  rw [hk]
  exact List.mem_map_of_mem hs

theorem fixedEnd_of_stem {k : ArtifactKind} {base stem : String} (h : stem ∈ k.stems base)
    (hk : (k.shared || k == .page) = true) : k.fixedEnd.toList <:+ (stem ++ k.extension).toList := by
  cases k with
  | page =>
    rw [String.toList_append]
    exact List.suffix_append _ _
  | baseRepository | entityMapper | baseQuery =>
    rw [List.mem_singleton.1 h]
    exact List.suffix_refl _
  | _ => exact absurd hk (by decide)

/-- Files of one entity have the same name only where the earlier one is a shared type. -/
theorem shared_of_file_eq {k m : ArtifactKind} {base stem other : String} (hk : stem ∈ k.stems base)
    (hm : other ∈ m.stems base) (hr : k.rank < m.rank) (h : stem ++ k.extension = other ++ m.extension) :
    k.shared = true := by
  by_contra hshared
  have hpage : k ≠ .page := by
    rintro rfl
    have hbound : m.rank ≤ 14 := by cases m <;> decide
    exact absurd hr (Nat.not_lt.2 hbound)
  have hentity : (k.shared || k == .page) = false := by
    rw [Bool.eq_false_iff.2 hshared, beq_eq_false_iff_ne.2 hpage]
    rfl
  obtain ⟨a, ha, hfile⟩ := file_of_entity hk hentity
  obtain ⟨hendings, hfixed⟩ := apart_of_rank_lt hr a ha
  cases hkind : m.shared || m == .page with
  | false =>
    obtain ⟨b, hb, hother⟩ := file_of_entity hm hkind
    rw [hfile, hother, String.append_right_inj] at h
    rw [h] at hendings
    exact hendings hb
  | true =>
    -- Both ends belong to one name, so the shorter of them ends the longer one.
    have hend := fixedEnd_of_stem hm hkind
    rw [← h, hfile, String.toList_append] at hend
    obtain ⟨hlong, hshort⟩ := hfixed hkind
    rcases List.suffix_or_suffix_of_suffix (List.suffix_append base.toList a.toList) hend with hs | hs
    · exact hlong hs
    · exact hshort hs

/-- The kind whose file, for one base name of an entity, is called like the one of a shared type. -/
def counterpart? : ArtifactKind → Option (ArtifactKind × String)
  | .baseRepository => some (.repository, "Base")
  | .entityMapper => some (.mapper, "Entity")
  | .baseQuery => some (.query, "Base")
  | _ => none

/-- Of the files behind the one of a shared type, only that of its counterpart can end like it. -/
abbrev Meets (k m : ArtifactKind) : Prop :=
  k.shared = true → ((m.shared || m == .page) = true → ¬ m.fixedEnd.toList <:+ k.fixedEnd.toList) ∧
    ∀ a ∈ m.endings, a.toList <:+ k.fixedEnd.toList →
      (k.counterpart?.map fun c => (c.1, c.2 ++ a)) = some (m, k.fixedEnd)

theorem all_meet : all.Pairwise Meets := by
  decide +kernel

theorem meets_of_rank_lt {k m : ArtifactKind} (h : k.rank < m.rank) : Meets k m := by
  obtain ⟨hk, hkey⟩ := List.getElem?_eq_some_iff.1 k.all_rank
  obtain ⟨hm, hmey⟩ := List.getElem?_eq_some_iff.1 m.all_rank
  have hmeets := List.pairwise_iff_getElem.1 all_meet k.rank m.rank hk hm h
  rwa [hkey, hmey] at hmeets

theorem file_of_shared {k : ArtifactKind} {base stem : String} (h : stem ∈ k.stems base) (hk : k.shared = true) :
    stem ++ k.extension = k.fixedEnd := by
  cases k with
  | baseRepository | entityMapper | baseQuery =>
    rw [List.mem_singleton.1 h]
    rfl
  | _ => exact absurd hk (by decide)

/-- Two files of one entity have the same name only where the later one is the counterpart of a shared type. -/
theorem counterpart_of_file_eq {k m : ArtifactKind} {base stem other : String} (hk : stem ∈ k.stems base)
    (hm : other ∈ m.stems base) (hr : k.rank < m.rank) (h : stem ++ k.extension = other ++ m.extension) :
    k.counterpart? = some (m, base) := by
  have hshared := shared_of_file_eq hk hm hr h
  obtain ⟨hfixed, hendings⟩ := meets_of_rank_lt hr hshared
  have hother : other ++ m.extension = k.fixedEnd := h.symm.trans (file_of_shared hk hshared)
  -- A second shared type or a page would end like the first one, which none does.
  cases hkind : m.shared || m == .page with
  | true =>
    have hend := fixedEnd_of_stem hm hkind
    rw [hother] at hend
    exact absurd hend (hfixed hkind)
  | false =>
    obtain ⟨a, ha, hfile⟩ := file_of_entity hm hkind
    have hbase : base ++ a = k.fixedEnd := hfile.symm.trans hother
    have hend : a.toList <:+ k.fixedEnd.toList := by
      rw [← hbase, String.toList_append]
      exact List.suffix_append _ _
    obtain ⟨c, hcounterpart, hc⟩ := Option.map_eq_some_iff.1 (hendings a ha hend)
    obtain ⟨hm, hname⟩ := Prod.mk.inj hc
    rw [← hbase, String.append_left_inj] at hname
    rw [hcounterpart, ← hm, ← hname]

theorem shared_not_alike {k m : ArtifactKind} (hk : k.shared = true) (hm : m.shared = true) (hne : k ≠ m) :
    ¬ k.fixedEnd.toList <:+ m.fixedEnd.toList := by
  cases k with
  | baseRepository | entityMapper | baseQuery =>
    cases m with
    | baseRepository | entityMapper | baseQuery => first | exact absurd rfl hne | decide +kernel
    | _ => exact absurd hm (by decide)
  | _ => exact absurd hk (by decide)

theorem not_fixedEnd_suffix {k m : ArtifactKind} {base stem : String} {path : List Char} (hk : stem ∈ k.stems base)
    (hr : k.rank < m.rank) (hm : m.shared = true) (h : (stem ++ k.extension).toList <:+ path) :
    ¬ m.fixedEnd.toList <:+ path := by
  intro hend
  have hne : k ≠ m := by
    rintro rfl
    exact Nat.lt_irrefl _ hr
  -- A page has the last rank, so nothing comes behind it.
  have hpage : k ≠ .page := by
    rintro rfl
    have hbound : m.rank ≤ 14 := by cases m <;> decide
    exact absurd hr (Nat.not_lt.2 hbound)
  cases hkind : k.shared with
  | true =>
    rw [file_of_shared hk hkind] at h
    rcases List.suffix_or_suffix_of_suffix h hend with hs | hs
    · exact shared_not_alike hkind hm hne hs
    · exact shared_not_alike hm hkind hne.symm hs
  | false =>
    have hentity : (k.shared || k == .page) = false := by
      rw [hkind, beq_eq_false_iff_ne.2 hpage]
      rfl
    obtain ⟨a, ha, hfile⟩ := file_of_entity hk hentity
    obtain ⟨hlong, hshort⟩ := (apart_of_rank_lt hr a ha).2 (by rw [hm]; rfl)
    have hsuffix : a.toList <:+ path := by
      refine List.IsSuffix.trans ?_ h
      rw [hfile, String.toList_append]
      exact List.suffix_append _ _
    -- Two endings of one path: the shorter one ends the longer one.
    rcases List.suffix_or_suffix_of_suffix hsuffix hend with hs | hs
    · exact hlong hs
    · exact hshort hs

end ArtifactKind

namespace Artifact

/-- The template of a shared type in a package. -/
def sharedTemplate? (package : String) : ArtifactKind → Option Template
  | .baseRepository => some (baseRepositoryTemplate package)
  | .entityMapper => some (entityMapperTemplate package)
  | .baseQuery => some (baseQueryTemplate package)
  | _ => none

theorem shared_facts {package : String} {kind : ArtifactKind} {t : Template}
    (h : sharedTemplate? package kind = some t) : t.kind = kind ∧ t.fileName = t.name ++ ".java" := by
  cases kind with
  | baseRepository | entityMapper | baseQuery =>
    cases h
    exact ⟨rfl, rfl⟩
  | _ => exact nomatch h

/-- A template that a run may place in a directory for an entity. Its file is called like its class. -/
structure Belongs (l : Run.Layout) (e : Entity) (t : Template) (directory : String) : Prop where
  file : ∃ stem ∈ t.kind.stems e.baseName, t.fileName = stem ++ t.kind.extension ∧
    (t.kind.extension = ".java" → t.name = stem)
  text : t.kind.shared = true → sharedTemplate? (l.packageOf directory) t.kind = some t

namespace Belongs

variable {l : Run.Layout} {e : Entity} {directory : String} {t : Template}

theorem of_class (hs : t.name ∈ t.kind.stems e.baseName) (hf : t.fileName = t.name ++ t.kind.extension)
    (hk : t.kind.shared = false) : Belongs l e t directory :=
  ⟨⟨t.name, hs, hf, fun _ => rfl⟩, fun h => absurd h (by rw [hk]; decide)⟩

theorem of_shared (hs : t.name ∈ t.kind.stems e.baseName) (hf : t.fileName = t.name ++ t.kind.extension)
    (h : sharedTemplate? (l.packageOf directory) t.kind = some t) : Belongs l e t directory :=
  ⟨⟨t.name, hs, hf, fun _ => rfl⟩, fun _ => h⟩

theorem baseRepository :
    Belongs l e (baseRepositoryTemplate (l.packageOf directory)) directory :=
  of_shared (List.mem_singleton.2 rfl) rfl rfl

theorem repository (package : String) (base : Handle) :
    Belongs l e (repositoryTemplate e package base) directory :=
  of_class (List.mem_singleton.2 rfl) rfl rfl

theorem entityMapper : Belongs l e (entityMapperTemplate (l.packageOf directory)) directory :=
  of_shared (List.mem_singleton.2 rfl) rfl rfl

theorem mapper (package : String) (dto entityMapper : Handle) :
    Belongs l e (mapperTemplate e package dto entityMapper) directory :=
  of_class (List.mem_singleton.2 rfl) rfl rfl

theorem baseQuery : Belongs l e (baseQueryTemplate (l.packageOf directory)) directory :=
  of_shared (List.mem_singleton.2 rfl) rfl rfl

theorem query (package : String) (base : Option Handle) :
    Belongs l e (queryTemplate e package base) directory :=
  of_class (List.mem_singleton.2 rfl) rfl rfl

theorem dao (s : Settings) (package : String) (query : Handle) :
    Belongs l e (daoTemplate e s package query) directory :=
  of_class (List.mem_singleton.2 rfl) rfl rfl

theorem mapping {m : Mapping} (h : m.dao.name = e.baseName ++ "Dao") :
    Belongs l e m.template directory :=
  ⟨⟨_, List.mem_singleton.2 rfl, congrArg (· ++ ".xml") h,
    fun h => absurd h (by decide : ArtifactKind.daoXml.extension ≠ ".java")⟩, nofun⟩

theorem service {p : ServicePlan} (h : p.entity = e) (package : String) :
    Belongs l e (serviceTemplate p package) directory := by
  subst h
  exact of_class (List.mem_singleton.2 rfl) rfl rfl

theorem serviceInterface {p : ServicePlan} (h : p.entity = e) (package : String) :
    Belongs l e (serviceInterfaceTemplate p package) directory := by
  subst h
  exact of_class (List.mem_singleton.2 rfl) rfl rfl

theorem serviceImpl {p : ServicePlan} (h : p.entity = e) (package : String) (interface : Handle) :
    Belongs l e (serviceImplTemplate p package interface) directory := by
  subst h
  exact of_class (List.mem_singleton.2 rfl) rfl rfl

theorem controller {c : Controller} (h : c.entity = e)
    (hs : c.options.suffix = "Controller" ∨ c.options.suffix = "Resource") (package : String) :
    Belongs l e (c.template package) directory := by
  subst h
  refine of_class ?_ rfl rfl
  change c.entity.baseName ++ c.options.suffix ∈
    [c.entity.baseName ++ "Controller", c.entity.baseName ++ "Resource"]
  rcases hs with hs | hs <;> rw [hs] <;> simp

theorem page (fields : List Entity.Field) (url : String) :
    Belongs l e (pageTemplate e fields url) directory :=
  ⟨⟨_, List.mem_singleton.2 rfl, rfl,
    fun h => absurd h (by decide : ArtifactKind.page.extension ≠ ".java")⟩, nofun⟩

theorem dao_name (h : Belongs l e t directory) (hk : t.kind = .dao) :
    t.name = e.baseName ++ "Dao" := by
  obtain ⟨stem, hs, -, hn⟩ := h.file
  rw [hk] at hs hn
  rw [hn rfl]
  exact List.mem_singleton.1 hs

end Belongs

/-- The kinds of the data transfer classes, in the order in which they are placed. -/
def dtoKinds (s : Settings) : List ArtifactKind :=
  .dto :: if s.withSuper then [.dtoAdd, .dtoUpdate] else []

theorem dtoTemplates_kinds (e : Entity) (s : Settings) (package : String) (base : Option Handle) :
    (dtoTemplates e s package base).map (·.kind) = dtoKinds s := by
  unfold dtoTemplates dtos dtoKinds
  dsimp only
  by_cases h : s.withSuper = true
  · rw [if_pos h, if_pos h]
    rfl
  · rw [if_neg h, if_neg h]
    rfl

theorem belongs_dto (l : Run.Layout) {e : Entity} {s : Settings} {package directory : String}
    {base : Option Handle} {t : Template} (h : t ∈ dtoTemplates e s package base) :
    Belongs l e t directory := by
  obtain ⟨d, hd, rfl⟩ := List.mem_map.1 h
  unfold dtos at hd
  dsimp only at hd
  rcases List.mem_cons.1 hd with rfl | hd
  · exact Belongs.of_class (List.mem_singleton.2 rfl) rfl rfl
  · by_cases hs : s.withSuper = true
    · rw [if_pos hs] at hd
      simp only [List.mem_cons, List.not_mem_nil, or_false] at hd
      rcases hd with rfl | rfl
      · exact Belongs.of_class (List.mem_singleton.2 rfl) rfl rfl
      · exact Belongs.of_class (List.mem_singleton.2 rfl) rfl rfl
    · rw [if_neg hs] at hd
      exact absurd hd List.not_mem_nil

end Artifact

end Scaffold
