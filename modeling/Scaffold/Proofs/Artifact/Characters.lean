import Scaffold.Proofs.Artifact.FileName
import Scaffold.Proofs.Name.Words
import Scaffold.Proofs.Store.Path

/-! Characters of names and texts: file names have no slashes when the name of the entity has none, and the
shared types have no carriage returns when their package has none. -/

namespace Scaffold.Text

variable {c : Char} {s : List Char}

theorem mem_of_mem_dropBlanksRight (h : c ∈ dropBlanksRight s) : c ∈ s := by
  have hmem := (List.dropWhile_sublist isBlank).subset (List.mem_reverse.1 h)
  exact List.mem_reverse.1 hmem

theorem mem_of_mem_trimChars (h : c ∈ trimChars s) : c ∈ s :=
  (List.dropWhile_sublist isBlank).subset (mem_of_mem_dropBlanksRight h)

theorem mem_of_mem_trim {t : String} (h : c ∈ (trim t).toList) : c ∈ t.toList := by
  unfold trim at h
  rw [String.toList_ofList] at h
  exact mem_of_mem_trimChars h

/-- The characters whose small letters stand in the tables have no image among the signs of ASCII. -/
theorem toLowercase_images :
    ∀ entry ∈ Table.toLowercase, 97 ≤ entry.2.2.2 := by
  decide +kernel

theorem ofNat_ne {n k : Nat} {d : Char} (hd : d.toNat = k) (hk : k ≠ 0) (h : n ≠ k) : Char.ofNat n ≠ d := by
  rintro rfl
  by_cases hvalid : n.isValidChar
  · rw [Char.ofNat, dif_pos hvalid] at hd
    exact h hd
  · rw [Char.ofNat, dif_neg hvalid] at hd
    exact hk hd.symm

theorem lowerChar_ne_slash (h : c ≠ '/') : lowerChar c ≠ '/' := by
  unfold lowerChar
  by_cases hascii : c.toNat < 128
  · rw [if_pos hascii]
    by_cases hupper : isUpper c = true
    · rw [if_pos hupper]
      refine ofNat_ne (by decide : '/'.toNat = 47) (by decide) fun hn => ?_
      unfold isUpper at hupper
      rw [if_pos hascii] at hupper
      have hlow : 'A'.toNat ≤ c.toNat := of_decide_eq_true (Bool.and_eq_true_iff.1 hupper).1
      change 65 ≤ c.toNat at hlow
      omega
    · rw [if_neg hupper]
      exact h
  · rw [if_neg hascii]
    rcases hf : Table.toLowercase.find? _ with _ | ⟨first, last, step, image⟩
    · exact h
    · have himage := toLowercase_images _ (List.mem_of_find?_eq_some hf)
      refine ofNat_ne (by decide : '/'.toNat = 47) (by decide) ?_
      change 97 ≤ image at himage
      omega

theorem slash_not_mem_lowerForm (before after : List Char) (h : c ≠ '/') :
    '/' ∉ lowerForm before c after := by
  unfold lowerForm
  split
  · split <;> decide
  · split
    · decide
    · rw [List.mem_singleton]
      exact (lowerChar_ne_slash h).symm

theorem slash_not_mem_lowerChars (h : '/' ∉ s) : '/' ∉ lowerChars s := by
  suffices hfrom : ∀ before, '/' ∉ lowerFrom before s from hfrom []
  induction s with
  | nil => exact fun _ => List.not_mem_nil
  | cons c r ih =>
    intro before hmem
    rw [lowerFrom] at hmem
    rcases List.mem_append.1 hmem with hmem | hmem
    · exact slash_not_mem_lowerForm before r (fun hc => h (hc ▸ List.mem_cons_self)) hmem
    · exact ih (fun hr => h (List.mem_cons_of_mem c hr)) (c :: before) hmem

end Scaffold.Text

namespace Scaffold.Name

open Scaffold.Text

variable {c : Char}

theorem mem_of_mem_base {name : String} (h : c ∈ (base name).toList) : c ∈ name.toList := by
  unfold base at h
  dsimp only at h
  split at h
  · rw [String.toList_ofList] at h
    exact mem_of_mem_trimChars (List.mem_of_mem_take h)
  · rw [String.toList_ofList] at h
    exact mem_of_mem_trimChars h

theorem kind_ne_other_of_mem_words {s w : String} (hw : w ∈ words s) (h : c ∈ w.toList) :
    Kind.ofChar c ≠ .other := by
  rw [words_eq] at hw
  obtain ⟨chars, hchars, rfl⟩ := List.mem_map.1 hw
  rw [String.toList_ofList] at h
  exact ((tokenizes_wordsBy Kind.ofChar s.toList).formed chars hchars).2.kind_ne_other c h

theorem slash_not_mem_kebab (s : String) : '/' ∉ (kebab s).toList := by
  have hjoined : '/' ∉ ("-".intercalate ((words s).map Text.lower)).toList := by
    intro hmem
    rcases mem_of_mem_intercalate hmem with hmem | ⟨w, hw, hmem⟩
    · exact absurd hmem (by decide)
    · obtain ⟨word, hword, rfl⟩ := List.mem_map.1 hw
      unfold Text.lower at hmem
      rw [String.toList_ofList] at hmem
      exact slash_not_mem_lowerChars (fun hs => kind_ne_other_of_mem_words hword hs (by decide)) hmem
  unfold kebab lowerFirst
  split
  · exact List.not_mem_nil
  · rw [String.toList_ofList]
    rcases hs : ("-".intercalate ((words s).map Text.lower)).toList with _ | ⟨c, r⟩
    · exact List.not_mem_nil
    · rw [hs, List.mem_cons, not_or] at hjoined
      rw [mapFirst, List.mem_append, not_or]
      refine ⟨slash_not_mem_lowerChars ?_, hjoined.2⟩
      simpa using hjoined.1

end Scaffold.Name

namespace Scaffold.Artifact

open Scaffold.Text

variable {c : Char} {package body x y : String} {imports xs : List String}

theorem mem_of_mem_insertSorted (h : x ∈ insertSorted y xs) : x = y ∨ x ∈ xs := by
  fun_induction insertSorted y xs with
  | case1 => exact .inl (List.mem_singleton.1 h)
  | case2 => exact .inr h
  | case3 => exact (List.mem_cons.1 h).imp_right id
  | case4 z r hne hlt ih =>
    rcases List.mem_cons.1 h with rfl | h
    · exact .inr List.mem_cons_self
    · exact (ih h).imp_right (List.mem_cons_of_mem z)

theorem mem_of_mem_sortedSet (h : x ∈ sortedSet xs) : x ∈ xs := by
  unfold sortedSet at h
  induction xs with
  | nil => exact h
  | cons y r ih =>
    rcases mem_of_mem_insertSorted h with rfl | h
    · exact List.mem_cons_self
    · exact List.mem_cons_of_mem y (ih h)

theorem mem_insertSorted (h : x = y ∨ x ∈ xs) : x ∈ insertSorted y xs := by
  fun_induction insertSorted y xs with
  | case1 => exact List.mem_singleton.2 (h.resolve_right List.not_mem_nil)
  | case2 z r heq =>
    rcases h with rfl | h
    · exact List.mem_cons.2 (.inl (eq_of_beq heq))
    · exact h
  | case3 => exact List.mem_cons.2 h
  | case4 z r hne hlt ih =>
    rcases h with rfl | h
    · exact List.mem_cons_of_mem z (ih (.inl rfl))
    · exact List.mem_cons.2 ((List.mem_cons.1 h).imp_right fun h => ih (.inr h))

theorem mem_sortedSet : x ∈ sortedSet xs ↔ x ∈ xs := by
  refine ⟨mem_of_mem_sortedSet, fun h => ?_⟩
  unfold sortedSet
  induction xs with
  | nil => exact h
  | cons y r ih => exact mem_insertSorted ((List.mem_cons.1 h).imp_right ih)

theorem mem_importLines {line : String} {items : List String} :
    line ∈ importLines package items ↔ ∃ item ∈ items, importLine? package item = some line := by
  unfold importLines
  rw [mem_sortedSet, List.mem_filterMap]

theorem mem_of_mem_importedName {item : String} (h : c ∈ (importedName item).toList) : c ∈ item.toList := by
  unfold importedName at h
  dsimp only at h
  rw [String.toList_ofList] at h
  have hcut := List.mem_reverse.1 ((List.dropWhile_sublist _).subset
    (List.mem_reverse.1 (mem_of_mem_trimChars h)))
  refine mem_of_mem_trimChars (s := item.toList) ?_
  split at hcut
  · next d r hafter =>
    have hsplit := after?_eq_some_iff.1 hafter
    split at hcut
    · rw [hsplit]
      exact List.mem_append_right _
        (List.mem_cons_of_mem d ((List.dropWhile_sublist isBlank).subset hcut))
    · exact hcut
  · exact hcut

theorem eq_of_importLine? {item line : String} (h : importLine? package item = some line) :
    line = "import " ++ importedName item ++ ";" := by
  unfold importLine? at h
  dsimp only at h
  split at h
  · split at h
    · exact nomatch h
    · exact (Option.some.inj h).symm
  · exact nomatch h

theorem return_not_mem_importLine {item line : String} (h : importLine? package item = some line)
    (hi : '\r' ∉ item.toList) : '\r' ∉ line.toList := by
  rw [eq_of_importLine? h]
  simp only [String.toList_append, List.mem_append, not_or]
  exact ⟨⟨by decide, fun hname => hi (mem_of_mem_importedName hname)⟩, by decide⟩

theorem return_not_mem_importBlock (hi : ∀ item ∈ imports, '\r' ∉ item.toList) :
    '\r' ∉ (importBlock package imports).toList := by
  unfold importBlock
  rw [String.toList_join]
  intro hmem
  obtain ⟨text, htext, hmem⟩ := List.mem_flatMap.1 hmem
  obtain ⟨line, hline, rfl⟩ := List.mem_map.1 htext
  obtain ⟨item, hitem, himport⟩ := List.mem_filterMap.1 (mem_of_mem_sortedSet hline)
  rw [String.toList_append, List.mem_append] at hmem
  rcases hmem with hmem | hmem
  · exact return_not_mem_importLine himport (hi item hitem) hmem
  · exact absurd hmem (by decide)

/-- The characters of a source file come from its package, its imports and its body. -/
theorem return_not_mem_sourceFile (hp : '\r' ∉ package.toList)
    (hi : ∀ item ∈ imports, '\r' ∉ item.toList) (hb : '\r' ∉ body.toList) :
    '\r' ∉ (sourceFile package imports body).toList := by
  have hblock : '\r' ∉ (importBlock package imports).toList := return_not_mem_importBlock hi
  have hbody : '\r' ∉ (trim body).toList := fun hmem => hb (mem_of_mem_trim hmem)
  have hhead : '\r' ∉ (if package.isEmpty then "" else "package " ++ package ++ ";\n\n").toList := by
    split
    · exact List.not_mem_nil
    · simp only [String.toList_append, List.mem_append, not_or]
      exact ⟨⟨by decide, hp⟩, by decide⟩
  have hfull : '\r' ∉ (if (importBlock package imports).isEmpty then
      (if package.isEmpty then "" else "package " ++ package ++ ";\n\n") else
      (if package.isEmpty then "" else "package " ++ package ++ ";\n\n") ++ importBlock package imports
        ++ "\n").toList := by
    split
    · exact hhead
    · rw [String.toList_append, String.toList_append, List.mem_append, List.mem_append, not_or, not_or]
      exact ⟨⟨hhead, hblock⟩, by decide⟩
  unfold sourceFile
  dsimp only
  rw [String.toList_append, String.toList_append, List.mem_append, List.mem_append, not_or, not_or]
  exact ⟨⟨hfull, hbody⟩, by decide⟩

theorem return_not_mem_normalize {content : String} (h : '\r' ∉ content.toList) :
    '\r' ∉ (Store.normalize content).toList := by
  unfold Store.normalize trimRight
  rw [String.toList_append, String.toList_ofList, List.mem_append, not_or]
  exact ⟨fun hmem => h (mem_of_mem_dropBlanksRight hmem), by decide⟩

theorem return_not_mem_javaTemplate {kind : ArtifactKind} {name : String} (hp : '\r' ∉ package.toList)
    (hi : ∀ item ∈ imports, '\r' ∉ item.toList) (hb : '\r' ∉ body.toList) :
    '\r' ∉ (javaTemplate kind name package imports body).content.toList :=
  return_not_mem_sourceFile hp hi hb

/-- Member texts without carriage returns, the capital that accessors give them included. -/
def Plain (m : Member) : Prop :=
  '\r' ∉ m.type.toList ∧ '\r' ∉ m.name.toList ∧ '\r' ∉ (Name.upperFirst m.name).toList

theorem return_not_mem_accessorLines {className : String} {m : Member} (hc : '\r' ∉ className.toList)
    (hm : Plain m) : ∀ line ∈ accessorLines className m, '\r' ∉ line.toList := by
  obtain ⟨htype, hname, hcapital⟩ := hm
  simp +decide only [accessorLines, setterName, getterName, Member.declared, List.forall_mem_cons,
    String.toList_append, List.mem_append, hc, htype, hname, hcapital, or_self]

theorem return_not_mem_accessors {className : String} {members : List Member}
    (hc : '\r' ∉ className.toList) (hm : ∀ m ∈ members, Plain m) :
    '\r' ∉ (accessors className members).toList := by
  intro hmem
  rcases mem_of_mem_intercalate hmem with hmem | ⟨block, hblock, hmem⟩
  · exact absurd hmem (by decide)
  · obtain ⟨m, hmember, rfl⟩ := List.mem_map.1 hblock
    rcases mem_of_mem_intercalate hmem with hmem | ⟨line, hline, hmem⟩
    · exact absurd hmem (by decide)
    · exact return_not_mem_accessorLines hc (hm m hmember) line hline hmem

theorem plain_pagingMembers : ∀ m ∈ pagingMembers.map (·.1), Plain m := by
  unfold Plain
  decide +kernel

theorem return_not_mem_pagingText {className : String} (hc : '\r' ∉ className.toList) :
    '\r' ∉ (pagingText className).toList := by
  have haccessors := return_not_mem_accessors hc plain_pagingMembers
  unfold pagingText
  simp +decide only [String.toList_append, List.mem_append, haccessors, or_self]

theorem return_not_mem_shared {k : ArtifactKind} {t : Template} (h : sharedTemplate? package k = some t)
    (hp : '\r' ∉ package.toList) : '\r' ∉ t.content.toList := by
  cases k with
  | baseRepository =>
    cases h
    unfold baseRepositoryTemplate
    exact return_not_mem_javaTemplate hp (by decide +kernel) (by decide +kernel)
  | entityMapper =>
    cases h
    unfold entityMapperTemplate
    exact return_not_mem_javaTemplate hp (by decide +kernel) (by decide +kernel)
  | baseQuery =>
    cases h
    have hpaging : '\r' ∉ (pagingText baseQueryName).toList := return_not_mem_pagingText (by decide)
    refine return_not_mem_javaTemplate hp (by decide) ?_
    rw [String.toList_append, String.toList_append, List.mem_append, List.mem_append, not_or, not_or]
    exact ⟨⟨by decide, hpaging⟩, by decide⟩
  | _ => exact nomatch h

end Scaffold.Artifact

namespace Scaffold

open Scaffold.Text

theorem ArtifactKind.slash_not_mem_stem {k : ArtifactKind} {base stem : String} (h : stem ∈ k.stems base)
    (hb : '/' ∉ base.toList) : '/' ∉ stem.toList := by
  have hkebab := Name.slash_not_mem_kebab base
  cases k <;> simp only [stems, List.mem_cons, List.not_mem_nil, or_false] at h <;>
    first
    | (subst h; simp +decide only [String.toList_append, List.mem_append, hb, hkebab, or_self])
    | (rcases h with rfl | rfl <;> simp +decide only [String.toList_append, List.mem_append, hb, or_self])

theorem ArtifactKind.extension_facts (k : ArtifactKind) :
    4 ≤ k.extension.length ∧ '/' ∉ k.extension.toList := by
  cases k <;> decide

theorem ArtifactKind.isName_file {k : ArtifactKind} {base stem : String} (h : stem ∈ k.stems base)
    (hb : '/' ∉ base.toList) : Store.IsName (stem ++ k.extension) := by
  obtain ⟨hlong, hslash⟩ := k.extension_facts
  have hlength : 4 ≤ (stem ++ k.extension).length := by
    rw [String.length_append]
    omega
  refine ⟨?_, ?_, ?_, ?_⟩
  · intro hempty
    rw [hempty] at hlength
    exact absurd hlength (by decide)
  · intro hdot
    rw [hdot] at hlength
    exact absurd hlength (by decide)
  · intro hdots
    rw [hdots] at hlength
    exact absurd hlength (by decide)
  · rw [String.toList_append, List.mem_append, not_or]
    exact ⟨slash_not_mem_stem h hb, hslash⟩

/-- A file of an entity without slashes in its name is one name. -/
theorem Artifact.Belongs.no_slash {l : Run.Layout} {e : Entity} {t : Template} {directory : String}
    (h : Artifact.Belongs l e t directory) (he : '/' ∉ e.name.toList) : '/' ∉ t.fileName.toList := by
  obtain ⟨stem, hstem, hfile, -⟩ := h.file
  rw [hfile]
  exact (ArtifactKind.isName_file hstem fun hmem => he (Name.mem_of_mem_base hmem)).no_slash

theorem Artifact.Belongs.extension {l : Run.Layout} {e : Entity} {t : Template} {directory : String}
    (h : Artifact.Belongs l e t directory) : Text.endsWith t.fileName t.kind.extension = true := by
  obtain ⟨stem, -, hfile, -⟩ := h.file
  rw [hfile, Text.endsWith_iff, String.toList_append]
  exact List.suffix_append _ _

theorem Run.Layout.return_not_mem_packageOf {l : Run.Layout} {directory : String}
    (h : '\r' ∉ directory.toList) : '\r' ∉ (l.packageOf directory).toList := by
  have hbelow : '\r' ∉ (l.belowJavaRoot directory).toList := by
    unfold belowJavaRoot
    split
    · exact h
    · split
      · exact List.not_mem_nil
      · split
        · next r hr =>
          rw [String.toList_ofList]
          intro hmem
          refine h ?_
          rw [after?_eq_some_iff.1 hr]
          exact List.mem_append_right _ hmem
        · exact h
  -- A package has the characters of the directory, but dots in the place of slashes.
  unfold packageOf dotted
  rw [String.toList_ofList]
  intro hmem
  obtain ⟨c, hc, hdot⟩ := List.mem_map.1 hmem
  unfold Store.stripSlashes stripWhere at hc
  rw [String.toList_ofList] at hc
  have hfront := (List.dropWhile_sublist _).subset (List.mem_reverse.1 hc)
  have hwhole := (List.dropWhile_sublist _).subset (List.mem_reverse.1 hfront)
  split at hdot
  · exact absurd hdot (by decide)
  · rw [hdot] at hwhole
    exact hbelow hwhole

end Scaffold
