import Mathlib.Data.List.Forall2
import Mathlib.Data.List.Sort
import Scaffold.Proofs.Artifact.Characters
import Scaffold.Proofs.Java.Identifiers
import Scaffold.Proofs.Text.Lines

/-! Blocks of imports in their canonical form. An item stands for the name that it imports however it is written, and
the block for the set of these names. -/

namespace Scaffold.Text

theorem owner?_eq_some_iff {n owner : String} :
    owner? n = some owner ↔ ∃ simple, n = owner ++ "." ++ simple ∧ '.' ∉ simple.toList := by
  constructor
  · intro h
    obtain ⟨⟨front, back⟩, hsplit, hfront⟩ := Option.map_eq_some_iff.1 h
    -- What stands behind the last dot is found from the end of the name.
    obtain ⟨behind, before, hname, hbehind⟩ := List.eq_append_cons_of_mem
      (List.mem_reverse.2 (eq_of_splitLast? hsplit ▸ List.mem_append_right front List.mem_cons_self))
    have hlast : n.toList = before.reverse ++ '.' :: behind.reverse := by
      rw [← List.reverse_inj, hname]
      simp
    have hback : '.' ∉ behind.reverse := fun hmem => hbehind (List.mem_reverse.1 hmem)
    rw [hlast, splitLast?_append hback] at hsplit
    obtain ⟨rfl, rfl⟩ := Prod.mk.inj (Option.some.inj hsplit)
    refine ⟨String.ofList behind.reverse, ?_, by rwa [String.toList_ofList]⟩
    rw [← String.toList_inj, hlast, ← hfront]
    simp
  · rintro ⟨simple, rfl, hsimple⟩
    have htext : (owner ++ "." ++ simple).toList = owner.toList ++ '.' :: simple.toList := by
      rw [String.toList_append, String.toList_append, List.append_assoc]
      rfl
    rw [owner?, htext, splitLast?_append hsimple]
    exact congrArg some String.ofList_toList

end Scaffold.Text

namespace Scaffold.Artifact

open Scaffold.Text
open Scaffold.Java (IsIdentifier)

variable {package n line item : String} {names items : List String}

section Sorted

variable {x y : String} {xs ys : List String}

theorem pairwise_insertSorted (x : String) (h : xs.Pairwise (· < ·)) : (insertSorted x xs).Pairwise (· < ·) := by
  fun_induction insertSorted x xs with
  | case1 => exact List.pairwise_singleton _ _
  | case2 => exact h
  | case3 y r hne hlt =>
    refine List.pairwise_cons.2 ⟨List.forall_mem_cons.2 ⟨hlt, fun z hz => ?_⟩, h⟩
    exact String.lt_trans hlt (List.rel_of_pairwise_cons h hz)
  | case4 y r hne hlt ih =>
    obtain ⟨hy, hr⟩ := List.pairwise_cons.1 h
    refine List.pairwise_cons.2 ⟨fun z hz => ?_, ih hr⟩
    rcases mem_of_mem_insertSorted hz with rfl | hz
    · exact Std.lt_of_le_of_ne hlt fun heq => hne (beq_iff_eq.2 heq.symm)
    · exact hy z hz

theorem pairwise_sortedSet (xs : List String) : (sortedSet xs).Pairwise (· < ·) := by
  unfold sortedSet
  induction xs with
  | nil => exact .nil
  | cons x xs ih => exact pairwise_insertSorted x ih

theorem sortedSet_congr (h : ∀ x, x ∈ xs ↔ x ∈ ys) : sortedSet xs = sortedSet ys :=
  (pairwise_sortedSet xs).eq_of_mem_iff (pairwise_sortedSet ys) fun x => by rw [mem_sortedSet, mem_sortedSet, h]

end Sorted

/-- Identifiers with dots between them. -/
def IsDotted (n : String) : Prop := ∃ names ≠ [], n = ".".intercalate names ∧ ∀ x ∈ names, IsIdentifier x

/-- The ways in which an item can be written that imports a name: the name, or an import line. -/
inductive Writes (n : String) : String → Prop
  | name (front back : String) (hfront : allBlank front = true) (hback : allBlank back = true) :
    Writes n (front ++ n ++ back)
  | unclosed (front gap back : String) (hfront : allBlank front = true) (hgap : allBlank gap = true) (hne : gap ≠ "")
    (hback : allBlank back = true) : Writes n (front ++ ("import" ++ gap ++ n) ++ back)
  | closed (front gap inner back : String) (hfront : allBlank front = true) (hgap : allBlank gap = true) (hne : gap ≠ "")
    (hinner : allBlank inner = true) (hback : allBlank back = true) :
    Writes n (front ++ ("import" ++ gap ++ n ++ inner ++ ";") ++ back)

/-- The name lies in a package, which is neither this one nor `java.lang`. -/
def Foreign (package n : String) : Prop :=
  ∃ owner simple, n = owner ++ "." ++ simple ∧ '.' ∉ simple.toList ∧ owner ≠ package ∧ owner ≠ "java.lang"

section Written

theorem IsDotted.chars (h : IsDotted n) : ∀ c ∈ n.toList, c = '.' ∨ Java.inIdentifier c = true := by
  obtain ⟨names, -, rfl, hnames⟩ := h
  intro c hc
  rcases mem_of_mem_intercalate hc with hdot | ⟨x, hx, hc⟩
  · exact .inl (List.mem_singleton.1 hdot)
  · exact .inr ((hnames x hx).chars c hc)

theorem IsDotted.ne (h : IsDotted n) : n ≠ "" := by
  obtain ⟨names, hne, rfl, hnames⟩ := h
  exact (Java.isPackage_intercalate hne hnames).ne

theorem IsDotted.not_blank (h : IsDotted n) : ∀ c ∈ n.toList, isBlank c = false := by
  obtain ⟨names, hne, rfl, hnames⟩ := h
  exact (Java.isPackage_intercalate hne hnames).not_blank

theorem IsDotted.no_semicolon (h : IsDotted n) : ∀ c ∈ n.toList, (c == ';') = false := by
  intro c hc
  rw [beq_eq_false_iff_ne]
  rintro rfl
  exact absurd (h.chars _ hc) (by decide)

theorem dropWhile_behind {p : Char → Bool} {front s : List Char} (hfront : front.all p = true)
    (hs : ∀ c ∈ s.head?, p c = false) : (front ++ s).dropWhile p = s := by
  rw [List.dropWhile_append_of_pos (List.all_eq_true.1 hfront)]
  cases s with
  | nil => rfl
  | cons c s => exact List.dropWhile_cons_of_neg (by simp [hs c rfl])

theorem reverse_dropWhile_before {p : Char → Bool} {s back : List Char} (hback : back.all p = true)
    (hs : ∀ c ∈ s.getLast?, p c = false) : ((s ++ back).reverse.dropWhile p).reverse = s := by
  rw [List.reverse_append, dropWhile_behind (by rwa [List.all_reverse]) (by simpa using hs), List.reverse_reverse]

theorem trimChars_between {front s back : List Char} (hfront : front.all isBlank = true) (hback : back.all isBlank = true)
    (hhead : ∀ c ∈ s.head?, isBlank c = false) (hlast : ∀ c ∈ s.getLast?, isBlank c = false) (hne : s ≠ []) :
    trimChars (front ++ s ++ back) = s := by
  unfold trimChars dropBlanks dropBlanksRight
  rw [List.append_assoc, dropWhile_behind hfront, reverse_dropWhile_before hback hlast]
  rwa [List.head?_append_of_ne_nil _ hne]

theorem name_before_end (hn : IsDotted n) (inner semicolons : List Char) (hinner : inner.all isBlank = true)
    (hsemicolons : semicolons.all (· == ';') = true) :
    String.ofList (trimChars ((n.toList ++ inner ++ semicolons).reverse.dropWhile (· == ';')).reverse) = n := by
  have hlast : ∀ c ∈ (n.toList ++ inner).getLast?, (c == ';') = false := by
    intro c hc
    rcases List.mem_append.1 (List.mem_of_getLast? hc) with hc | hc
    · exact hn.no_semicolon c hc
    · rw [beq_eq_false_iff_ne]
      rintro rfl
      exact absurd (List.all_eq_true.1 hinner _ hc) (by decide)
  have htrim : trimChars (n.toList ++ inner) = n.toList :=
    @trimChars_between [] n.toList inner rfl hinner (fun c hc => hn.not_blank c (List.mem_of_head? hc))
      (fun c hc => hn.not_blank c (List.mem_of_getLast? hc)) (String.toList_eq_nil_iff.not.2 hn.ne)
  rw [reverse_dropWhile_before hsemicolons hlast, htrim, String.ofList_toList]

theorem importedName_of_clause (hn : IsDotted n) (gap inner semicolons : List Char) (hgap : gap.all isBlank = true)
    (hne : gap ≠ []) (hinner : inner.all isBlank = true) (hsemicolons : semicolons.all (· == ';') = true)
    (h : trimChars item.toList = "import".toList ++ (gap ++ (n.toList ++ inner ++ semicolons))) :
    importedName item = n := by
  obtain ⟨c, gap, rfl⟩ := List.exists_cons_of_ne_nil hne
  obtain ⟨hc, hgap⟩ := Bool.and_eq_true_iff.1 hgap
  have hafter : after? "import".toList (trimChars item.toList) = some (c :: (gap ++ (n.toList ++ inner ++ semicolons))) :=
    after?_eq_some_iff.2 h
  have hhead : ∀ d ∈ (n.toList ++ inner ++ semicolons).head?, isBlank d = false := by
    have hne : n.toList ≠ [] := String.toList_eq_nil_iff.not.2 hn.ne
    rw [List.append_assoc, List.head?_append_of_ne_nil _ hne]
    exact fun d hd => hn.not_blank d (List.mem_of_head? hd)
  unfold importedName
  dsimp only
  rw [hafter]
  dsimp only
  rw [if_pos hc, dropBlanks, dropWhile_behind hgap hhead, name_before_end hn inner semicolons hinner hsemicolons]

theorem importedName_of_name (hn : IsDotted n) (h : trimChars item.toList = n.toList) : importedName item = n := by
  have hname := name_before_end hn [] [] rfl rfl
  rw [List.append_nil, List.append_nil] at hname
  unfold importedName
  dsimp only
  rw [h]
  split
  · next c r hafter =>
    have hc : c ∈ n.toList := by
      rw [after?_eq_some_iff.1 hafter]
      exact List.mem_append_right _ List.mem_cons_self
    rw [hn.not_blank c hc, if_neg Bool.false_ne_true]
    exact hname
  · exact hname

theorem importedName_of_writes (h : Writes n item) (hn : IsDotted n) : importedName item = n := by
  have hne : n.toList ≠ [] := String.toList_eq_nil_iff.not.2 hn.ne
  have hlast : ∀ front : List Char, ∀ c ∈ (front ++ n.toList).getLast?, isBlank c = false := by
    intro front c hc
    rw [List.getLast?_append_of_ne_nil _ hne] at hc
    exact hn.not_blank c (List.mem_of_getLast? hc)
  have hstart : isBlank 'i' = false := by decide
  -- The three spellings: a bare name, an import line without a semicolon, and one with it.
  cases h with
  | name front back hfront hback =>
    refine importedName_of_name hn ?_
    rw [String.toList_append, String.toList_append]
    exact trimChars_between hfront hback (fun c hc => hn.not_blank c (List.mem_of_head? hc)) (hlast []) hne
  | unclosed front gap back hfront hgap hgne hback =>
    refine importedName_of_clause hn gap.toList [] [] hgap (String.toList_eq_nil_iff.not.2 hgne) rfl rfl ?_
    simp only [String.toList_append]
    rw [trimChars_between hfront hback (by simp [hstart]) (hlast _) (by simp)]
    simp
  | closed front gap inner back hfront hgap hgne hinner hback =>
    refine importedName_of_clause hn gap.toList inner.toList [';'] hgap (String.toList_eq_nil_iff.not.2 hgne) hinner rfl ?_
    have hend : ∀ c ∈ ("import".toList ++ gap.toList ++ n.toList ++ inner.toList ++ ";".toList).getLast?,
        isBlank c = false := by
      intro c hc
      rw [List.getLast?_append_of_ne_nil _ (by decide)] at hc
      rw [← Option.some.inj hc]
      decide
    simp only [String.toList_append]
    rw [trimChars_between hfront hback (by simp [hstart]) hend (by simp)]
    simp

theorem IsDotted.importedName_eq (h : IsDotted n) : importedName n = n := by
  have hwritten : Writes n ("" ++ n ++ "") := .name "" "" rfl rfl
  rw [String.empty_append, String.append_empty] at hwritten
  exact importedName_of_writes hwritten h

theorem IsDotted.importLine?_eq_some_iff (h : IsDotted n) :
    importLine? package n = some line ↔ Foreign package n ∧ line = "import " ++ n ++ ";" := by
  unfold importLine?
  dsimp only
  rw [h.importedName_eq]
  cases howner : owner? n with
  | none =>
    refine iff_of_false nofun ?_
    rintro ⟨⟨owner, simple, hname, hsimple, -⟩, -⟩
    rw [owner?_eq_some_iff.2 ⟨simple, hname, hsimple⟩] at howner
    exact nomatch howner
  | some owner =>
    dsimp only
    obtain ⟨simple, hname, hsimple⟩ := owner?_eq_some_iff.1 howner
    have hforeign : Foreign package n ↔ ¬(owner == package || owner == "java.lang") = true := by
      rw [Bool.or_eq_true, beq_iff_eq, beq_iff_eq, not_or]
      constructor
      · rintro ⟨owner', simple', hname', hsimple', hpackage, hlang⟩
        rw [owner?_eq_some_iff.2 ⟨simple', hname', hsimple'⟩] at howner
        obtain rfl := Option.some.inj howner
        exact ⟨hpackage, hlang⟩
      · exact fun hne => ⟨owner, simple, hname, hsimple, hne⟩
    rw [hforeign]
    split
    · next hown => exact iff_of_false nofun fun h => h.1 hown
    · next hother => rw [Option.some_inj, and_iff_right hother, eq_comm]

theorem importLine?_of_writes (h : Writes n item) (hn : IsDotted n) :
    importLine? package item = importLine? package n := by
  unfold importLine?
  dsimp only
  rw [importedName_of_writes h hn, hn.importedName_eq]

/-- However the items are written, the names decide. -/
theorem importLines_written (h : List.Forall₂ Writes names items) (hnames : ∀ n ∈ names, IsDotted n) :
    importLines package items = importLines package names := by
  have hlines : items.filterMap (importLine? package) = names.filterMap (importLine? package) := by
    induction h with
    | nil => rfl
    | cons hitem _ ih =>
      obtain ⟨hn, hnames⟩ := List.forall_mem_cons.1 hnames
      rw [List.filterMap_cons, List.filterMap_cons, importLine?_of_writes hitem hn, ih hnames]
  rw [importLines, importLines, hlines]

end Written

section Block

theorem writes_line (n : String) : Writes n ("import " ++ n ++ ";") := by
  have hline : Writes n ("" ++ ("import" ++ " " ++ n ++ "" ++ ";") ++ "") := .closed "" " " "" "" rfl rfl (by decide) rfl rfl
  rwa [String.empty_append, String.append_empty, String.append_empty] at hline

theorem not_lineBreak_of_not_blank {c : Char} (h : isBlank c = false) : isLineBreak c = false := by
  rw [Bool.eq_false_iff]
  intro hbreak
  unfold isLineBreak at hbreak
  simp only [Bool.or_eq_true, beq_iff_eq] at hbreak
  rcases hbreak with ((((((((rfl | rfl) | rfl) | rfl) | rfl) | rfl) | rfl) | rfl) | rfl) | rfl <;>
    exact absurd h (by decide)

theorem IsDotted.unbroken_line (h : IsDotted n) : unbroken ("import " ++ n ++ ";") = true := by
  have hword : unbroken "import " = true := by decide
  have hend : unbroken ";" = true := by decide
  rw [unbroken_iff] at hword hend ⊢
  intro c hc
  rw [String.toList_append, String.toList_append, List.mem_append, List.mem_append] at hc
  rcases hc with (hc | hc) | hc
  · exact hword c hc
  · exact not_lineBreak_of_not_blank (h.not_blank c hc)
  · exact hend c hc

theorem mem_importLines_dotted (hnames : ∀ n ∈ names, IsDotted n) :
    line ∈ importLines package names ↔ ∃ n ∈ names, Foreign package n ∧ line = "import " ++ n ++ ";" := by
  rw [mem_importLines]
  exact exists_congr fun n => and_congr_right fun hn => (hnames n hn).importLine?_eq_some_iff

theorem importLines_importLines (hnames : ∀ n ∈ names, IsDotted n) :
    importLines package (importLines package names) = importLines package names := by
  refine sortedSet_congr fun line => ?_
  simp only [List.mem_filterMap, mem_importLines_dotted hnames]
  constructor
  · rintro ⟨_, ⟨n, hn, -, rfl⟩, hline⟩
    rw [importLine?_of_writes (writes_line n) (hnames n hn)] at hline
    exact ⟨n, hn, hline⟩
  · rintro ⟨n, hn, hline⟩
    obtain ⟨hforeign, heq⟩ := (hnames n hn).importLine?_eq_some_iff.1 hline
    have hitem : Writes n line := heq ▸ writes_line n
    exact ⟨line, ⟨n, hn, hforeign, heq⟩, (importLine?_of_writes hitem (hnames n hn)).trans hline⟩

/-- The block has one line for each name from another package, in the order of the lines. So it depends on nothing but
the set of the names, and its own lines stand for it. -/
theorem import_block_canonical (hnames : ∀ n ∈ names, IsDotted n) (hitems : List.Forall₂ Writes names items) :
    ∃ block : List String, importBlock package items = String.join (block.map (· ++ "\n")) ∧ block.Pairwise (· < ·) ∧
      (∀ line, line ∈ block ↔ ∃ n ∈ names, Foreign package n ∧ line = "import " ++ n ++ ";") ∧
      lines (importBlock package items) = block ∧ importBlock package block = importBlock package items ∧
      ∀ names' items', List.Forall₂ Writes names' items' → (∀ n, n ∈ names' ↔ n ∈ names) →
        importBlock package items' = importBlock package items := by
  have hlines : importLines package items = importLines package names := importLines_written hitems hnames
  have hmem {line : String} : line ∈ importLines package names ↔
      ∃ n ∈ names, Foreign package n ∧ line = "import " ++ n ++ ";" :=
    mem_importLines_dotted hnames
  refine ⟨importLines package names, ?_, pairwise_sortedSet _, fun line => hmem, ?_, ?_, ?_⟩
  · rw [importBlock, hlines]
  · rw [importBlock, hlines]
    refine lines_join_feeds fun line hline => ?_
    obtain ⟨n, hn, -, rfl⟩ := hmem.1 hline
    exact (hnames n hn).unbroken_line
  · rw [importBlock, importBlock, hlines, importLines_importLines hnames]
  · intro names' items' hitems' hsame
    have hnames' : ∀ n ∈ names', IsDotted n := fun n hn => hnames n ((hsame n).1 hn)
    have hlines' : importLines package items' = importLines package names := by
      rw [importLines_written hitems' hnames']
      exact sortedSet_congr fun line => by simp only [List.mem_filterMap, hsame]
    rw [importBlock, importBlock, hlines, hlines']

/-- Names in all spellings, one of them twice, and one that is the beginning of another. -/
def spelledNames : List String := ["java.util", "java.lang.String", "java.util.List", "java.util.List", "shop.Order"]

def spelledItems : List String :=
  ["import java.util;", "java.lang.String", " java.util.List", "import\tjava.util.List ; ", "import  shop.Order"]

theorem spelledNames_dotted : ∀ n ∈ spelledNames, IsDotted n := by
  have hnames : spelledNames = [["java", "util"], ["java", "lang", "String"], ["java", "util", "List"],
      ["java", "util", "List"], ["shop", "Order"]].map (".".intercalate ·) := by
    decide
  have hparts : ∀ xs ∈ [["java", "util"], ["java", "lang", "String"], ["java", "util", "List"],
      ["java", "util", "List"], ["shop", "Order"]], xs ≠ [] ∧ ∀ x ∈ xs, x ≠ "" ∧ x.toList.all Java.inIdentifier := by
    decide
  rw [hnames]
  refine List.forall_mem_map.2 fun xs hxs => ?_
  obtain ⟨hne, hx⟩ := hparts xs hxs
  exact ⟨xs, hne, rfl, fun x hmem => ⟨(hx x hmem).1, List.all_eq_true.1 (hx x hmem).2⟩⟩

theorem spelledItems_written : List.Forall₂ Writes spelledNames spelledItems :=
  .cons (.closed "" " " "" "" rfl rfl (by decide) rfl rfl) <|
  .cons (.name "" "" rfl rfl) <|
  .cons (.name " " "" rfl rfl) <|
  .cons (.closed "" "\t" " " " " rfl rfl (by decide) rfl rfl) <|
  .cons (.unclosed "" "  " "" rfl rfl (by decide) rfl) .nil

theorem import_block_canonical_spelled : (∀ n ∈ spelledNames, IsDotted n) ∧
    List.Forall₂ Writes spelledNames spelledItems ∧
    importBlock "shop" spelledItems = "import java.util.List;\nimport java.util;\n" ∧
    importBlock "shop" ["import java.util.List;", "import java.util;"] = importBlock "shop" spelledItems := by
  refine ⟨spelledNames_dotted, spelledItems_written, by decide +kernel, ?_⟩
  obtain ⟨block, -, -, -, hlines, hback, -⟩ :=
    @import_block_canonical "shop" spelledNames spelledItems spelledNames_dotted spelledItems_written
  have hblock : lines (importBlock "shop" spelledItems) = ["import java.util.List;", "import java.util;"] := by
    decide +kernel
  rw [← hlines, hblock] at hback
  exact hback

end Block

end Scaffold.Artifact
