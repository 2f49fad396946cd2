import Scaffold.Proofs.Run.Progress
import Scaffold.Proofs.Store.Tree
import Scaffold.Proofs.Symbols.Sources
import Scaffold.Symbols.Scan

/-! What a scan finds. Up to the first file whose reading ends neither in a tree nor in a fault of its tokens
or its grammar, it registers the sources in the order of their names and warns of the other files. -/

namespace Scaffold.Source

open Scaffold.Java

theorem decided_of_parses {text : String} (h : parses text = true) : decided text = true := by
  obtain ⟨u, hu⟩ := read_of_parses h
  unfold decided
  rw [hu]

end Scaffold.Source

namespace Scaffold.Symbols

open Scaffold.Text
open Scaffold.Java (SourceFault SourceUnit)
open Scaffold.Store (Disk Location Entry)

namespace SourceFile

/-- The order of files by the names that lead to them, name by name. -/
def precedes (a b : SourceFile) : Bool := List.lex a.names b.names (· < ·)

section Order

variable {a b c : SourceFile}

theorem precedes_trans (hab : b.precedes a = false) (hbc : c.precedes b = false) : c.precedes a = false := by
  unfold precedes at hab hbc ⊢
  rw [List.lex_eq_false_iff_ge] at hab hbc ⊢
  exact List.le_trans hab hbc

theorem precedes_total (a b : SourceFile) : b.precedes a = false ∨ a.precedes b = false := by
  unfold precedes
  rw [List.lex_eq_false_iff_ge, List.lex_eq_false_iff_ge]
  exact List.le_total _ _

theorem precedes_of_ne (hne : a.names ≠ b.names) (hba : b.precedes a = false) : a.precedes b = true := by
  by_contra hab
  have hle := List.lex_eq_false_iff_ge.1 (Bool.eq_false_iff.2 hab)
  exact hne (List.le_antisymm (List.lex_eq_false_iff_ge.1 hba) hle)

theorem precedes_asymm (hab : a.precedes b = true) (hba : b.precedes a = true) : False := by
  unfold precedes at hab hba
  rw [List.lex_eq_true_iff_lt] at hab hba
  exact List.lt_irrefl _ (List.lt_trans hab hba)

end Order

/-- The file as a source of types: its text, and the path that leads to it. -/
def source (f : SourceFile) : String × Option String :=
  (Utf8.readText f.bytes, some ("/".intercalate f.names))

def fault? (f : SourceFile) : Option SourceFault :=
  match SourceUnit.read f.source.1 with
  | .ok _ => none
  | .error e => some e

/-- What a warning about the file says. -/
def reason (f : SourceFile) : String :=
  (f.fault?.bind fun e => (Source.ReadFault.unreadable e).message?).getD ""

theorem fault?_of_read {f : SourceFile} {e : SourceFault} (h : SourceUnit.read f.source.1 = .error e) :
    f.fault? = some e := by
  unfold fault?
  rw [h]

/-- Where a scan cannot go on there is a fault, but none with a message. -/
theorem fault?_of_undecided {f : SourceFile} (hd : Source.decided f.source.1 = false) :
    ∃ e, SourceUnit.read f.source.1 = .error e ∧ (Source.ReadFault.unreadable e).message? = none ∧
      f.fault? = some e := by
  have hp : Source.parses f.source.1 = false := by
    by_contra h
    rw [Source.decided_of_parses (Bool.not_eq_false _ ▸ h)] at hd
    cases hd
  obtain ⟨e, he⟩ := Source.fault_of_not_parses hp
  rw [Source.decided_of_fault he, Option.isSome_eq_false_iff, Option.isNone_iff_eq_none] at hd
  exact ⟨e, he, hd, fault?_of_read he⟩

/-- A file is scanned by what stands at its location alone. -/
theorem of?_eq_some {root : Location} {entry : Location × Entry} {f : SourceFile} :
    of? root entry = some f ↔ entry = (root ++ f.names, .file f.bytes) := by
  obtain ⟨l, e⟩ := entry
  cases e with
  | directory => exact ⟨nofun, nofun⟩
  | file bytes =>
    constructor
    · intro h
      obtain ⟨names, hnames, hf⟩ := Option.map_eq_some_iff.1 h
      rw [← hf, Store.relative?_eq_some.1 hnames]
    · intro h
      obtain ⟨hl, hbytes⟩ := Prod.mk.inj h
      rw [of?, Store.relative?_eq_some.2 hl, Entry.file.inj hbytes]
      rfl

end SourceFile

section Files

variable {d d' : Disk} {root : Location}

theorem mem_sourceFiles {f : SourceFile} :
    f ∈ sourceFiles d root ↔ f.isScanned = true ∧ (root ++ f.names, .file f.bytes) ∈ d.entries := by
  rw [sourceFiles, List.mem_mergeSort, List.mem_filter, List.mem_filterMap, and_comm]
  refine and_congr_right fun _ => ⟨?_, fun h => ⟨_, h, SourceFile.of?_eq_some.2 rfl⟩⟩
  rintro ⟨entry, hentry, hf⟩
  rw [← SourceFile.of?_eq_some.1 hf]
  exact hentry

theorem sourceFiles_distinct (hd : (d.entries.map (·.1)).Nodup) :
    (sourceFiles d root).Pairwise fun a b => a.names ≠ b.names := by
  refine ((List.mergeSort_perm _ _).pairwise_iff Ne.symm).2 (List.Pairwise.filter _ ?_)
  refine List.Pairwise.filterMap _ ?_ (List.pairwise_map.1 hd)
  intro x y hxy a ha b hb hnames
  rw [SourceFile.of?_eq_some.1 ha, SourceFile.of?_eq_some.1 hb, hnames] at hxy
  exact hxy rfl

theorem sourceFiles_sorted : (sourceFiles d root).Pairwise fun a b => b.precedes a = false := by
  refine (List.pairwise_mergeSort ?_ ?_ _).imp (Bool.not_eq_true' _).mp
  · intro a b c hab hbc
    rw [Bool.not_eq_true'] at hab hbc ⊢
    exact SourceFile.precedes_trans hab hbc
  · intro a b
    rw [Bool.or_eq_true, Bool.not_eq_true', Bool.not_eq_true']
    exact SourceFile.precedes_total a b

theorem sourceFiles_ascending (hd : (d.entries.map (·.1)).Nodup) :
    (sourceFiles d root).Pairwise fun a b => a.precedes b = true :=
  (sourceFiles_distinct hd).imp₂ (fun _ _ => SourceFile.precedes_of_ne) sourceFiles_sorted

/-- Disks with the same sources are scanned in the same way, whatever else is on them and in whatever order
their entries are listed. -/
theorem sourceFiles_congr (hd : (d.entries.map (·.1)).Nodup) (hd' : (d'.entries.map (·.1)).Nodup)
    (h : ∀ f : SourceFile, f.isScanned = true →
      ((root ++ f.names, Entry.file f.bytes) ∈ d'.entries ↔
        (root ++ f.names, Entry.file f.bytes) ∈ d.entries)) :
    sourceFiles d' root = sourceFiles d root := by
  have hnodup : ∀ {d : Disk}, (d.entries.map (·.1)).Nodup → (sourceFiles d root).Nodup := fun hd =>
    (sourceFiles_distinct hd).imp fun hne hab => hne (congrArg _ hab)
  -- The same files, and only one order for them.
  have hperm : (sourceFiles d' root).Perm (sourceFiles d root) := by
    refine (List.perm_ext_iff_of_nodup (hnodup hd') (hnodup hd)).2 fun f => ?_
    rw [mem_sourceFiles, mem_sourceFiles]
    exact and_congr_right (h f)
  refine hperm.eq_of_pairwise ?_ (sourceFiles_ascending hd') (sourceFiles_ascending hd)
  intro a b _ _ hab hba
  exact (SourceFile.precedes_asymm hab hba).elim

end Files

section Run

variable {root : Location} {f : SourceFile} {rest : List SourceFile} {a : Scan}

theorem scanFiles_source {u : SourceUnit} (h : SourceUnit.read f.source.1 = .ok u) :
    scanFiles root (f :: rest) a =
      let hs := Source.handlesOf u a.symbols.find? f.source.2
      scanFiles root rest { a with symbols := a.symbols.registerAll hs, count := a.count + hs.length } := by
  unfold SourceFile.source at h
  rw [scanFiles, registerSource_of_read h]
  rfl

theorem scanFiles_skipped (h : Source.parses f.source.1 = false) (hd : Source.decided f.source.1 = true) :
    scanFiles root (f :: rest) a =
      scanFiles root rest { a with log := a.log ++ [skipped root f f.reason] } := by
  obtain ⟨e, he⟩ := Source.fault_of_not_parses h
  rw [Source.decided_of_fault he] at hd
  obtain ⟨reason, hreason⟩ := Option.isSome_iff_exists.1 hd
  have hf : f.reason = reason := by
    unfold SourceFile.reason
    rw [SourceFile.fault?_of_read he, Option.bind_some, hreason, Option.getD_some]
  unfold SourceFile.source at he
  rw [scanFiles, registerSource_of_fault he]
  dsimp only
  rw [hreason, hf]

theorem scanFiles_stopped (hd : Source.decided f.source.1 = false) :
    scanFiles root (f :: rest) a = { a with stopped := f.fault? } := by
  obtain ⟨e, he, hmessage, hfault⟩ := SourceFile.fault?_of_undecided hd
  unfold SourceFile.source at he
  rw [scanFiles, registerSource_of_fault he, hfault]
  dsimp only
  rw [hmessage]

end Run

/-- The files that a scan comes to before one that it cannot decide. -/
def reached (files : List SourceFile) : List SourceFile :=
  files.takeWhile fun f => Source.decided f.source.1

def sourcesOf (files : List SourceFile) : List (String × Option String) :=
  (files.filter fun f => Source.parses f.source.1).map SourceFile.source

def warningsOf (root : Location) (files : List SourceFile) : List LogLine :=
  (files.filter fun f => !Source.parses f.source.1).map fun f => skipped root f f.reason

theorem reached_cons (f : SourceFile) (rest : List SourceFile) :
    reached (f :: rest) = if Source.decided f.source.1 then f :: reached rest else [] := by
  unfold reached
  rw [List.takeWhile_cons]

theorem sourcesOf_cons (f : SourceFile) (rest : List SourceFile) :
    sourcesOf (f :: rest) =
      if Source.parses f.source.1 then f.source :: sourcesOf rest else sourcesOf rest := by
  unfold sourcesOf
  rw [List.filter_cons]
  split <;> rfl

theorem warningsOf_cons (root : Location) (f : SourceFile) (rest : List SourceFile) :
    warningsOf root (f :: rest) =
      if Source.parses f.source.1 then warningsOf root rest
      else skipped root f f.reason :: warningsOf root rest := by
  unfold warningsOf
  rw [List.filter_cons]
  cases Source.parses f.source.1 <;> rfl

theorem find?_undecided {f : SourceFile} (hd : Source.decided f.source.1 = true) (rest : List SourceFile) :
    ((f :: rest).find? fun f => !Source.decided f.source.1) =
      rest.find? fun f => !Source.decided f.source.1 :=
  List.find?_cons_of_neg (by simp only [hd, Bool.not_true, Bool.false_eq_true, not_false_iff])

/-- What a scan adds, file by file, to what it has come to. -/
structure Surveyed (root : Location) (files : List SourceFile) (a b : Scan) : Prop where
  registered : ∃ hs, a.symbols.registerSources (sourcesOf (reached files)) = .ok (hs, b.symbols) ∧
    b.count = a.count + hs.length
  log : b.log = a.log ++ warningsOf root (reached files)
  stopped : b.stopped =
    ((files.find? fun f => !Source.decided f.source.1).bind SourceFile.fault?).or a.stopped

namespace Surveyed

variable {root : Location} {f : SourceFile} {rest : List SourceFile} {a b : Scan}

theorem source {u : SourceUnit} (hu : SourceUnit.read f.source.1 = .ok u)
    (h : Surveyed root rest
      { a with
        symbols := a.symbols.registerAll (Source.handlesOf u a.symbols.find? f.source.2)
        count := a.count + (Source.handlesOf u a.symbols.find? f.source.2).length } b) :
    Surveyed root (f :: rest) a b := by
  have hp : Source.parses f.source.1 = true := by
    unfold Source.parses
    rw [hu]
    rfl
  have hd := Source.decided_of_parses hp
  obtain ⟨⟨hs, hhs, hcount⟩, hlog, hstopped⟩ := h
  refine ⟨⟨Source.handlesOf u a.symbols.find? f.source.2 ++ hs, ?_, ?_⟩, ?_, ?_⟩
  · rw [reached_cons, if_pos hd, sourcesOf_cons, if_pos hp]
    exact registerSources_cons hu hhs
  · rw [hcount, List.length_append, Nat.add_assoc]
  · rw [reached_cons, if_pos hd, warningsOf_cons, if_pos hp]
    exact hlog
  · rw [find?_undecided hd rest]
    exact hstopped

theorem skip (hp : Source.parses f.source.1 = false) (hd : Source.decided f.source.1 = true)
    (h : Surveyed root rest { a with log := a.log ++ [skipped root f f.reason] } b) :
    Surveyed root (f :: rest) a b := by
  obtain ⟨hregistered, hlog, hstopped⟩ := h
  refine ⟨?_, ?_, ?_⟩
  · rw [reached_cons, if_pos hd, sourcesOf_cons, if_neg (Bool.eq_false_iff.1 hp)]
    exact hregistered
  · rw [hlog, reached_cons, if_pos hd, warningsOf_cons, if_neg (Bool.eq_false_iff.1 hp), List.append_assoc]
    rfl
  · rw [find?_undecided hd rest]
    exact hstopped

theorem stop (hd : Source.decided f.source.1 = false) :
    Surveyed root (f :: rest) a { a with stopped := f.fault? } := by
  obtain ⟨e, -, -, hfault⟩ := SourceFile.fault?_of_undecided hd
  have hreached : reached (f :: rest) = [] := by rw [reached_cons, if_neg (Bool.eq_false_iff.1 hd)]
  refine ⟨⟨[], ?_, rfl⟩, ?_, ?_⟩
  · rw [hreached]
    rfl
  · rw [hreached]
    exact (List.append_nil _).symm
  · rw [List.find?_cons_of_pos (by simp only [hd, Bool.not_false]), Option.bind_some, hfault]
    rfl

end Surveyed

theorem surveyed_scanFiles (root : Location) (files : List SourceFile) (a : Scan) :
    Surveyed root files a (scanFiles root files a) := by
  -- What the files before have left is the state that the rest of the scan starts from.
  induction files generalizing a with
  | nil => exact ⟨⟨[], rfl, rfl⟩, (List.append_nil _).symm, rfl⟩
  | cons f rest ih =>
    cases hd : Source.decided f.source.1 with
    | false =>
      rw [scanFiles_stopped hd]
      exact .stop hd
    | true =>
      cases hp : Source.parses f.source.1 with
      | true =>
        obtain ⟨u, hu⟩ := Source.read_of_parses hp
        rw [scanFiles_source hu]
        exact .source hu (ih _)
      | false =>
        rw [scanFiles_skipped hp hd]
        exact .skip hp hd (ih _)

/-- A scan comes to its end if it reaches every file. -/
theorem stopped_eq_none {files : List SourceFile} :
    (files.find? fun f => !Source.decided f.source.1).bind SourceFile.fault? = none ↔
      reached files = files := by
  induction files with
  | nil => exact iff_of_true rfl rfl
  | cons f rest ih =>
    cases hd : Source.decided f.source.1 with
    | true =>
      rw [find?_undecided hd, reached_cons, if_pos hd, ih, List.cons.injEq, and_iff_right rfl]
    | false =>
      obtain ⟨e, -, -, hfault⟩ := SourceFile.fault?_of_undecided hd
      rw [List.find?_cons_of_pos (by simp only [hd, Bool.not_false]), Option.bind_some, reached_cons,
        if_neg (Bool.eq_false_iff.1 hd), hfault]
      exact ⟨nofun, nofun⟩

/-- The files of a scan are those below its directory that no excluded directory holds and that are named
as sources, in the order of their names. Up to the first one that it cannot decide it leaves the table and
the count of its sources registered one after the other, and a warning for each of the other files. It
comes to its end if it reaches every file, and what else is on the disk is without influence. -/
theorem scan_registers_sources (s : Symbols) {d : Disk} (hd : (d.entries.map (·.1)).Nodup)
    (root : Location) :
    let files := sourceFiles d root
    let found := scan s d root
    (∀ f, f ∈ files ↔ f.isScanned = true ∧ (root ++ f.names, .file f.bytes) ∈ d.entries) ∧
    files.Pairwise (fun a b => a.precedes b = true) ∧
    (∃ hs, s.registerSources (sourcesOf (reached files)) = .ok (hs, found.symbols) ∧
      found.count = hs.length) ∧
    found.log = warningsOf root (reached files) ∧
    found.stopped = (files.find? fun f => !Source.decided f.source.1).bind SourceFile.fault? ∧
    (found.stopped = none ↔ reached files = files) ∧
    ∀ d' : Disk, (d'.entries.map (·.1)).Nodup →
      (∀ f : SourceFile, f.isScanned = true →
        ((root ++ f.names, Entry.file f.bytes) ∈ d'.entries ↔
          (root ++ f.names, Entry.file f.bytes) ∈ d.entries)) →
      scan s d' root = found := by
  intro files found
  obtain ⟨⟨hs, hregistered, hcount⟩, hlog, hstopped⟩ := surveyed_scanFiles root files { symbols := s }
  have hstop : found.stopped = (files.find? fun f => !Source.decided f.source.1).bind SourceFile.fault? :=
    hstopped.trans Option.or_none
  refine ⟨fun f => mem_sourceFiles, sourceFiles_ascending hd, ⟨hs, hregistered, ?_⟩, ?_, hstop, ?_, ?_⟩
  · exact hcount.trans (Nat.zero_add _)
  · exact hlog
  · rw [hstop]
    exact stopped_eq_none
  · intro d' hd' hsame
    unfold found scan
    rw [sourceFiles_congr hd hd' hsame]

/-- A project with a source and a file that is none. -/
def plainDisk : Disk where
  entries :=
    [(["src"], .directory), (["src", "A.java"], .file (Utf8.encode "class A { enum B { X } }")),
      (["src", "B.java"], .file (Utf8.encode "class \x7b"))]

/-- The same project, listed in another order, with other files and with sources where none are looked for. -/
def mixedDisk : Disk where
  entries :=
    [(["src"], .directory), (["src", "B.java"], .file (Utf8.encode "class \x7b")),
      (["src", "A.java"], .file (Utf8.encode "class A { enum B { X } }")), (["src", "notes.txt"], .file []),
      (["target"], .directory), (["target", "C.java"], .file (Utf8.encode "class C { }"))]

theorem mem_mixedDisk {f : SourceFile} (hf : f.isScanned = true) :
    ([] ++ f.names, Entry.file f.bytes) ∈ mixedDisk.entries ↔
      ([] ++ f.names, Entry.file f.bytes) ∈ plainDisk.entries := by
  have hnotes : f.names ≠ ["src", "notes.txt"] := by
    intro h
    rw [SourceFile.isScanned, h] at hf
    exact absurd hf (by decide)
  have htarget : f.names ≠ ["target", "C.java"] := by
    intro h
    rw [SourceFile.isScanned, h] at hf
    exact absurd hf (by decide)
  simp only [mixedDisk, plainDisk, List.nil_append, List.mem_cons, List.not_mem_nil, Prod.mk.injEq,
    reduceCtorEq, hnotes, htarget, and_false, false_and, false_or, or_false]
  exact or_comm

theorem scan_registers_sources_mixed :
    (plainDisk.entries.map (·.1)).Nodup ∧ (mixedDisk.entries.map (·.1)).Nodup ∧
      (scan {} mixedDisk []).stopped = none ∧ (scan {} mixedDisk []).count = 2 ∧
      (scan {} mixedDisk []).log =
        [⟨.warning, "Skipping /src/B.java: Java source could not be parsed: JavaSyntaxError('')"⟩] := by
  have hd : (plainDisk.entries.map (·.1)).Nodup := by decide +kernel
  have hd' : (mixedDisk.entries.map (·.1)).Nodup := by decide +kernel
  obtain ⟨-, -, ⟨hs, hregistered, hcount⟩, hlog, -, hend, hsame⟩ := scan_registers_sources {} hd []
  have hfiles : sourceFiles plainDisk [] = [⟨["src", "A.java"], _⟩, ⟨["src", "B.java"], _⟩] :=
    List.mergeSort_of_pairwise (by decide +kernel)
  have hreached : reached (sourceFiles plainDisk []) = sourceFiles plainDisk [] := by
    rw [hfiles, reached_cons, if_pos (by decide +kernel), reached_cons, if_pos (by decide +kernel)]
    rfl
  have hlength : (registerSources {} (sourcesOf (sourceFiles plainDisk []))).toOption.map (·.1.length) = some 2 := by
    rw [hfiles]
    decide +kernel
  rw [hreached] at hregistered hlog
  rw [hregistered] at hlength
  rw [hsame mixedDisk hd' fun f => mem_mixedDisk]
  refine ⟨hd, hd', hend.2 hreached, hcount.trans (Option.some.inj hlength), ?_⟩
  rw [hlog, hfiles]
  decide +kernel

/-- A source that ends behind a value, and one after it. -/
def cutShort : Disk where
  entries :=
    [(["A.java"], .file (Utf8.encode "class A \x7b\n    int x = 1")), (["B.java"], .file (Utf8.encode "class B { }"))]

/-- The scan breaks off there: without a warning, and without the source after it. -/
theorem scan_cutShort :
    (scan {} cutShort []).stopped = some .openExpression ∧ (scan {} cutShort []).log = [] ∧
      (scan {} cutShort []).symbols.contains "B" = false := by
  have hfiles : sourceFiles cutShort [] = [⟨["A.java"], _⟩, ⟨["B.java"], _⟩] :=
    List.mergeSort_of_pairwise (by decide +kernel)
  unfold scan
  rw [hfiles]
  decide +kernel

end Scaffold.Symbols
