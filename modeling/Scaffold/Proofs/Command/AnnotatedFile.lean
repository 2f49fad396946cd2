import Scaffold.Proofs.Annotate.Inserted
import Scaffold.Proofs.Command.DryRun
import Scaffold.Proofs.Store.Reopened

/-! A file that is annotated. It is written as a text whose line breaks are line feeds, so that it comes back without
what was inserted only if it was such a text before. -/

namespace Scaffold

open Scaffold.Text
open Scaffold.Store (Disk Location)
open scoped List

namespace Text.Utf8

/-- The lines of bytes, put together again: these are the bytes if they are a text with line feeds only. -/
theorem encode_lines_iff {bytes : List UInt8} :
    encode (unlines (lines (readText bytes)) ++ lastFeed (readText bytes)) = bytes ↔
      ∃ s, bytes = encode s ∧ FeedsOnly s.toList := by
  constructor
  · intro h
    exact ⟨_, h.symm, feedsOnly_unlines (fun l hl => unbroken_of_mem_lines hl) _⟩
  · rintro ⟨s, rfl, hs⟩
    have hreturn : '\r' ∉ s.toList := fun hmem => absurd (hs '\r' hmem (by decide)) (by decide)
    rw [readText_encode_of_lf hreturn, unlines_lines hs]

end Text.Utf8

namespace Store.Disk

variable {d : Disk} {names : List String} {bytes : List UInt8}

theorem bytes?_eq_some_iff : d.bytes? names = some bytes ↔ d.look? names = some (.file bytes) := by
  unfold bytes?
  constructor
  · intro h
    split at h
    · next hlook => rw [hlook, Option.some.inj h]
    · exact nomatch h
  · intro h
    rw [h]

theorem write_of_bytes? (h : d.bytes? names = some bytes) (new : List UInt8) :
    ∃ l, d.walk [] names = .ok l ∧ d.write names new = .ok (d.set l (.file new)) := by
  rw [bytes?_eq_some_iff] at h
  unfold look? at h
  unfold write
  rcases hwalk : d.walk [] names with c | l
  · rw [hwalk] at h
    exact nomatch h
  · rw [hwalk] at h
    dsimp only at h ⊢
    rw [h]
    exact ⟨l, rfl, rfl⟩

end Store.Disk

namespace Command

open Scaffold.Annotate (Additions)
open Scaffold.Text.Utf8

variable {word : String} {d : Desk} {bytes : List UInt8}

theorem fileNamed_apply (h : d.disk.bytes? (d.location word) = some bytes) :
    fileNamed word d = (.ok (d.location word, bytes), d) := by
  have hget : (get : Work Desk) d = (.ok d, d) := rfl
  have hlocate : locate word d = (.ok (d.location word), d) := rfl
  unfold fileNamed
  rw [bind_apply, hlocate]
  dsimp only
  rw [bind_apply, hget]
  dsimp only
  rw [h]
  rfl

theorem disk_saveAnnotated {l : Location} {o : Annotate.Outcome} {disk : Disk}
    (h : d.disk.write l (encode o.source) = .ok disk) : (saveAnnotated l o d).2.disk = disk := by
  have hget : (get : Work Desk) d = (.ok d, d) := rfl
  unfold saveAnnotated
  rw [bind_apply, hget]
  dsimp only
  rw [h]
  rfl

theorem disk_bind {α β : Type} {m : Work α} {f : α → Work β} (hf : ∀ a e, Same e (f a e).2) :
    ((m >>= f) d).2.disk = (m d).2.disk := by
  rw [bind_apply]
  rcases hm : m d with ⟨x | a, e⟩
  · rfl
  · exact (hf a e).disk

theorem disk_annotate_of_unchanged (h : d.disk.bytes? (d.location word) = some bytes)
    (ho : ∀ o, Annotate.annotate (readText bytes) = .ok o → o.changed = false) (dryRun : Bool) :
    (annotate word dryRun d).2.disk = d.disk := by
  unfold annotate
  rw [bind_apply, fileNamed_apply h]
  dsimp only
  rcases hrun : Annotate.annotate (readText bytes) with f | o
  · cases f <;> exact (same_refuse _ _ _).disk
  · dsimp only
    rw [ho o hrun]
    exact disk_bind (m := tell _) fun _ _ => .refl _

theorem disk_annotate_of_changed (h : d.disk.bytes? (d.location word) = some bytes) {o : Annotate.Outcome}
    (ho : Annotate.annotate (readText bytes) = .ok o) (hc : o.changed = true) :
    d.disk.write (d.location word) (encode o.source) = .ok (annotate word false d).2.disk := by
  obtain ⟨l, -, hwrite⟩ := Disk.write_of_bytes? h (encode o.source)
  have hrest (title : String) (e : Desk) : Same e ((do
      tell title
      tellAll (o.changes.map fun c => " - " ++ c.text)
      return 0 : Work Nat) e).2 :=
    same_bind (same_tell title e) fun _ f _ _ => same_bind (same_tellAll _ f) fun _ g _ _ => .refl g
  unfold annotate
  rw [bind_apply, fileNamed_apply h]
  dsimp only
  rw [ho]
  dsimp only
  rw [if_pos hc, if_pos Bool.not_false, disk_bind fun _ e => hrest _ e, disk_saveAnnotated hwrite]
  exact hwrite

/-- The bytes of some lines, with the last line feed of a text. -/
def filed (text : String) (ls : List String) : List UInt8 := encode (unlines ls ++ lastFeed text)

/-- A dry run and a run without changes leave the disk alone. Every other run replaces the one file by its lines with
all additions between them. If the additions are deleted again, the lines that are left are those that were there, but
their bytes are the old ones only if these were a text with no other line breaks than line feeds. -/
theorem annotated_file_keeps_lines (h : d.disk.bytes? (d.location word) = some bytes) :
    (annotate word true d).2.disk = d.disk ∧
      ((∀ o, Annotate.annotate (readText bytes) = .ok o → o.changed = false) →
        (annotate word false d).2.disk = d.disk) ∧
      ∀ o, Annotate.annotate (readText bytes) = .ok o → o.changed = true →
        ∃ e, ∃ a : Additions e (lines (readText bytes)), o.changes = a.changes ∧
          d.disk.write (d.location word) (filed (readText bytes) (a.marked.map Prod.fst)) =
            .ok (annotate word false d).2.disk ∧
          (annotate word false d).2.disk.bytes? (d.location word) =
            some (filed (readText bytes) (a.marked.map Prod.fst)) ∧
          (a.marked.filter Prod.snd).map Prod.fst = lines (readText bytes) ∧
          (filed (readText bytes) ((a.marked.filter Prod.snd).map Prod.fst) = bytes ↔
            ∃ s, bytes = encode s ∧ FeedsOnly s.toList) := by
  refine ⟨(same_annotate word d).disk, fun ho => disk_annotate_of_unchanged h ho false, fun o ho hc => ?_⟩
  obtain ⟨e, line, -, -, hclass, rfl⟩ := Annotate.annotateAt_of_changed ho hc
  obtain ⟨a, hresult, -⟩ := Annotate.annotateAt_additions (readText bytes) hclass
  have hwrite := disk_annotate_of_changed h ho hc
  rw [congrArg Annotate.Outcome.source hresult] at hwrite
  refine ⟨e, a, congrArg Annotate.Outcome.changes hresult, ?_, ?_, a.marked_kept, ?_⟩
  · rw [a.marked_lines]
    exact hwrite
  · rw [a.marked_lines]
    exact Disk.bytes?_eq_some_iff.2 (Disk.look?_of_write hwrite)
  · rw [a.marked_kept]
    exact encode_lines_iff

/-- A desk with one file. -/
def fileDesk (bytes : List UInt8) : Desk where
  disk := ⟨[(["w"], .directory), (["w", "A.java"], .file bytes)]⟩
  here := ["w"]

theorem location_fileDesk (bytes : List UInt8) : (fileDesk bytes).location "A.java" = ["w", "A.java"] := rfl

theorem bytes?_fileDesk (bytes : List UInt8) :
    (fileDesk bytes).disk.bytes? ((fileDesk bytes).location "A.java") = some bytes := rfl

def bareClass : String := "class A \x7b \x7d\n"

theorem bareClass_annotated : ∃ e, e.name = "A" ∧ e.fields = [] ∧ e.comment = none ∧
    Annotate.classLine? (lines bareClass) e.name = some 0 ∧
    Annotate.annotate bareClass = .ok (Annotate.annotateAt bareClass (lines bareClass) e 0) := by
  have hread : (Source.entity bareClass fun _ => none).toOption.map (fun e =>
      (e.isEntity, e.name, e.fields, e.comment)) = some (false, "A", [], none) := by decide +kernel
  rcases he : Source.entity bareClass fun _ => none with f | e
  · rw [he] at hread
    exact nomatch hread
  · rw [he] at hread
    simp only [Except.toOption, Option.map_some, Option.some_inj, Prod.mk.injEq] at hread
    obtain ⟨hplain, hname, hfields, hcomment⟩ := hread
    have hline : Annotate.classLine? (lines bareClass) e.name = some 0 := by
      rw [hname]
      decide +kernel
    exact ⟨e, hname, hfields, hcomment, hline, Annotate.annotate_of_plain he hplain hline⟩

theorem annotated_file_keeps_lines_bareClass :
    (fileDesk (encode bareClass)).disk.bytes? ["w", "A.java"] = some (encode bareClass) ∧
      ∃ e, ∃ a : Additions e (lines bareClass),
        (annotate "A.java" false (fileDesk (encode bareClass))).2.disk.bytes? ["w", "A.java"] =
          some (filed bareClass (a.marked.map Prod.fst)) ∧
        filed bareClass ((a.marked.filter Prod.snd).map Prod.fst) = encode bareClass := by
  have htext : readText (encode bareClass) = bareClass := readText_encode_of_lf (by decide)
  have hchars : bareClass.toList.all (fun c => !isLineBreak c || c == '\n') = true := by decide
  have hfeeds : FeedsOnly bareClass.toList := by
    intro c hc hbreak
    simpa [hbreak] using List.all_eq_true.1 hchars c hc
  obtain ⟨e, -, -, -, -, ho⟩ := bareClass_annotated
  obtain ⟨-, -, hruns⟩ := annotated_file_keeps_lines (bytes?_fileDesk (encode bareClass))
  rw [htext, location_fileDesk] at hruns
  obtain ⟨e, a, -, -, hwritten, -, hrestored⟩ := hruns _ ho rfl
  exact ⟨rfl, e, a, hwritten, hrestored.2 ⟨bareClass, rfl, hfeeds⟩⟩

/-- The same class with carriage returns at the ends of its lines. -/
def returnedClass : String := "class A \x7b \x7d\r\n"

/-- Additions to a class without fields and without a comment bring no line breaks into the text. -/
theorem feedsOnly_additions {e : Entity} (hname : e.name = "A") (hfields : e.fields = []) (hcomment : e.comment = none)
    (a : Additions e (lines bareClass))
    (hneeded : a.imported <+
      Annotate.neededImports (Annotate.persistencePackage bareClass) (a.onFields.map (·.change))) :
    FeedsOnly (unlines a.lines ++ lastFeed bareClass).toList := by
  have hnone : a.onFields = [] := by
    have hall := a.all
    rw [hfields] at hall
    exact List.perm_nil.1 hall
  rw [hnone] at hneeded
  refine feedsOnly_unlines (a.forall_mem_lines (fun l hl => unbroken_of_mem_lines hl) ?_ ?_ (by decide)) bareClass
  · intro j
    rw [Additions.above, hnone]
    split
    · rw [Entity.baseName, hname, hcomment]
      exact List.all_eq_true.1 (by decide +kernel)
    · exact List.forall_mem_nil _
  · have hall : (Annotate.neededImports (Annotate.persistencePackage bareClass) []).all
        (fun name => unbroken (Annotate.importLine name)) = true := by decide +kernel
    exact fun name hname => List.all_eq_true.1 hall name (hneeded.subset hname)

/-- The carriage returns are gone from the file, so that no deletion brings the old text back. -/
theorem returnedClass_not_restored : ∃ written,
    (fileDesk (encode returnedClass)).disk.bytes? ["w", "A.java"] = some (encode returnedClass) ∧
      (annotate "A.java" false (fileDesk (encode returnedClass))).2.disk.bytes? ["w", "A.java"] =
        some (encode written) ∧ ¬ returnedClass.toList <+ written.toList := by
  have htext : readText (encode returnedClass) = bareClass := by
    rw [readText_encode]
    decide
  obtain ⟨e, hname, hfields, hcomment, hline, ho⟩ := bareClass_annotated
  obtain ⟨a, hresult, hneeded⟩ := Annotate.annotateAt_additions bareClass hline
  have hwrite := disk_annotate_of_changed (bytes?_fileDesk (encode returnedClass)) (by rw [htext]; exact ho) rfl
  rw [congrArg Annotate.Outcome.source hresult, location_fileDesk] at hwrite
  have hfeeds := feedsOnly_additions hname hfields hcomment a hneeded
  refine ⟨_, rfl, Disk.bytes?_eq_some_iff.2 (Disk.look?_of_write hwrite), fun hkept => ?_⟩
  have hreturn : '\r' = '\n' := hfeeds '\r' (hkept.subset (by decide)) (by decide)
  exact absurd hreturn (by decide)

end Command

end Scaffold
