import Mathlib.Data.List.Basic
import Scaffold.Proofs.Store.Overlay

/-! What the manifest of a project takes note of while files and directories are asked for: every file that was
made, and every file whose writing failed, since the note is taken before the file is written. -/

namespace Scaffold.Store

/-- What a store is asked for. -/
inductive Request where
  | file (directory name content : String)
  | subdir (directory name : String)

inductive Reply where
  | placed (f : Placed)
  | directory (path : String)

namespace Project

variable {p : Project} {path directory name content : String}

theorem makeDir_answer (h : p.rehearsal = false) (path : String) : ∃ disk,
    makeDir path p = (.ok (), { p with disk }) ∨
      ∃ f, makeDir path p = (.error (.makeDir path f), { p with disk }) := by
  rw [makeDir_of_real h, makeDirs_apply]
  rcases p.disk.makeDirs (p.names path) with ⟨f | _, disk⟩
  · exact ⟨disk, .inr ⟨f, rfl⟩⟩
  · exact ⟨disk, .inl rfl⟩

theorem write_answer (h : p.rehearsal = false) (path content : String) : ∃ disk,
    write path content p = (.ok (), { p.noted path content with disk }) ∨
      ∃ f, write path content p = (.error (.write path f), { p.noted path content with disk }) := by
  rw [write_of_real h, makeDirs_apply]
  rcases (p.noted path content).disk.makeDirs (p.names path).dropLast with ⟨f | _, disk⟩
  · exact ⟨disk, .inr ⟨f, rfl⟩⟩
  · dsimp only
    rcases disk.write (p.names path) (Text.Utf8.encode content) with f | written
    · exact ⟨disk, .inr ⟨f, rfl⟩⟩
    · exact ⟨written, .inl rfl⟩

/-- All that can come of asking a project for a file. -/
inductive FileAnswer (p : Project) (directory name content : String) : Except Failure Placed → Project → Prop where
  | kept (held : String) : FileAnswer p directory name content (.ok ⟨join directory name, held, false⟩) p
  | noDirectory (f : DiskFault) (disk : Disk) :
      FileAnswer p directory name content (.error (.makeDir directory f)) { p with disk }
  | notWritten (f : DiskFault) (disk : Disk) :
      FileAnswer p directory name content (.error (.write (join directory name) f))
        { p.noted (join directory name) (normalize content) with disk }
  | created (disk : Disk) :
      FileAnswer p directory name content (.ok ⟨join directory name, normalize content, true⟩)
        { p.noted (join directory name) (normalize content) with disk }

theorem createFile_answer (h : p.rehearsal = false) (directory name content : String) :
    FileAnswer p directory name content (store.createFile directory name content p).1
      (store.createFile directory name content p).2 := by
  cases hread : store.read p (join directory name) with
  | some held =>
    rw [createFile_of_read hread]
    exact .kept held
  | none =>
    have hprepare : ∃ disk, store.prepare directory p = (.ok (), { p with disk }) ∨
        ∃ f, store.prepare directory p = (.error (.makeDir directory f), { p with disk }) := by
      rw [prepare_apply]
      split
      · exact ⟨p.disk, .inl rfl⟩
      · exact makeDir_answer h directory
    rw [createFile_of_absent hread]
    obtain ⟨disk, hp | ⟨f, hp⟩⟩ := hprepare
    · have hreal : ({ p with disk } : Project).rehearsal = false := h
      obtain ⟨written, hw | ⟨f, hw⟩⟩ := write_answer hreal (join directory name) (normalize content)
      · rw [hp]
        dsimp only
        rw [show store.write = write from rfl, hw]
        exact .created written
      · -- The note was taken before the write, so it outlives the failure.
        rw [hp]
        dsimp only
        rw [show store.write = write from rfl, hw]
        exact .notWritten f written
    · rw [hp]
      exact .noDirectory f disk

theorem subdir_answer (h : p.rehearsal = false) (directory name : String) : ∃ disk,
    store.subdir directory name p = (.ok (join directory name), { p with disk }) ∨
      ∃ f, store.subdir directory name p = (.error (.makeDir (join directory name) f), { p with disk }) := by
  rw [subdir_apply]
  split
  · exact ⟨p.disk, .inl rfl⟩
  · rw [show store.makeDir = makeDir from rfl]
    obtain ⟨disk, hmake | ⟨f, hmake⟩⟩ := makeDir_answer h (join directory name)
    · rw [hmake]
      exact ⟨disk, .inl rfl⟩
    · rw [hmake]
      exact ⟨disk, .inr ⟨f, rfl⟩⟩

end Project

namespace Request

def perform : Request → Effect Project Reply
  | file directory name content => return .placed (← Project.store.createFile directory name content)
  | subdir directory name => return .directory (← Project.store.subdir directory name)

/-- The requests one after the other, whether they fail or not, with their answers. -/
def performAll : List Request → Project → List (Request × Except Failure Reply) × Project
  | [], p => ([], p)
  | r :: rs, p =>
    let (answer, q) := r.perform p
    let (answers, q) := performAll rs q
    ((r, answer) :: answers, q)

/-- The file that a request made, with the digest of its content. -/
def made? : Request × Except Failure Reply → Option (String × String)
  | (_, .ok (.placed f)) => if f.created then some (f.path, Digest.sha256 f.content) else none
  | _ => none

/-- The file that a request failed to write, with the digest of the content that it was to have. -/
def unwritten? : Request × Except Failure Reply → Option (String × String)
  | (file _ _ content, .error (.write path _)) => some (path, Digest.sha256 (normalize content))
  | _ => none

/-- What the manifest takes note of. -/
def noted? (x : Request × Except Failure Reply) : Option (String × String) := (made? x).or (unwritten? x)

theorem perform_manifest {p : Project} (h : p.rehearsal = false) (r : Request) :
    (r.perform p).2.rehearsal = false ∧
      (r.perform p).2.manifest = Entries.putAll (noted? (r, (r.perform p).1)).toList p.manifest := by
  cases r with
  | file directory name content =>
    rw [perform, Effect.bind_apply]
    have hanswer := Project.createFile_answer h directory name content
    generalize Project.store.createFile directory name content p = result at hanswer ⊢
    obtain ⟨answer, q⟩ := result
    cases hanswer with
    | kept held => exact ⟨h, rfl⟩
    | noDirectory f disk => exact ⟨h, rfl⟩
    | notWritten f disk => exact ⟨h, rfl⟩
    | created disk => exact ⟨h, rfl⟩
  | subdir directory name =>
    rw [perform, Effect.bind_apply]
    obtain ⟨disk, hmake | ⟨f, hmake⟩⟩ := Project.subdir_answer h directory name
    · rw [hmake]
      exact ⟨h, rfl⟩
    · rw [hmake]
      exact ⟨h, rfl⟩

theorem performAll_manifest {p : Project} (h : p.rehearsal = false) (rs : List Request) :
    (performAll rs p).2.manifest = Entries.putAll ((performAll rs p).1.filterMap noted?) p.manifest := by
  -- A request that fails leaves a project too, from which the next one goes on.
  induction rs generalizing p with
  | nil => rfl
  | cons r rest ih =>
    obtain ⟨hreal, hstep⟩ := perform_manifest h r
    change (performAll rest (r.perform p).2).2.manifest =
      Entries.putAll (((r, (r.perform p).1) :: (performAll rest (r.perform p).2).1).filterMap noted?) p.manifest
    rw [ih hreal, hstep, List.filterMap_cons]
    cases noted? (r, (r.perform p).1) <;> rfl

theorem filterMap_noted {answers : List (Request × Except Failure Reply)}
    (h : ∀ x ∈ answers, unwritten? x = none) : answers.filterMap noted? = answers.filterMap made? := by
  refine List.filterMap_congr fun x hx => ?_
  rw [noted?, h x hx, Option.or_none]

/-- The manifest of an opened project is the one that was loaded, with the digests of exactly the files that
were made since and of those whose writing failed. Files that were there already, directories, and files whose
directory could not be made leave no trace. -/
theorem manifest_takes_note (d : Disk) (root : Location) (rs : List Request) :
    (performAll rs (Project.load d root false).1).2.manifest =
        Entries.putAll ((performAll rs (Project.load d root false).1).1.filterMap noted?) (Manifest.load d root).1 ∧
      ((∀ x ∈ (performAll rs (Project.load d root false).1).1, unwritten? x = none) →
        (performAll rs (Project.load d root false).1).2.manifest =
          Entries.putAll ((performAll rs (Project.load d root false).1).1.filterMap made?)
            (Manifest.load d root).1) := by
  have hrun := performAll_manifest (p := (Project.load d root false).1) rfl rs
  exact ⟨hrun, fun hwritten => by rw [hrun, filterMap_noted hwritten]; rfl⟩

section Sample

/-- A project whose directory of sources holds a directory where a file would go. -/
def blockedDisk : Disk := ⟨[(["w"], .directory), (["w", "src"], .directory), (["w", "src", "A.java"], .directory)]⟩

/-- A file that is made, the same file asked for again, and a directory. -/
def sampleRequests : List Request :=
  [.file "src" "B.java" "class B { }", .file "src" "B.java" "", .subdir "src" "p"]

theorem manifest_takes_note_sample :
    (∀ x ∈ (performAll sampleRequests (Project.load blockedDisk ["w"] false).1).1, unwritten? x = none) ∧
      (performAll sampleRequests (Project.load blockedDisk ["w"] false).1).2.manifest.map Prod.fst =
        ["src/B.java"] := by
  have hwritten : ∀ x ∈ (performAll sampleRequests (Project.load blockedDisk ["w"] false).1).1,
      unwritten? x = none := by
    decide +kernel
  refine ⟨hwritten, ?_⟩
  rw [(manifest_takes_note blockedDisk ["w"] sampleRequests).2 hwritten]
  decide +kernel

/-- A file that could not be written has its digest in the manifest all the same. -/
theorem unwritten_file_recorded :
    (performAll [.file "src" "A.java" "class A { }"] (Project.load blockedDisk ["w"] false).1).1.filterMap made? = [] ∧
      (Manifest.load blockedDisk ["w"]).1 = [] ∧
      (performAll [.file "src" "A.java" "class A { }"] (Project.load blockedDisk ["w"] false).1).2.manifest.map
        Prod.fst = ["src/A.java"] := by
  decide +kernel

end Sample

end Request

end Scaffold.Store
