import Scaffold.Symbols.Sources

/-! Sources that enter the table one after the other, each read against what those before it left there. -/

namespace Scaffold

namespace Source

open Scaffold.Java

/-- A text that is read into a tree. -/
def parses (text : String) : Bool := (SourceUnit.read text).isOk

theorem read_of_parses {text : String} (h : parses text = true) : ∃ u, SourceUnit.read text = .ok u := by
  unfold parses at h
  cases hread : SourceUnit.read text with
  | ok u => exact ⟨u, rfl⟩
  | error e =>
    rw [hread] at h
    cases h

theorem fault_of_not_parses {text : String} (h : parses text = false) :
    ∃ e, SourceUnit.read text = .error e := by
  unfold parses at h
  cases hread : SourceUnit.read text with
  | error e => exact ⟨e, rfl⟩
  | ok u =>
    rw [hread] at h
    cases h

end Source

namespace Symbols

open Scaffold.Java

/-- The types of all sources in their order, and the table that they leave. -/
def registerSources (s : Symbols) :
    List (String × Option String) → Except SourceFault (List Handle × Symbols)
  | [] => .ok ([], s)
  | (text, path) :: rest =>
    match s.registerSource text path with
    | .error e => .error e
    | .ok (hs, s) => (registerSources s rest).map fun (ks, s) => (hs ++ ks, s)

section

variable {s t : Symbols} {text : String} {path : Option String} {u : SourceUnit}
  {xs ys : List (String × Option String)} {hs ks : List Handle}

theorem registerSource_of_read (h : SourceUnit.read text = .ok u) :
    s.registerSource text path =
      .ok (Source.handlesOf u s.find? path, s.registerAll (Source.handlesOf u s.find? path)) := by
  unfold registerSource Source.handles
  rw [h]
  rfl

theorem registerSource_of_fault {e : SourceFault} (h : SourceUnit.read text = .error e) :
    s.registerSource text path = .error e := by
  unfold registerSource Source.handles
  rw [h]
  rfl

theorem registerSources_cons (h : SourceUnit.read text = .ok u)
    (hrest : (s.registerAll (Source.handlesOf u s.find? path)).registerSources xs = .ok (ks, t)) :
    s.registerSources ((text, path) :: xs) = .ok (Source.handlesOf u s.find? path ++ ks, t) := by
  rw [registerSources, registerSource_of_read h]
  dsimp only
  rw [hrest]
  rfl

end

end Symbols

end Scaffold
