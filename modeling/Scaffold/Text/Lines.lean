import Scaffold.Text.Blank

/-! Lines of a text, its segments around a separator, and replacement inside it. -/

namespace Scaffold.Text

/-- The characters at which a line ends. -/
def isLineBreak (c : Char) : Bool :=
  c == '\n' || c == '\r' || c == '\x0b' || c == '\x0c' || c == '\x1c' || c == '\x1d' || c == '\x1e'
    || c == '\u0085' || c == '\u2028' || c == '\u2029'

def linesFrom (line : List Char) : List Char → List (List Char)
  | [] => if line.isEmpty then [] else [line.reverse]
  | '\r' :: '\n' :: r => line.reverse :: linesFrom [] r
  | c :: r => if isLineBreak c then line.reverse :: linesFrom [] r else linesFrom (c :: line) r

/-- The lines of a text; a break at its end opens no further line. -/
def lines (s : String) : List String := (linesFrom [] s.toList).map String.ofList

/-- Lines put below each other, without a break at the end. -/
def unlines (ls : List String) : String := "\n".intercalate ls

/-- `\r\n` and a lone `\r` become `\n`. -/
def newlinesToLf : List Char → List Char
  | [] => []
  | '\r' :: '\n' :: r => '\n' :: newlinesToLf r
  | c :: r => (if c == '\r' then '\n' else c) :: newlinesToLf r

def spaces (n : Nat) : String := String.ofList (List.replicate n ' ')

/-- Every line that is not blank moves right by `n` spaces; blank lines become empty. -/
def indent (n : Nat) (s : String) : String :=
  unlines ((lines s).map fun l => if allBlank l then "" else spaces n ++ l)

/-- The segments around every occurrence of a separator; there is always one. -/
def segments (sep : Char) : List Char → List (List Char)
  | [] => [[]]
  | c :: r =>
    if c == sep then [] :: segments sep r
    else match segments sep r with
      | [] => [[c]]
      | w :: ws => (c :: w) :: ws

/-- The parts before and after the last occurrence of a separator. -/
def splitLast? (sep : Char) : List Char → Option (List Char × List Char)
  | [] => none
  | c :: r =>
    match splitLast? sep r with
    | some (a, b) => some (c :: a, b)
    | none => if c == sep then some ([], r) else none

/-- The part of a dotted name after its last dot. -/
def lastSegment (s : String) : String :=
  match splitLast? '.' s.toList with
  | some (_, b) => String.ofList b
  | none => s

/-- The part of a dotted name before its last dot. -/
def owner? (s : String) : Option String :=
  (splitLast? '.' s.toList).map fun (a, _) => String.ofList a

/-- What follows a text that starts as given. -/
def after? : List Char → List Char → Option (List Char)
  | [], s => some s
  | _ :: _, [] => none
  | p :: ps, c :: s => if p == c then after? ps s else none

def startsWith (s p : String) : Bool := (after? p.toList s.toList).isSome

def endsWith (s p : String) : Bool := (after? p.toList.reverse s.toList.reverse).isSome

/-- Whether `p` occurs in a text. -/
def occurs (p : List Char) : List Char → Bool
  | [] => p.isEmpty
  | c :: r => (after? p (c :: r)).isSome || occurs p r

def contains (s p : String) : Bool := occurs p.toList s.toList

/-- Characters at both ends that satisfy `p` go. -/
def stripWhere (p : Char → Bool) (s : String) : String :=
  String.ofList ((s.toList.dropWhile p).reverse.dropWhile p).reverse

theorem after?_eq_some_iff {p s r : List Char} : after? p s = some r ↔ s = p ++ r := by
  induction p generalizing s with
  | nil => simp [after?, eq_comm]
  | cons a p ih =>
    cases s with
    | nil => simp [after?]
    | cons b s =>
      by_cases h : a = b
      · simp [after?, h, ih]
      · simp [after?, h, Ne.symm h]

theorem segments_ne_nil (sep : Char) (s : List Char) : segments sep s ≠ [] := by
  cases s with
  | nil => simp [segments]
  | cons c r =>
    simp only [segments]
    split
    · simp
    · split <;> simp

/-- A character of a joined text is one of a part or of the separator. -/
theorem mem_of_mem_intercalate {c : Char} {sep : String} {ws : List String} (h : c ∈ (sep.intercalate ws).toList) :
    c ∈ sep.toList ∨ ∃ w ∈ ws, c ∈ w.toList := by
  induction ws with
  | nil =>
    rw [String.intercalate_nil] at h
    exact absurd h List.not_mem_nil
  | cons w rest ih =>
    cases rest with
    | nil =>
      rw [String.intercalate_singleton] at h
      exact .inr ⟨w, List.mem_cons_self, h⟩
    | cons v rest =>
      rw [String.intercalate_cons_cons, String.toList_append, String.toList_append, List.mem_append,
        List.mem_append] at h
      rcases h with (h | h) | h
      · exact .inr ⟨w, List.mem_cons_self, h⟩
      · exact .inl h
      · exact (ih h).imp_right fun ⟨x, hx, hc⟩ => ⟨x, List.mem_cons_of_mem w hx, hc⟩

end Scaffold.Text
