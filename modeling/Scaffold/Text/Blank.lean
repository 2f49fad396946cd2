/-! Blank characters, and texts without the blanks at their ends. -/

namespace Scaffold.Text

/-- Whether a code point lies in one of the ranges, ends included. -/
def within (ranges : List (Nat × Nat)) (n : Nat) : Bool :=
  ranges.any fun (first, last) => first ≤ n && n ≤ last

/-- The Unicode blanks: control characters that separate, spaces, and line and paragraph marks. -/
def blanks : List (Nat × Nat) :=
  [(9, 13), (28, 32), (133, 133), (160, 160), (5760, 5760), (8192, 8202), (8232, 8233),
   (8239, 8239), (8287, 8287), (12288, 12288)]

def isBlank (c : Char) : Bool := within blanks c.toNat

/-- A text of blanks only; the empty text is one. -/
def allBlank (s : String) : Bool := s.toList.all isBlank

def dropBlanks (s : List Char) : List Char := s.dropWhile isBlank

def dropBlanksRight (s : List Char) : List Char := (s.reverse.dropWhile isBlank).reverse

def trimChars (s : List Char) : List Char := dropBlanksRight (dropBlanks s)

def trim (s : String) : String := String.ofList (trimChars s.toList)

def trimRight (s : String) : String := String.ofList (dropBlanksRight s.toList)

/-- The text, or nothing when it is empty. -/
def nonempty? (s : String) : Option String := if s.isEmpty then none else some s

theorem dropBlanks_cons_of_not {c : Char} (s : List Char) (h : isBlank c = false) :
    dropBlanks (c :: s) = c :: s := by
  simp [dropBlanks, h]

theorem dropBlanks_of_not_blank {s : List Char} (h : ∀ c ∈ s, isBlank c = false) : dropBlanks s = s := by
  cases s with
  | nil => rfl
  | cons c s => exact dropBlanks_cons_of_not s (h c List.mem_cons_self)

theorem dropBlanks_append {gap : List Char} (h : ∀ c ∈ gap, isBlank c = true) (s : List Char) :
    dropBlanks (gap ++ s) = dropBlanks s :=
  List.dropWhile_append_of_pos h

theorem dropBlanksRight_cons {c : Char} (hc : isBlank c = false) (s : List Char) :
    dropBlanksRight (c :: s) = c :: dropBlanksRight s := by
  unfold dropBlanksRight
  rw [List.reverse_cons, List.dropWhile_append]
  split
  · next h =>
    rw [List.isEmpty_iff.1 h, List.dropWhile_cons_of_neg (by simp [hc])]
    rfl
  · rw [List.reverse_append]
    rfl

/-- A word without blanks in front of a text has no part in what happens at its end. -/
theorem dropBlanksRight_append {word : List Char} (h : ∀ c ∈ word, isBlank c = false) (s : List Char) :
    dropBlanksRight (word ++ s) = word ++ dropBlanksRight s := by
  induction word with
  | nil => rfl
  | cons c word ih =>
    have hword : ∀ d ∈ word, isBlank d = false := fun d hd => h d (List.mem_cons_of_mem c hd)
    rw [List.cons_append, dropBlanksRight_cons (h c List.mem_cons_self), ih hword, List.cons_append]

/-- A text without blanks stays as it is. -/
theorem trim_of_not_blank {s : String} (h : ∀ c ∈ s.toList, isBlank c = false) : trim s = s := by
  have hback : dropBlanks s.toList.reverse = s.toList.reverse :=
    dropBlanks_of_not_blank fun c hc => h c (List.mem_reverse.1 hc)
  unfold trim trimChars
  rw [dropBlanks_of_not_blank h, dropBlanksRight, ← dropBlanks, hback, List.reverse_reverse, String.ofList_toList]

theorem mem_of_within {ranges : List (Nat × Nat)} {n : Nat} (h : within ranges n = true) :
    n ∈ ranges.flatMap fun (first, last) => List.range' first (last + 1 - first) := by
  obtain ⟨⟨first, last⟩, hrange, hn⟩ := List.any_eq_true.1 h
  rw [Bool.and_eq_true, decide_eq_true_eq, decide_eq_true_eq] at hn
  refine List.mem_flatMap.2 ⟨(first, last), hrange, List.mem_range'_1.2 ⟨hn.1, ?_⟩⟩
  omega

theorem eq_false_of_blank {p : Char → Bool} {c : Char} (hall : ∀ n ∈ blanks.flatMap fun (first, last) =>
    List.range' first (last + 1 - first), p (Char.ofNat n) = false) (h : isBlank c = true) : p c = false := by
  have hc := hall c.toNat (mem_of_within h)
  rwa [Char.ofNat_toNat] at hc

end Scaffold.Text
