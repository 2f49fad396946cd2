import Scaffold.Text.Blank

/-! Words of a command line. -/

namespace Scaffold.Command

open Scaffold.Text

/-- A word without blanks around it, and without a pair of equal quotes around it. -/
def stripQuotes (word : String) : String :=
  let s := trimChars word.toList
  match s, s.getLast? with
  | c :: d :: r, some z =>
    if c == z && (c == '\'' || c == '"') then String.ofList (d :: r).dropLast else String.ofList s
  | _, _ => String.ofList s

end Scaffold.Command
