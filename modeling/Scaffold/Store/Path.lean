import Scaffold.Text.Lines

/-! Paths in a store: texts whose segments are divided by slashes. -/

namespace Scaffold.Store

open Scaffold.Text

/-- A name below a directory; a name that starts with a slash stands alone. -/
def join (directory name : String) : String :=
  if directory.isEmpty || startsWith name "/" then name
  else if endsWith directory "/" then directory ++ name
  else directory ++ "/" ++ name

/-- What stands before the last slash. Slashes at its end go, unless there is nothing else. -/
def parentChars (path : List Char) : List Char :=
  match splitLast? '/' path with
  | none => []
  | some (before, _) =>
    if before.all (· == '/') then before ++ ['/']
    else (before.reverse.dropWhile (· == '/')).reverse

def parent (path : String) : String := String.ofList (parentChars path.toList)

/-- Content as it is stored: one line feed at its end and no other blank there. -/
def normalize (content : String) : String := trimRight content ++ "\n"

/-- Slashes at both ends go. -/
def stripSlashes (path : String) : String := stripWhere (· == '/') path

end Scaffold.Store
