import Scaffold.Source.Handles
import Scaffold.Symbols.Table

/-! Registration of the types that sources declare. -/

namespace Scaffold.Symbols

open Scaffold.Java

/-- The types of a source enter the table once all of them are read, so that they see only what was
known before. -/
def registerSource (s : Symbols) (source : String) (path : Option String) :
    Except SourceFault (List Handle × Symbols) :=
  (Source.handles source s.find? path).map fun hs => (hs, s.registerAll hs)

end Scaffold.Symbols
