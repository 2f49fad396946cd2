/-! What a program reports while it works. -/

namespace Scaffold

inductive Level where
  | info | warning | error
  deriving DecidableEq, Inhabited

structure LogLine where
  level : Level
  text : String
  deriving DecidableEq, Inhabited

end Scaffold
