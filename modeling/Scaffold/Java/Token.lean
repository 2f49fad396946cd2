/-! Tokens of Java sources. -/

namespace Scaffold.Java

inductive TokenKind where
  | identifier | keyword | modifier | basicType | literal | separator | operator | at
  deriving DecidableEq, Inhabited

structure Token where
  kind : TokenKind
  text : String
  deriving DecidableEq, Inhabited

def modifiers : List String :=
  ["abstract", "default", "final", "native", "private", "protected", "public", "static", "strictfp",
   "synchronized", "transient", "volatile"]

def basicTypes : List String :=
  ["boolean", "byte", "char", "double", "float", "int", "long", "short"]

/-- The key words that are neither modifiers nor basic types. -/
def keywords : List String :=
  ["assert", "break", "case", "catch", "class", "const", "continue", "do", "else", "enum", "extends",
   "finally", "for", "goto", "if", "implements", "import", "instanceof", "interface", "new",
   "package", "return", "super", "switch", "this", "throw", "throws", "try", "void", "while"]

def literalWords : List String := ["true", "false", "null"]

def wordKind (word : String) : TokenKind :=
  if modifiers.contains word then .modifier
  else if basicTypes.contains word then .basicType
  else if keywords.contains word then .keyword
  else if literalWords.contains word then .literal
  else .identifier

/-- Operators, longest first. A right shift is read as single `>` tokens. -/
def operators : List String :=
  [">>>=",
   ">>=", "<<=", "...",
   "%=", "^=", "|=", "&=", "/=", "*=", "-=", "+=", "<<", "--", "++", "||", "&&", "!=", ">=", "<=",
   "==", "->", "::",
   "%", "^", "|", "&", "/", "*", "-", "+", ":", "?", "~", "!", "<", ">", "="]

def separators : List Char := ['(', ')', '{', '}', '[', ']', ';', ',', '.']

end Scaffold.Java
