/-!
# Tokens of Go source

A token has a shape and the bytes it covers. A semicolon is written in the source or stands for the
end of a line; which of the two it is matters where a semicolon alone is a statement.
-/

namespace GoMeter.Go

/-- What a token is. -/
inductive Shape where
  | name (text : String)
  | int | float | imaginary | rune | string | rawString
  /-- A keyword, an operator or punctuation. -/
  | symbol (text : String)
  /-- A semicolon, written or implied by the end of a line. -/
  | semicolon (implied : Bool)
  | endOfFile
  deriving DecidableEq, Repr, Inhabited

/-- A token and the bytes it covers. -/
structure Token where
  shape : Shape
  start : Nat
  stop : Nat
  /-- Whether the token before it ends on an earlier line. -/
  startsLine : Bool
  deriving Repr, Inhabited

/-- The words that are no names. -/
def keywords : List String :=
  ["break", "case", "chan", "const", "continue", "default", "defer", "else", "fallthrough", "for",
   "func", "go", "goto", "if", "import", "interface", "map", "package", "range", "return", "select",
   "struct", "switch", "type", "var"]

/-- Operators and punctuation, a longer one before those it starts with. -/
def operators : List String :=
  ["<<=", ">>=", "&^=", "...", "&&", "||", "<-", "++", "--", "==", "!=", "<=", ">=", ":=", "+=", "-=",
   "*=", "/=", "%=", "&=", "|=", "^=", "<<", ">>", "&^", "+", "-", "*", "/", "%", "&", "|", "^", "<",
   ">", "=", "!", "(", ")", "[", "]", "\x7b", "\x7d", ",", ".", ":", "~"]

/-- The symbols after which the end of a line is a semicolon. -/
def closers : List String :=
  ["break", "continue", "fallthrough", "return", "++", "--", ")", "]", "\x7d"]

/-- Whether the end of a line after a token of this shape is a semicolon. -/
def Shape.endsStatement : Shape → Bool
  | .symbol s => closers.contains s
  | .semicolon _ | .endOfFile => false
  | _ => true

end GoMeter.Go
