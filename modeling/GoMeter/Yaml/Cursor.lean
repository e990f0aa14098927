/-!
# Places in a YAML text

A cursor is a place in a text together with its line and its column, which decide about layout. Past
the end of the text there is the character NUL, which no text holds.

* `Cursor.peek`, `Cursor.forward`, `Cursor.skipWhile`: looking and moving.
* `Cursor.lineBreak`: the line break at a place.
-/

namespace GoMeter.Yaml

/-- The character past the end of a text. -/
def atEnd : Char := '\x00'

/-- The mark that may stand before a text; it has no width. -/
def byteOrderMark : Char := Char.ofNat 0xFEFF

/-- Whether a character ends a line. -/
def isBreak (c : Char) : Bool :=
  c == '\n' || c == '\r' || c.toNat == 0x85 || c.toNat == 0x2028 || c.toNat == 0x2029

/-- Whether a character ends a line, or the text ends. -/
def isLineEnd (c : Char) : Bool := isBreak c || c == atEnd

/-- Whether a character is a blank or ends a line. -/
def isGap (c : Char) : Bool := c == ' ' || isLineEnd c

/-- Whether a character is a blank or a tab, or ends a line. -/
def isWideGap (c : Char) : Bool := c == '\t' || isGap c

/-- Whether a character is a blank or a tab. -/
def isSpace (c : Char) : Bool := c == ' ' || c == '\t'

/-- Whether a character may be part of a name. -/
def isNameChar (c : Char) : Bool := c.isAlphanum || c == '-' || c == '_'

/-- Whether a character can be part of a text at all. -/
def isAllowed (c : Char) : Bool :=
  let n := c.toNat
  c == '\t' || c == '\n' || c == '\r' || (0x20 ≤ n && n ≤ 0x7E) || n == 0x85 ||
    (0xA0 ≤ n && n ≤ 0xD7FF) || (0xE000 ≤ n && n ≤ 0xFFFD) || 0x10000 ≤ n

/-- A place in a text. -/
structure Cursor where
  rest : List Char
  index : Nat
  line : Nat
  column : Nat
  deriving Repr, Inhabited

namespace Cursor

/-- The start of a text. -/
def start (text : List Char) : Cursor := ⟨text, 0, 0, 0⟩

/-- The character at a place. -/
def peek (c : Cursor) : Char := c.rest.headD atEnd

/-- The character some places further on. -/
def peekAt (c : Cursor) (n : Nat) : Char := (c.rest.drop n).headD atEnd

/-- Whether a character ends a line, given what follows; a return before a line feed does not. -/
def endsLine (ch : Char) (rest : List Char) : Bool :=
  isBreak ch && !(ch == '\r' && rest.head? == some '\n')

/-- One place further on. -/
def forward (c : Cursor) : Cursor :=
  match c.rest with
  | [] => c
  | ch :: rest =>
    if endsLine ch rest then ⟨rest, c.index + 1, c.line + 1, 0⟩
    else ⟨rest, c.index + 1, c.line, if ch = byteOrderMark then c.column else c.column + 1⟩

/-- Some places further on. -/
def forwardBy (c : Cursor) : Nat → Cursor
  | 0 => c
  | n + 1 => c.forward.forwardBy n

/-- The characters from a place on that satisfy `p`. -/
def span (c : Cursor) (p : Char → Bool) : List Char := c.rest.takeWhile p

/-- Moves over the characters that satisfy `p`. -/
def skipWhile (c : Cursor) (p : Char → Bool) : Cursor := c.forwardBy (c.span p).length

/-- Moves over blanks. -/
def skipBlanks (c : Cursor) : Cursor := c.skipWhile (· == ' ')

/-- Moves over blanks, but not past a column. -/
def skipBlanksTo (c : Cursor) (column : Nat) : Cursor :=
  c.forwardBy (min (column - c.column) (c.span (· == ' ')).length)

/-- Moves over a comment. -/
def skipComment (c : Cursor) : Cursor :=
  if c.peek = '#' then c.skipWhile (!isLineEnd ·) else c

/-- The line break at a place, as it counts in a text, and the place after it. -/
def lineBreak (c : Cursor) : List Char × Cursor :=
  if c.peek = '\r' && c.peekAt 1 == '\n' then (['\n'], c.forwardBy 2)
  else if c.peek.toNat = 0x2028 ∨ c.peek.toNat = 0x2029 then ([c.peek], c.forward)
  else if isBreak c.peek then (['\n'], c.forward)
  else ([], c)

/-- Whether three equal characters stand at a place, with a gap after them. -/
def hasMarker (c : Cursor) (ch : Char) : Bool :=
  c.rest.take 3 == [ch, ch, ch] && isWideGap (c.peekAt 3)

/-- Whether a line that separates documents starts here. -/
def atSeparator (c : Cursor) : Bool := c.hasMarker '-' || c.hasMarker '.'

end Cursor

end GoMeter.Yaml
