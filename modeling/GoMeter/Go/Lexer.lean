import GoMeter.Go.Numeral
import GoMeter.Source
import GoMeter.Text.DecimalDigit
import GoMeter.Text.Letter

/-!
# From bytes to tokens

The lexer works on the characters of the source, each with the offset of its first byte. It gives
the tokens and, apart from them, the comments. The end of a line is a semicolon after a name, a
literal, a closing bracket and a few keywords; a comment that spans lines ends a line too.

* `lex`: the tokens and comments of a source, or the offset of what is neither.
-/

namespace GoMeter.Go

open Utf8 (Glyph)

/-- The bytes of a comment. -/
structure CommentSpan where
  start : Nat
  stop : Nat
  deriving Repr, Inhabited

/-- The tokens of a source and its comments, each in order. -/
structure Lexed where
  tokens : List Token
  comments : List CommentSpan

/-- Whether a character starts a name. -/
def startsName (c : Char) : Bool := c == '_' || Text.isLetter c

/-- Whether a character continues a name. -/
def continuesName (c : Char) : Bool := startsName c || Text.isDecimalDigit c

/-- The number of characters up to and with the `*` and `/` that close a block comment. -/
def blockLength? : Nat → List Char → Option Nat
  | n, '*' :: '/' :: _ => some (n + 2)
  | n, _ :: rest => blockLength? (n + 1) rest
  | _, [] => none

/-- Whether a text starts with so many characters of a class. -/
def startsWithRun (n : Nat) (p : Char → Bool) (cs : List Char) : Bool :=
  (cs.take n).length == n && (cs.take n).all p

/-- The number of hexadecimal digits that a letter after a backslash asks for. -/
def hexEscapeDigits? : Char → Option Nat
  | 'x' => some 2
  | 'u' => some 4
  | 'U' => some 8
  | _ => none

/-- The letters and marks that stand for one character after a backslash in a rune. -/
def runeEscapeMarks : List Char := ['a', 'b', 'f', 'n', 'r', 't', 'v', '\\', '\x27', '"']

/-- The number of characters of an escape in a rune, after its backslash. -/
def runeEscapeLength? : List Char → Option Nat
  | [] => none
  | c :: rest =>
    match hexEscapeDigits? c with
    | some n => if startsWithRun n Numeral.isHex rest then some (n + 1) else none
    | none =>
      if runeEscapeMarks.contains c then some 1
      else if startsWithRun 3 Numeral.isOctal (c :: rest) then some 3
      else none

/-- Whether what follows a backslash in a string is an escape: the letters that ask for digits have
them, and any other character may stand there. -/
def isStringEscape : List Char → Bool
  | [] => false
  | c :: rest =>
    match hexEscapeDigits? c with
    | some n => startsWithRun n Numeral.isHex rest
    | none => true

/-- The number of characters of a string after its opening quote, the closing one included. What
follows the first character of an escape holds no quote, so it is passed over like any other text. -/
def stringLength? : Nat → List Char → Option Nat
  | n, '"' :: _ => some (n + 1)
  | n, '\\' :: c :: rest =>
    if isStringEscape (c :: rest) then stringLength? (n + 2) rest else none
  | n, c :: rest => if c == '\n' || c == '\\' then none else stringLength? (n + 1) rest
  | _, [] => none

/-- The number of characters of a raw string after its opening quote, the closing one included. -/
def rawLength? : Nat → List Char → Option Nat
  | n, c :: rest => if c == '\x60' then some (n + 1) else rawLength? (n + 1) rest
  | _, [] => none

/-- The number of characters of a rune literal after its opening quote, the closing one included. -/
def runeLength? (cs : List Char) : Option Nat :=
  match cs with
  | '\\' :: rest =>
    match runeEscapeLength? rest with
    | some k => if (rest.drop k).head? = some '\x27' then some (k + 2) else none
    | none => none
  | c :: '\x27' :: _ => if c == '\x27' || c == '\n' then none else some 2
  | _ => none

/-- What stands at the head of a text that is neither blank nor empty. -/
inductive Piece where
  /-- A token of so many characters. -/
  | token (shape : Shape) (length : Nat)
  /-- A comment of so many characters. -/
  | comment (length : Nat)

/-- The shape of a word. -/
def wordShape (word : List Char) : Shape :=
  let s := String.ofList word
  if keywords.contains s then .symbol s else .name s

/-- The operator at the head of a text. -/
def operator? (cs : List Char) : Option Piece :=
  (operators.find? fun s => s.toList.isPrefixOf cs).map fun s => .token (.symbol s) s.length

/-- Whether a number starts here: with a digit, or with a point before one. -/
def startsNumber : List Char → Bool
  | '.' :: c :: _ => c.isDigit
  | c :: _ => c.isDigit
  | [] => false

/-- The number at the head of a text. -/
def number? (cs : List Char) : Option Piece :=
  let hex := match cs with
    | '0' :: c :: _ => c == 'x' || c == 'X'
    | _ => false
  let run := Numeral.run hex false cs
  (Numeral.classify? run).map fun shape => .token shape run.length

/-- The token or comment at the head of a text. -/
def piece? (cs : List Char) : Option Piece :=
  match cs with
  | '/' :: '/' :: _ => some (.comment (cs.takeWhile (· != '\n')).length)
  | '/' :: '*' :: rest => (blockLength? 2 rest).map .comment
  | ';' :: _ => some (.token (.semicolon false) 1)
  | '"' :: rest => (stringLength? 1 rest).map (.token .string)
  | '\x60' :: rest => (rawLength? 1 rest).map (.token .rawString)
  | '\x27' :: rest => (runeLength? rest).map fun n => .token .rune (n + 1)
  | c :: _ =>
    if startsName c then
      let word := cs.takeWhile continuesName
      some (.token (wordShape word) word.length)
    else if startsNumber cs then number? cs
    else operator? cs
  | [] => none

/-- What the lexer remembers between two pieces. -/
structure LexState where
  /-- Tokens and comments so far, the last first. -/
  tokens : List Token
  comments : List CommentSpan
  /-- Whether the end of a line is a semicolon here. -/
  pending : Bool
  /-- Whether a line has ended since the last token. -/
  freshLine : Bool
  /-- Where the last token ended. -/
  last : Nat

namespace LexState

/-- The state at the start of a file. -/
def start : LexState := ⟨[], [], false, true, 0⟩

/-- A line ends at `offset`. -/
def endLine (s : LexState) (offset : Nat) : LexState :=
  if s.pending then
    { s with
      tokens := ⟨.semicolon true, offset, offset, s.freshLine⟩ :: s.tokens
      pending := false
      freshLine := true }
  else { s with freshLine := true }

/-- A token is read. -/
def addToken (s : LexState) (shape : Shape) (start stop : Nat) : LexState :=
  { s with
    tokens := ⟨shape, start, stop, s.freshLine⟩ :: s.tokens
    pending := shape.endsStatement
    freshLine := false
    last := stop }

/-- A comment is read; one that spans lines ends a line. -/
def addComment (s : LexState) (start stop : Nat) (spansLines : Bool) : LexState :=
  let s := { s with comments := ⟨start, stop⟩ :: s.comments }
  if spansLines then s.endLine start else s

/-- The end of the file, after the last token. -/
def finish (s : LexState) : Lexed :=
  let s := s.endLine s.last
  ⟨(⟨.endOfFile, s.last, s.last, true⟩ :: s.tokens).reverse, s.comments.reverse⟩

end LexState

/-- Reads characters with their offsets; the offset of the end of the file stands after the last. -/
def lexFrom : Nat → LexState → List Char → List Nat → Except Nat Lexed
  | fuel + 1, s, c :: rest, offset :: offsets =>
    if c == '\n' then lexFrom fuel (s.endLine offset) rest offsets
    else if c == ' ' || c == '\t' || c == '\r' then lexFrom fuel s rest offsets
    else
      match piece? (c :: rest) with
      | none => .error offset
      | some (.token shape n) =>
        let later := (offset :: offsets).drop n
        lexFrom fuel (s.addToken shape offset (later.headD offset)) ((c :: rest).drop n) later
      | some (.comment n) =>
        let later := (offset :: offsets).drop n
        lexFrom fuel
          (s.addComment offset (later.headD offset) (((c :: rest).take n).contains '\n'))
          ((c :: rest).drop n) later
  | _, s, _, _ => .ok s.finish

/-- The characters of a source, without the byte order mark it may start with. -/
def sourceGlyphs (src : Source) : List Glyph :=
  match Utf8.glyphs 0 src.bytes.toList with
  | [] => []
  | g :: rest => if g.char? = some (Char.ofNat 0xFEFF) then rest else g :: rest

/-- The tokens and comments of a source, or the offset of what is neither. -/
def lex (src : Source) : Except Nat Lexed :=
  let glyphs := sourceGlyphs src
  lexFrom (glyphs.length + 1) .start (glyphs.map Glyph.char)
    (glyphs.map Glyph.offset ++ [src.size])

end GoMeter.Go
