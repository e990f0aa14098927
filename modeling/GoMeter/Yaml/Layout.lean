import GoMeter.Yaml.Token

/-!
# The layout of a YAML text

Indentation opens and closes blocks, and a colon makes a key of what stands before it on its line. So
the text is read with the columns of the open blocks, the number of open brackets and, for each bracket,
the place where a key may have started. When a colon follows, the mark of the key goes there.

* `Layout.step`: reads one token.
* `tokens`: all tokens of a text.
-/

namespace GoMeter.Yaml

/-- A place where a key may have started. -/
structure KeyStart where
  /-- The number of tokens before it. -/
  token : Nat
  /-- Whether a colon has to follow, because an open block has its entries in this column. -/
  required : Bool
  index : Nat
  line : Nat
  column : Nat
  deriving Repr

/-- What has been read, and what the rest depends on. -/
structure Layout where
  cursor : Cursor
  tokens : Array Token
  /-- The column of the innermost open block, or `-1`. -/
  indent : Int
  /-- The columns of the blocks around it. -/
  indents : List Int
  /-- The start of a key at the present depth of brackets. -/
  keyStart : Option KeyStart
  /-- The starts of keys outside of each open bracket. -/
  outerKeys : List (Option KeyStart)
  /-- Whether a key may start here. -/
  keyAllowed : Bool

namespace Layout

/-- The layout at the start of a text. -/
def start (text : List Char) : Layout := ⟨.start text, #[], -1, [], none, [], true⟩

/-- Whether a bracket is open. -/
def inFlow (s : Layout) : Bool := !s.outerKeys.isEmpty

/-- Adds a token. -/
def push (s : Layout) (t : Token) : Layout := { s with tokens := s.tokens.push t }

/-- Moves to a place. -/
def moveTo (s : Layout) (c : Cursor) : Layout := { s with cursor := c }

/-- Moves over one character and adds a token for it. -/
def pushMark (s : Layout) (t : Token) : Layout := (s.moveTo s.cursor.forward).push t

/-- Moves over blanks, comments and line breaks; on a new line outside of brackets a key may start. -/
def skipGap : Nat → Layout → Layout
  | 0, s => s
  | fuel + 1, s =>
    let c := s.cursor.skipBlanks.skipComment
    if isBreak c.peek then
      skipGap fuel { s with cursor := c.lineBreak.2, keyAllowed := s.keyAllowed || !s.inFlow }
    else s.moveTo c

/-- Moves to the next token. -/
def toNextToken (s : Layout) : Layout :=
  let c := s.cursor
  let c := if c.index = 0 && c.peek = byteOrderMark then c.forward else c
  skipGap (c.rest.length + 1) (s.moveTo c)

/-- The greatest number of characters of a key and the colon after it. -/
def keyLimit : Nat := 1024

/-- The start of a key, if a colon may still follow here. -/
def fresh (c : Cursor) : Option KeyStart → Except Fault (Option KeyStart)
  | none => .ok none
  | some k =>
    if k.line = c.line && c.index ≤ k.index + keyLimit then .ok (some k)
    else if k.required then .error .malformed
    else .ok none

/-- Forgets the keys that a colon can no longer complete. -/
def dropStale (s : Layout) : Except Fault Layout := do
  let keyStart ← fresh s.cursor s.keyStart
  let outerKeys ← s.outerKeys.mapM (fresh s.cursor)
  pure { s with keyStart := keyStart, outerKeys := outerKeys }

/-- Closes the blocks whose entries are to the right of a column, given the columns of all blocks. -/
def closeBlocks (column : Int) : List Int → Int → Array Token → List Int × Int × Array Token
  | outer :: rest, indent, tokens =>
    if column < indent then closeBlocks column rest outer (tokens.push .blockEnd)
    else (outer :: rest, indent, tokens)
  | [], indent, tokens => ([], indent, tokens)

/-- Closes the blocks whose entries are to the right of a column; inside brackets there are none. -/
def unwind (s : Layout) (column : Int) : Layout :=
  if s.inFlow then s
  else
    let (indents, indent, tokens) := closeBlocks column s.indents s.indent s.tokens
    { s with indents := indents, indent := indent, tokens := tokens }

/-- Whether a block with entries in a column starts there. -/
def opensAt (s : Layout) (column : Nat) : Bool := s.indent < column

/-- Opens a block. -/
def addIndent (s : Layout) (column : Nat) : Layout :=
  { s with indents := s.indent :: s.indents, indent := column }

/-- Forgets where a key may have started. -/
def dropKey (s : Layout) : Except Fault Layout :=
  match s.keyStart with
  | some k => if k.required then .error .malformed else .ok { s with keyStart := none }
  | none => .ok s

/-- Remembers that a key may start here. -/
def saveKey (s : Layout) : Except Fault Layout :=
  if s.keyAllowed then do
    let s ← s.dropKey
    let c := s.cursor
    let required := !s.inFlow && s.indent == (c.column : Int)
    pure { s with keyStart := some ⟨s.tokens.size, required, c.index, c.line, c.column⟩ }
  else .ok s

/-- Allows a key to start next, or not. -/
def allowKey (s : Layout) (allowed : Bool) : Layout := { s with keyAllowed := allowed }

/-! ## Tokens by kind -/

/-- The end of the text. -/
def finish (s : Layout) : Except Fault Layout := do
  let s ← (s.unwind (-1)).dropKey
  pure (s.push .streamEnd)

/-- A line that separates documents. -/
def separator (s : Layout) (t : Token) : Except Fault Layout := do
  let s ← (s.unwind (-1)).dropKey
  pure (((s.allowKey false).moveTo (s.cursor.forwardBy 3)).push t)

/-- A directive. -/
def directiveLine (s : Layout) : Except Fault Layout := do
  let s ← (s.unwind (-1)).dropKey
  let (t, c) ← directive s.cursor
  pure (((s.allowKey false).moveTo c).push t)

/-- An opening bracket. -/
def openBracket (s : Layout) (t : Token) : Except Fault Layout := do
  let s ← s.saveKey
  let s := { s with outerKeys := s.keyStart :: s.outerKeys, keyStart := none, keyAllowed := true }
  pure (s.pushMark t)

/-- A closing bracket. -/
def closeBracket (s : Layout) (t : Token) : Except Fault Layout := do
  let s ← s.dropKey
  match s.outerKeys with
  | [] => throw .malformed
  | k :: rest => pure ({ s with outerKeys := rest, keyStart := k, keyAllowed := false }.pushMark t)

/-- A comma between the items in brackets. -/
def comma (s : Layout) : Except Fault Layout := do
  let s ← s.dropKey
  pure ((s.allowKey true).pushMark .comma)

/-- Opens a block here, if the token that starts it may stand here. -/
def openBlock (s : Layout) (t : Token) : Except Fault Layout :=
  if s.inFlow then .ok s
  else if !s.keyAllowed then .error .malformed
  else if s.opensAt s.cursor.column then .ok ((s.addIndent s.cursor.column).push t)
  else .ok s

/-- The mark of an item. -/
def entry (s : Layout) : Except Fault Layout := do
  let s ← s.openBlock .sequenceStart
  let s ← s.dropKey
  pure ((s.allowKey true).pushMark .entry)

/-- The mark of a key. -/
def keyMark (s : Layout) : Except Fault Layout := do
  let s ← s.openBlock .mappingStart
  let s ← s.dropKey
  pure ((s.allowKey !s.inFlow).pushMark .key)

/-- A token at a place among those that have been read. -/
def insertAt (tokens : Array Token) (i : Nat) (t : Token) : Array Token :=
  tokens.extract 0 i ++ #[t] ++ tokens.extract i tokens.size

/-- The colon before a value. What stands before it on the line becomes the key. -/
def valueMark (s : Layout) : Except Fault Layout :=
  match s.keyStart with
  | some k =>
    let s := { s with keyStart := none, tokens := insertAt s.tokens k.token .key, keyAllowed := false }
    let s :=
      if !s.inFlow && s.opensAt k.column then
        { s.addIndent k.column with tokens := insertAt s.tokens k.token .mappingStart }
      else s
    .ok (s.pushMark .value)
  | none => do
    let s ← s.openBlock .mappingStart
    let s ← s.dropKey
    pure ((s.allowKey !s.inFlow).pushMark .value)

/-- A token that may be, or start, a key. -/
def keyToken (s : Layout) (read : Cursor → Lexed) : Except Fault Layout := do
  let s ← s.saveKey
  let (t, c) ← read s.cursor
  pure (((s.allowKey false).moveTo c).push t)

/-- A block scalar. -/
def blockScalar (s : Layout) : Except Fault Layout := do
  let s ← s.dropKey
  let (text, c) ← block s.indent s.cursor
  pure (((s.allowKey true).moveTo c).push (.scalar text false))

/-- A plain scalar. -/
def plainScalar (s : Layout) : Except Fault Layout := do
  let s ← s.saveKey
  let (text, c, onNewLine) := plain s.inFlow s.indent s.cursor
  pure (((s.allowKey onNewLine).moveTo c).push (.scalar text true))

/-- A scalar in quotes as a token. -/
def quotedToken (c : Cursor) : Lexed := do
  let (text, c) ← quoted c
  pure (.scalar text false, c)

/-- An alias as a token. -/
def aliasToken (c : Cursor) : Lexed := do
  let (name, c) ← anchorName c
  pure (.alias name, c)

/-- An anchor as a token. -/
def anchorToken (c : Cursor) : Lexed := do
  let (name, c) ← anchorName c
  pure (.anchor name, c)

/-- Whether a plain scalar starts here. -/
def startsPlain (s : Layout) : Bool :=
  let ch := s.cursor.peek
  !(isWideGap ch || "-?:,[]\x7b\x7d#&*!|>'\"%@\x60".toList.contains ch) ||
    (!isWideGap (s.cursor.peekAt 1) && (ch == '-' || (!s.inFlow && (ch == '?' || ch == ':'))))

/-- Whether the character here is a mark of its own: inside brackets, or before a gap. -/
def standsAlone (s : Layout) : Bool := s.inFlow || isWideGap (s.cursor.peekAt 1)

/-- The token at a place. -/
def tokenHere (s : Layout) : Except Fault Layout :=
  let c := s.cursor
  let ch := c.peek
  let atLineStart := c.column == 0
  if ch = '%' && atLineStart then s.directiveLine
  else if ch = '-' && atLineStart && c.hasMarker '-' then s.separator .documentStart
  else if ch = '.' && atLineStart && c.hasMarker '.' then s.separator .documentEnd
  else if ch = '[' then s.openBracket .openList
  else if ch = '{' then s.openBracket .openMap
  else if ch = ']' then s.closeBracket .closeList
  else if ch = '}' then s.closeBracket .closeMap
  else if ch = ',' then s.comma
  else if ch = '-' && isWideGap (c.peekAt 1) then s.entry
  else if ch = '?' && s.standsAlone then s.keyMark
  else if ch = ':' && s.standsAlone then s.valueMark
  else if ch = '*' then s.keyToken aliasToken
  else if ch = '&' then s.keyToken anchorToken
  else if ch = '!' then s.keyToken tagToken
  else if (ch = '|' || ch = '>') && !s.inFlow then s.blockScalar
  else if ch = '\'' || ch = '"' then s.keyToken quotedToken
  else if s.startsPlain then s.plainScalar
  else .error .malformed

/-- Reads tokens up to the end of the text. Each one but the last takes a character, so the length of
the text bounds their number. -/
def readAll : Nat → Layout → Except Fault (Array Token)
  | 0, _ => .error .malformed
  | fuel + 1, s => do
    let s ← s.toNextToken.dropStale
    let s := s.unwind s.cursor.column
    if s.cursor.peek = atEnd then
      let s ← s.finish
      pure s.tokens
    else
      let s ← s.tokenHere
      readAll fuel s

end Layout

/-- The tokens of a text. -/
def tokens (text : List Char) : Except Fault (List Token) :=
  if text.all isAllowed then (Layout.readAll (text.length + 1) (.start text)).map Array.toList
  else .error .malformed

end GoMeter.Yaml
