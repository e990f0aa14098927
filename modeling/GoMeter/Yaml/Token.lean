import GoMeter.Text.Utf8
import GoMeter.Yaml.Scalar

/-!
# Tokens of a YAML text

The tokens that a document is made of. Layout has tokens of its own: the start and the end of a block,
and a mark before each key.

* `Token`: the tokens.
* `anchorName`, `tagToken`, `directive`: the tokens that are names.
-/

namespace GoMeter.Yaml

/-- A token. -/
inductive Token where
  /-- A directive that fixes the version of the format. -/
  | version (major : Nat)
  /-- A directive that gives a handle for tags. -/
  | handle (name : String) (target : String)
  /-- Any other directive. -/
  | reserved
  | documentStart | documentEnd | streamEnd
  | sequenceStart | mappingStart | blockEnd
  | openList | closeList | openMap | closeMap
  | entry | comma | key | value
  | alias (name : String)
  | anchor (name : String)
  /-- A tag: its handle, if it has one, and the rest. -/
  | tag (handle : Option String) (rest : String)
  | scalar (text : List Char) (isPlain : Bool)
  deriving DecidableEq, Repr, Inhabited

/-- A token and the place after it. -/
abbrev Lexed := Except Fault (Token × Cursor)

/-! ## Anchors -/

/-- Whether a character may follow the name of an anchor. -/
def endsAnchor (c : Char) : Bool :=
  isWideGap c || c == '?' || c == ':' || c == ',' || c == ']' || c == '}' || c == '%' || c == '@' ||
    c.toNat == 0x60

/-- The name of an anchor, from the mark before it. -/
def anchorName (c : Cursor) : Except Fault (String × Cursor) :=
  let name := c.forward.span isNameChar
  let c := c.forward.forwardBy name.length
  if name.isEmpty || !endsAnchor c.peek then .error .malformed else .ok (String.ofList name, c)

/-! ## Tags -/

/-- Whether a character may be part of a tag. -/
def isTagChar (c : Char) : Bool :=
  c.isAlphanum || "-;/?:@&=+$,_.!~*'()[]%".toList.contains c

/-- The bytes of a run of escapes, and the number of its characters. -/
def escapedBytes : List Char → Option (List UInt8 × Nat)
  | '%' :: a :: b :: rest =>
    match Json.hexValue? a, Json.hexValue? b, escapedBytes rest with
    | some x, some y, some (bytes, n) => some ((x * 16 + y).toUInt8 :: bytes, n + 3)
    | _, _, _ => none
  | '%' :: _ => none
  | _ => some ([], 0)

/-- The characters of a tag; a run of escapes stands for the text of its bytes. -/
def tagText : Nat → Cursor → Scanned
  | 0, _ => .error .malformed
  | fuel + 1, c =>
    if c.peek = '%' then
      match escapedBytes c.rest with
      | none => .error .malformed
      | some (bytes, n) =>
        match Utf8.decode? bytes with
        | none => .error .malformed
        | some s => do
          let (text, c) ← tagText fuel (c.forwardBy n)
          pure (s.toList ++ text, c)
    else
      let run := c.span fun ch => isTagChar ch && ch != '%'
      if run.isEmpty then .ok ([], c)
      else do
        let (text, c) ← tagText fuel (c.forwardBy run.length)
        pure (run ++ text, c)

/-- The characters of a tag, at least one. -/
def tagRest (c : Cursor) : Except Fault (String × Cursor) := do
  let (text, c) ← tagText (c.rest.length + 1) c
  if text.isEmpty then throw .malformed
  pure (String.ofList text, c)

/-- A handle: an exclamation mark, or a name between two of them. -/
def tagHandle (c : Cursor) : Except Fault (String × Cursor) :=
  if c.peek != '!' then .error .malformed
  else if c.peekAt 1 = ' ' then .ok ("!", c.forward)
  else
    let name := c.forward.span isNameChar
    let c := c.forward.forwardBy name.length
    if c.peek = '!' then .ok (String.ofList ('!' :: name ++ ['!']), c.forward)
    else .error .malformed

/-- A tag, from its exclamation mark. -/
def tagToken (c : Cursor) : Lexed := do
  let next := c.peekAt 1
  let (token, c) ←
    if next = '<' then do
      let (rest, c) ← tagRest (c.forwardBy 2)
      if c.peek != '>' then throw .malformed
      pure (Token.tag none rest, c.forward)
    else if isWideGap next then pure (Token.tag none "!", c.forward)
    else if (c.forward.span (!isGap ·)).contains '!' then do
      let (handle, c) ← tagHandle c
      let (rest, c) ← tagRest c
      pure (Token.tag (some handle) rest, c)
    else do
      let (rest, c) ← tagRest c.forward
      pure (Token.tag (some "!") rest, c)
  if !isGap c.peek then throw .malformed
  pure (token, c)

/-! ## Directives -/

/-- A number of a version. -/
def versionNumber (c : Cursor) : Except Fault (Nat × Cursor) :=
  let digits := c.span Char.isDigit
  if digits.isEmpty then .error .malformed
  else .ok (Decimal.value digits, c.forwardBy digits.length)

/-- What follows the name of a directive. -/
def directiveValue (name : String) (c : Cursor) : Lexed := do
  if name = "YAML" then
    let (major, c) ← versionNumber c.skipBlanks
    if c.peek != '.' then throw .malformed
    let (_, c) ← versionNumber c.forward
    if !isGap c.peek then throw .malformed
    pure (.version major, c)
  else if name = "TAG" then
    let (handle, c) ← tagHandle c.skipBlanks
    if c.peek != ' ' then throw .malformed
    let (target, c) ← tagRest c.skipBlanks
    if !isGap c.peek then throw .malformed
    pure (.handle handle target, c)
  else pure (.reserved, c.skipWhile (!isLineEnd ·))

/-- A directive, from its percent sign to the end of its line. -/
def directive (c : Cursor) : Lexed := do
  let name := c.forward.span isNameChar
  let c := c.forward.forwardBy name.length
  if name.isEmpty || !isGap c.peek then throw .malformed
  let (token, c) ← directiveValue (String.ofList name) c
  let c ← ignoredLine c
  pure (token, c)

end GoMeter.Yaml
