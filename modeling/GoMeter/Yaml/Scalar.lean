import GoMeter.Json.Reader
import GoMeter.Yaml.Cursor
import GoMeter.Yaml.Fault

/-!
# Scalars of a YAML text

The four ways to write a scalar: in double quotes with escapes, in single quotes, as an indented block,
and plain. In all of them a single line break counts as a blank and further ones are kept, except in a
literal block, which keeps all.

* `quoted`: a scalar in quotes.
* `block`: a literal or a folded block.
* `plain`: a plain scalar.
-/

namespace GoMeter.Yaml

/-- A part of a scalar and the place after it. -/
abbrev Scanned := Except Fault (List Char × Cursor)

/-! ## Quoted scalars -/

/-- The characters that one letter after a backslash stands for. -/
def escapes : List (Char × Nat) :=
  [('0', 0), ('a', 7), ('b', 8), ('t', 9), ('\t', 9), ('n', 10), ('v', 11), ('f', 12), ('r', 13),
   ('e', 27), (' ', 32), ('"', 34), ('\\', 92), ('/', 47), ('N', 0x85), ('_', 0xA0), ('L', 0x2028),
   ('P', 0x2029)]

/-- The number of hexadecimal digits after a letter that introduces a code point. -/
def codeLength? : Char → Option Nat
  | 'x' => some 2
  | 'u' => some 4
  | 'U' => some 8
  | _ => none

/-- The value of hexadecimal digits. -/
def hexNumber? (cs : List Char) : Option Nat :=
  (cs.mapM Json.hexValue?).map fun ds => ds.foldl (fun n d => n * 16 + d) 0

/-- The character that a code point stands for. -/
def charOf (code : Nat) : Except Fault Char :=
  if 0x110000 ≤ code then .error (.noSuchChar code) else .ok (Char.ofNat code)

/-- The line breaks at a place, over blanks and tabs. A separator of documents must not follow. -/
def foldedBreaks : Nat → Cursor → Scanned
  | 0, _ => .error .malformed
  | fuel + 1, c =>
    if c.atSeparator then .error .malformed
    else
      let c := c.skipWhile isSpace
      if isBreak c.peek then do
        let (b, c) := c.lineBreak
        let (bs, c) ← foldedBreaks fuel c
        pure (b ++ bs, c)
      else .ok ([], c)

/-- What line breaks count for, given the first one and those after it. -/
def folded (first others : List Char) : List Char :=
  (if first != ['\n'] then first else if others.isEmpty then [' '] else []) ++ others

/-- An escape, from after its backslash. -/
def escape (c : Cursor) : Scanned :=
  match escapes.lookup c.peek with
  | some code => .ok ([Char.ofNat code], c.forward)
  | none =>
    match codeLength? c.peek with
    | some n =>
      match hexNumber? ((c.forward.rest).take n) with
      | some code =>
        if (c.forward.rest).length < n then .error .malformed
        else do
          let ch ← charOf code
          pure ([ch], c.forward.forwardBy n)
      | none => .error .malformed
    | none =>
      if isBreak c.peek then
        let after := c.lineBreak.2
        foldedBreaks (after.rest.length + 1) after
      else .error .malformed

/-- Blanks inside quotes, and the line breaks among them. -/
def quotedGap (c : Cursor) : Scanned :=
  let blanks := c.span isSpace
  let c := c.forwardBy blanks.length
  if c.peek = atEnd then .error .malformed
  else if isBreak c.peek then do
    let (first, c) := c.lineBreak
    let (others, c) ← foldedBreaks (c.rest.length + 1) c
    pure (folded first others, c)
  else .ok (blanks, c)

/-- Whether a character stands for itself between quotes of either kind. -/
def isQuotedPlain (c : Char) : Bool := c != '\'' && c != '"' && c != '\\' && !isWideGap c

/-- The rest of a scalar in quotes, up to the closing one. -/
def quotedRest (quote : Char) : Nat → Cursor → Scanned
  | 0, _ => .error .malformed
  | fuel + 1, c =>
    let continued (part : List Char) (c : Cursor) : Scanned := do
      let (text, c) ← quotedRest quote fuel c
      pure (part ++ text, c)
    let run := c.span isQuotedPlain
    if !run.isEmpty then continued run (c.forwardBy run.length)
    else if c.peek = quote then
      if quote = '\'' && c.peekAt 1 == '\'' then continued ['\''] (c.forwardBy 2)
      else .ok ([], c.forward)
    else if c.peek = '\\' && quote == '"' then do
      let (part, c) ← escape c.forward
      continued part c
    else if isWideGap c.peek then do
      let (part, c) ← quotedGap c
      continued part c
    else continued [c.peek] c.forward

/-- A scalar in quotes, from its opening one. -/
def quoted (c : Cursor) : Scanned := quotedRest c.peek (c.rest.length + 1) c.forward

/-! ## Block scalars -/

/-- What becomes of the line breaks at the end of a block. -/
inductive Chomping where
  | strip | clip | keep
  deriving DecidableEq, Repr

/-- The chomping that an indicator stands for. -/
def chomping? : Char → Option Chomping
  | '+' => some .keep
  | '-' => some .strip
  | _ => none

/-- The indentation that a digit stands for. -/
def increment? (c : Char) : Option Nat := if c.isDigit then some (c.toNat - '0'.toNat) else none

/-- The indicators after the mark of a block, in either order. -/
def indicators (c : Cursor) : Except Fault (Chomping × Option Nat × Cursor) :=
  let (chomping, increment, c) : Chomping × Option Nat × Cursor :=
    match chomping? c.peek with
    | some chomping =>
      match increment? c.forward.peek with
      | some n => (chomping, some n, c.forwardBy 2)
      | none => (chomping, none, c.forward)
    | none =>
      match increment? c.peek with
      | some n =>
        match chomping? c.forward.peek with
        | some chomping => (chomping, some n, c.forwardBy 2)
        | none => (.clip, some n, c.forward)
      | none => (.clip, none, c)
  if increment = some 0 || !isGap c.peek then .error .malformed else .ok (chomping, increment, c)

/-- The rest of a line that may hold only a comment. -/
def ignoredLine (c : Cursor) : Except Fault Cursor :=
  let c := c.skipBlanks.skipComment
  if isLineEnd c.peek then .ok c.lineBreak.2 else .error .malformed

/-- The blank lines before a block whose indentation is not given, and the widest of them. -/
def blankLines : Nat → Nat → Cursor → List Char × Nat × Cursor
  | 0, widest, c => ([], widest, c)
  | fuel + 1, widest, c =>
    if c.peek = ' ' then
      let c := c.skipBlanks
      blankLines fuel (max widest c.column) c
    else if isBreak c.peek then
      let (b, c) := c.lineBreak
      let (bs, widest, c) := blankLines fuel widest c
      (b ++ bs, widest, c)
    else ([], widest, c)

/-- The line breaks at a place in a block with the given indentation. -/
def blockBreaks (indent : Nat) : Nat → Cursor → List Char × Cursor
  | 0, c => ([], c)
  | fuel + 1, c =>
    let c := c.skipBlanksTo indent
    if isBreak c.peek then
      let (b, c) := c.lineBreak
      let (bs, c) := blockBreaks indent fuel c
      (b ++ bs, c)
    else ([], c)

/-- The lines of a block, given the line breaks before the next one. -/
def blockLines (fold : Bool) (chomping : Chomping) (indent : Nat) :
    Nat → List Char → List Char → Cursor → List Char × Cursor
  | 0, _, _, c => ([], c)
  | fuel + 1, last, breaks, c =>
    if c.column = indent && c.peek != atEnd then
      let line := c.span (!isLineEnd ·)
      let (last', c') := (c.forwardBy line.length).lineBreak
      let (breaks', c') := blockBreaks indent (c'.rest.length + 1) c'
      let joint :=
        if c'.column = indent && c'.peek != atEnd then
          if fold && last' == ['\n'] && !isSpace c.peek && !isSpace c'.peek then
            if breaks'.isEmpty then [' '] else []
          else last'
        else []
      let (text, c') := blockLines fold chomping indent fuel last' breaks' c'
      (breaks ++ line ++ joint ++ text, c')
    else
      ((if chomping = .strip then [] else last) ++ (if chomping = .keep then breaks else []), c)

/-- A block, from its mark. `indent` is the indentation of what is around it. -/
def block (indent : Int) (c : Cursor) : Scanned := do
  let fold := c.peek = '>'
  let (chomping, increment, c) ← indicators c.forward
  let c ← ignoredLine c
  let least := max 1 (indent + 1).toNat
  let fuel := c.rest.length + 1
  match increment with
  | some n =>
    let indent := least + n - 1
    let (breaks, c) := blockBreaks indent fuel c
    pure (blockLines fold chomping indent fuel [] breaks c)
  | none =>
    let (breaks, widest, c) := blankLines fuel 0 c
    pure (blockLines fold chomping (max least widest) fuel [] breaks c)

/-! ## Plain scalars -/

/-- Whether a character is a bracket or a comma, which end a plain scalar inside brackets. -/
def isFlowMark (c : Char) : Bool := c == ',' || c == '[' || c == ']' || c == '{' || c == '}'

/-- The characters from a place on that belong to a plain scalar on one line. -/
def plainRun (inFlow : Bool) : List Char → List Char
  | [] => []
  | c :: rest =>
    let next := rest.headD atEnd
    if isWideGap c || (c == ':' && (isWideGap next || (inFlow && isFlowMark next))) ||
        (inFlow && (isFlowMark c || c == '?')) then []
    else c :: plainRun inFlow rest

/-- The blank lines inside a plain scalar; nothing if a separator of documents follows. -/
def plainBreaks : Nat → Cursor → Option (List Char) × Cursor
  | 0, c => (some [], c)
  | fuel + 1, c =>
    if c.atSeparator && c.column = 0 then (none, c)
    else
      let c := c.skipBlanks
      if isBreak c.peek then
        let (b, c) := c.lineBreak
        match plainBreaks fuel c with
        | (some bs, c) => (some (b ++ bs), c)
        | (none, c) => (none, c)
      else (some [], c)

/-- What stands between two parts of a plain scalar, the place after it, and whether that is on a new
line. It is empty at the end of the scalar. -/
def plainGap (c : Cursor) : List Char × Cursor × Bool :=
  let blanks := c.span (· == ' ')
  let c := c.forwardBy blanks.length
  if isBreak c.peek then
    let (first, c) := c.lineBreak
    match plainBreaks (c.rest.length + 1) c with
    | (some others, c) => (folded first others, c, true)
    | (none, c) => ([], c, true)
  else (blanks, c, false)

/-- The parts of a plain scalar, given what stands before the next one. The last component of the
result says whether the scalar ends on a line after its last part. -/
def plainParts (inFlow : Bool) (indent : Int) :
    Nat → List Char → Bool → Cursor → List Char × Cursor × Bool
  | 0, _, onNewLine, c => ([], c, onNewLine)
  | fuel + 1, gap, onNewLine, c =>
    let run := if c.peek = '#' then [] else plainRun inFlow c.rest
    if run.isEmpty then ([], c, onNewLine)
    else
      let (next, c', onNewLine') := plainGap (c.forwardBy run.length)
      if next.isEmpty || c'.peek == '#' || (!inFlow && (c'.column : Int) < indent) then
        (gap ++ run, c', onNewLine')
      else
        let (text, c'', onNewLine'') := plainParts inFlow indent fuel next onNewLine' c'
        (gap ++ run ++ text, c'', onNewLine'')

/-- A plain scalar, the place after it, and whether that is on a new line. `indent` is the indentation
of what is around it. -/
def plain (inFlow : Bool) (indent : Int) (c : Cursor) : List Char × Cursor × Bool :=
  plainParts inFlow (indent + 1) (c.rest.length + 1) [] false c

end GoMeter.Yaml
