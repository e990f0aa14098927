import GoMeter.Text.Quoted
import GoMeter.Yaml.Cursor
import GoMeter.Yaml.Tag

/-!
# Texts as YAML scalars

A text is written plain if it then reads back as the same text, else in single quotes, and in double
quotes if it has characters that need an escape. A long text is folded: a blank past the right margin is
written as a line break.

* `Style.ofText`: how a text is written.
* `scalar`: a written text.
* `listEntry`, `plainEntry`: an entry of a mapping.
-/

namespace GoMeter.Yaml

/-- The ways to write a text. -/
inductive Style where
  | plain | single | double
  deriving DecidableEq, Repr

/-! ## The choice of a style -/

/-- Whether a text may be taken for a mark of the format where it starts. -/
def startsWithMark : List Char → Bool
  | [] => false
  | c :: rest =>
    "#,[]\x7b\x7d&*!|>'\"%@\x60".toList.contains c ||
      ((c == '?' || c == ':' || c == '-') && (rest.headD atEnd |> isWideGap))

/-- Whether a text holds a mark of the format after its first character: a colon before a gap, or a
number sign after one. -/
def holdsMark : List Char → Bool
  | a :: b :: rest =>
    (b == ':' && isWideGap (rest.headD atEnd)) || (b == '#' && isWideGap a) || holdsMark (b :: rest)
  | _ => false

/-- Whether a text may be taken for a separator of documents. -/
def startsLikeSeparator (cs : List Char) : Bool :=
  ['-', '-', '-'].isPrefixOf cs || ['.', '.', '.'].isPrefixOf cs

/-- Whether a character has to be escaped. -/
def needsEscape (c : Char) : Bool := c != '\n' && !(' ' ≤ c && c ≤ '~')

/-- Whether a blank stands beside a line break, on the given side of it. -/
def holdsPair (first second : Char) : List Char → Bool
  | a :: b :: rest => (a == first && b == second) || holdsPair first second (b :: rest)
  | _ => false

/-- How a text is written. -/
def Style.ofText (cs : List Char) : Style :=
  let isEdge (c : Option Char) : Bool := c == some ' ' || c == some '\n'
  if cs.any needsEscape || holdsPair ' ' '\n' cs || holdsPair '\n' ' ' cs then .double
  else if Tag.ofPlain cs != .text || isEdge cs.head? || isEdge cs.getLast? || cs.contains '\n' ||
      startsWithMark cs || holdsMark cs || startsLikeSeparator cs then .single
  else .plain

/-! ## Plain and single-quoted texts -/

/-- The column past which a text is folded. -/
def margin : Nat := 80

/-- Whether a character is a blank, a line break or part of a word. -/
def runClass (c : Char) : Nat := if c == ' ' then 0 else if c == '\n' then 1 else 2

/-- The longest runs of blanks, of line breaks and of other characters. -/
def runs : List Char → List (List Char)
  | [] => []
  | c :: rest =>
    match runs rest with
    | (d :: run) :: more =>
      if runClass c = runClass d then (c :: d :: run) :: more else [c] :: (d :: run) :: more
    | more => [c] :: more

/-- A new line with an indentation. -/
def newLine (indent : Nat) : List Char := '\n' :: List.replicate indent ' '

/-- Writes runs from a column on. A single blank past the margin becomes a line break; line breaks are
written with one more of them. -/
def writeRuns (indent : Nat) (isFirst : Bool) (column : Nat) : List (List Char) → List Char
  | [] => []
  | run :: rest =>
    if run = [' '] && !isFirst && !rest.isEmpty && margin < column then
      newLine indent ++ writeRuns indent false indent rest
    else if run.head? = some '\n' then
      List.replicate run.length '\n' ++ newLine indent ++ writeRuns indent false indent rest
    else run ++ writeRuns indent false (column + run.length) rest

/-- A text in which quotes are written twice. -/
def doubleQuotes (cs : List Char) : List Char :=
  cs.flatMap fun c => if c == '\'' then ['\'', '\''] else [c]

/-! ## Double-quoted texts -/

/-- The letters of the short escapes. -/
def shortEscapes : List (Nat × Char) :=
  [(0, '0'), (7, 'a'), (8, 'b'), (9, 't'), (10, 'n'), (11, 'v'), (12, 'f'), (13, 'r'), (27, 'e'),
   (34, '"'), (92, '\\'), (0x85, 'N'), (0xA0, '_'), (0x2028, 'L'), (0x2029, 'P')]

/-- Upper-case hexadecimal digits. -/
def upperHex (width n : Nat) : List Char := (Text.hexDigits width n).map Char.toUpper

/-- The escape of a character. -/
def escapeOf (c : Char) : List Char :=
  let n := c.toNat
  match shortEscapes.lookup n with
  | some letter => ['\\', letter]
  | none =>
    if n ≤ 0xFF then '\\' :: 'x' :: upperHex 2 n
    else if n ≤ 0xFFFF then '\\' :: 'u' :: upperHex 4 n
    else '\\' :: 'U' :: upperHex 8 n

/-- Whether a character is written as an escape between double quotes. -/
def isEscaped (c : Char) : Bool := c == '"' || c == '\\' || !(' ' ≤ c && c ≤ '~')

/-- Writes a text between double quotes. `pending` is what stands between `column` and the present
character; a line may end before a blank or beside an escape, with a backslash at its end, and a blank at
the start of the next line is escaped. -/
def writeDouble (indent : Nat) (isFirst : Bool) (column : Nat) (pending : List Char) :
    List Char → List Char
  | [] => pending
  | c :: rest =>
    let canBreak := !isFirst && !rest.isEmpty
    if isEscaped c then
      let part := pending ++ escapeOf c
      let column := column + part.length
      if canBreak && margin + 1 < column then
        let blank := if rest.head? = some ' ' then ['\\'] else []
        part ++ '\\' :: newLine indent ++ blank ++
          writeDouble indent false (indent + blank.length) [] rest
      else part ++ writeDouble indent false column [] rest
    else if canBreak && (c == ' ' || pending.isEmpty) && margin < column + pending.length then
      let blank := if c = ' ' then ['\\'] else []
      pending ++ '\\' :: newLine indent ++ blank ++
        writeDouble indent false (indent + blank.length) [c] rest
    else writeDouble indent false column (pending ++ [c]) rest

/-! ## Entries -/

/-- A text as it is written from a column on. -/
def scalar (indent column : Nat) (cs : List Char) : List Char :=
  match Style.ofText cs with
  | .plain => writeRuns indent true column (runs cs)
  | .single =>
    '\'' :: writeRuns indent true (column + 1) ((runs cs).map doubleQuotes) ++ ['\'']
  | .double => '"' :: writeDouble indent true (column + 1) [] cs ++ ['"']

/-- An item of a list, on lines of its own. -/
def item (s : String) : List Char := '-' :: ' ' :: scalar 2 2 s.toList ++ ['\n']

/-- An entry with a list of texts. -/
def listEntry (key : String) (items : List String) : List Char :=
  if items.isEmpty then key.toList ++ ": []\n".toList
  else key.toList ++ ":\n".toList ++ items.flatMap item

/-- An entry with a word that is written plain. -/
def plainEntry (key word : String) : List Char := key.toList ++ ": ".toList ++ word.toList ++ ['\n']

end GoMeter.Yaml
