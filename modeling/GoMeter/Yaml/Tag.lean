import GoMeter.Json.Reader
import GoMeter.Yaml.Fault

/-!
# Tags and plain scalars

Every scalar has a tag, which says how its text is read. The tag of a plain scalar follows from its
text: a word for a truth value or for nothing, an integer in one of four bases or in base sixty, a
number with a point, a date, and else a text.

* `Tag.ofPlain`: the tag of a plain scalar.
* `Tag.ofUri`: the tag of a name.
* `stamp?`: the date of a text.
-/

namespace GoMeter.Yaml

/-- How a node is read. -/
inductive Tag where
  | null | bool | int | float | stamp | text | list | map
  /-- The key that takes over the entries of another mapping. -/
  | merge
  /-- The key of a default value. -/
  | default
  /-- A tag that has no meaning here. -/
  | unknown
  deriving DecidableEq, Repr

/-- The name that the tags of this format start with. -/
def tagBase : String := "tag:yaml.org,2002:"

/-- The tags and their names. -/
def Tag.names : List (String × Tag) :=
  [("null", .null), ("bool", .bool), ("int", .int), ("float", .float), ("timestamp", .stamp),
   ("str", .text), ("seq", .list), ("map", .map), ("merge", .merge), ("value", .default)]

/-- The tag of a name. -/
def Tag.ofUri (uri : String) : Tag :=
  ((Tag.names.map fun (n, t) => (tagBase ++ n, t)).lookup uri).getD .unknown

/-! ## Words -/

/-- The words for true, in lower case. -/
def trueWords : List String := ["yes", "true", "on"]

/-- The words for false, in lower case. -/
def falseWords : List String := ["no", "false", "off"]

/-- A word in lower case, with a capital, and in capitals. -/
def spellings (word : String) : List String := [word, word.capitalize, word.toUpper]

/-- Whether a text is a word for a truth value. -/
def isTruthWord (cs : List Char) : Bool :=
  ((trueWords ++ falseWords).flatMap spellings).contains (String.ofList cs)

/-- Whether a text stands for nothing. -/
def isNullWord (cs : List Char) : Bool := ["", "~", "null", "Null", "NULL"].contains (String.ofList cs)

/-! ## Numbers -/

/-- Whether a character is an ASCII digit or an underscore. -/
def isDigitOrLine (c : Char) : Bool := c.isDigit || c == '_'

/-- Whether a text is not empty and made of certain characters. -/
def isRun (p : Char → Bool) (cs : List Char) : Bool := !cs.isEmpty && cs.all p

/-- Whether a text is a part of a number in base sixty after the first one. -/
def isSixtieth : List Char → Bool
  | [c] => c.isDigit
  | [c, d] => '0' ≤ c && c ≤ '5' && d.isDigit
  | _ => false

/-- The pieces of a text between colons. -/
def colonPieces : List Char → List (List Char)
  | [] => [[]]
  | ':' :: rest => [] :: colonPieces rest
  | c :: rest =>
    match colonPieces rest with
    | [] => [[c]]
    | piece :: more => (c :: piece) :: more

/-- Whether a text is a digit, other than zero if so asked, with digits and underscores after it. -/
def isWhole (zeroAllowed : Bool) : List Char → Bool
  | c :: rest => c.isDigit && (zeroAllowed || c != '0') && rest.all isDigitOrLine
  | [] => false

/-- Whether a text is a number in base sixty. -/
def isSexagesimal (zeroAllowed : Bool) (cs : List Char) : Bool :=
  match colonPieces cs with
  | first :: second :: more => isWhole zeroAllowed first && (second :: more).all isSixtieth
  | _ => false

/-- Whether a text without a sign is an integer. -/
def isUnsignedInteger (cs : List Char) : Bool :=
  match cs with
  | ['0'] => true
  | '0' :: 'b' :: ds => isRun (fun c => c == '0' || c == '1' || c == '_') ds
  | '0' :: 'x' :: ds => isRun (fun c => (Json.hexValue? c).isSome || c == '_') ds
  | '0' :: ds => isRun (fun c => ('0' ≤ c && c ≤ '7') || c == '_') ds
  | _ => isWhole false cs || isSexagesimal false cs

/-- Whether a text is an integer. -/
def isInteger (cs : List Char) : Bool := isUnsignedInteger (signOf cs).2

/-- Whether a text is nothing, or an exponent with its sign. -/
def isExponent : List Char → Bool
  | [] => true
  | e :: sign :: ds => (e == 'e' || e == 'E') && (sign == '-' || sign == '+') && isRun Char.isDigit ds
  | _ => false

/-- Whether a text is what may follow the point of a number. -/
def isFraction (cs : List Char) : Bool := isExponent (cs.dropWhile isDigitOrLine)

/-- Whether a text without a sign is a number with a point. -/
def isUnsignedFloat (cs : List Char) : Bool :=
  match cs.dropWhile (· != '.') with
  | [] => false
  | _ :: fraction =>
    let whole := cs.takeWhile (· != '.')
    (isWhole true whole && isFraction fraction) ||
      (isSexagesimal true whole && fraction.all isDigitOrLine)

/-- Whether a text is a number with a point, or stands for infinity or for no number. -/
def isFloat (cs : List Char) : Bool :=
  isUnsignedFloat (signOf cs).2 ||
    [".inf", ".Inf", ".INF"].contains (String.ofList (signOf cs).2) ||
    [".nan", ".NaN", ".NAN"].contains (String.ofList cs) ||
    (match cs with
     | '.' :: d :: rest => d.isDigit && isFraction rest
     | _ => false)

/-! ## Dates -/

/-- Reads `least` to `most` digits. -/
def digitsBetween (least most : Nat) (cs : List Char) : Option (Nat × List Char) :=
  let ds := (cs.takeWhile Char.isDigit).take most
  if ds.length < least then none else some (Decimal.value ds, cs.drop ds.length)

/-- Reads one given character. -/
def expect (c : Char) : List Char → Option (List Char)
  | d :: rest => if c = d then some rest else none
  | [] => none

/-- Reads what stands between a date and a time of day. -/
def timeSeparator : List Char → Option (List Char)
  | [] => none
  | c :: rest =>
    if c = 'T' ∨ c = 't' then some rest
    else if c = ' ' ∨ c = '\t' then some (rest.dropWhile fun d => d == ' ' || d == '\t')
    else none

/-- Reads the part of a second after a point, in millionths. -/
def microseconds : List Char → Nat × List Char
  | '.' :: cs =>
    let ds := cs.takeWhile Char.isDigit
    let six := ds.take 6
    (Decimal.value (six ++ List.replicate (6 - six.length) '0'), cs.drop ds.length)
  | cs => (0, cs)

/-- Reads an offset from universal time, up to the end of a text. -/
def zone (cs : List Char) : Option (Option Int) :=
  match cs.dropWhile fun d => d == ' ' || d == '\t' with
  | [] => if cs.isEmpty then some none else none
  | ['Z'] => some (some 0)
  | sign :: rest => do
    if sign != '-' && sign != '+' then none
    let (hours, rest) ← digitsBetween 1 2 rest
    let minutes ← match rest with
      | [] => some 0
      | ':' :: rest =>
        match digitsBetween 2 2 rest with
        | some (m, []) => some m
        | _ => none
      | _ => none
    let total : Int := (hours * 60 + minutes : Nat)
    pure (some (if sign = '-' then -total else total))

/-- The date of a text, whether or not it exists. -/
def stamp? (cs : List Char) : Option Stamp := do
  let (year, cs) ← digitsBetween 4 4 cs
  let (month, cs) ← digitsBetween 1 2 (← expect '-' cs)
  let (day, cs) ← digitsBetween 1 2 (← expect '-' cs)
  if cs.isEmpty then return ⟨year, month, day, none⟩
  let (hour, cs) ← digitsBetween 1 2 (← timeSeparator cs)
  let (minute, cs) ← digitsBetween 2 2 (← expect ':' cs)
  let (second, cs) ← digitsBetween 2 2 (← expect ':' cs)
  let (micro, cs) := microseconds cs
  let zone ← zone cs
  pure ⟨year, month, day, some ⟨hour, minute, second, micro, zone⟩⟩

/-- Whether a text is a date; without a time of day, month and day have two digits. -/
def isStamp (cs : List Char) : Bool :=
  match stamp? cs with
  | some s => s.clock.isSome || cs.length == 10
  | none => false

/-! ## Tags -/

/-- The tag of a plain scalar. -/
def Tag.ofPlain (cs : List Char) : Tag :=
  if isTruthWord cs then .bool
  else if isFloat cs then .float
  else if isInteger cs then .int
  else if cs = ['<', '<'] then .merge
  else if isNullWord cs then .null
  else if isStamp cs then .stamp
  else if cs = ['='] then .default
  else if cs = ['!'] ∨ cs = ['&'] ∨ cs = ['*'] then .unknown
  else .text

end GoMeter.Yaml
