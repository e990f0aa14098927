import GoMeter.Go.Token

/-!
# Number literals

A number literal is recognised in two steps: the longest run of characters that could belong to it,
and the class of that run. Digits may be separated by single underscores, also right after the mark
of a base.

* `Numeral.run`: the longest run.
* `Numeral.classify?`: integer, floating-point or imaginary, or none of them.
-/

namespace GoMeter.Go.Numeral

/-- Whether a character is a hexadecimal digit. -/
def isHex (c : Char) : Bool := c.isDigit || ('a' ≤ c && c ≤ 'f') || ('A' ≤ c && c ≤ 'F')

/-- The longest run that could be a number: letters, digits, underscores, points, and a sign after
the mark of an exponent. -/
def run (hex : Bool) : Bool → List Char → List Char
  | _, [] => []
  | afterMark, c :: rest =>
    if c.isAlphanum || c == '_' || c == '.' then
      let mark := if hex then c == 'p' || c == 'P' else c == 'e' || c == 'E'
      c :: run hex mark rest
    else if afterMark && (c == '+' || c == '-') then c :: run hex false rest
    else []

/-- Whether a run has at least one digit, and underscores only between digits. -/
def digitsOnly (isDigit : Char → Bool) (afterDigit : Bool) : List Char → Bool
  | [] => afterDigit
  | '_' :: rest => afterDigit && digitsOnly isDigit false rest
  | c :: rest => isDigit c && digitsOnly isDigit true rest

/-- Digits that follow the mark of a base. -/
def digitsAfterBase (isDigit : Char → Bool) : List Char → Bool
  | '_' :: rest => digitsOnly isDigit false rest
  | cs => digitsOnly isDigit false cs

/-- The parts before and after the first character that satisfies `p`. -/
def splitAtMark (p : Char → Bool) (cs : List Char) : List Char × Option (List Char) :=
  match cs.dropWhile fun c => !p c with
  | [] => (cs, none)
  | _ :: rest => (cs.takeWhile fun c => !p c, some rest)

/-- Whether a run is the digits of an exponent with an optional sign. -/
def isExponent : List Char → Bool
  | '+' :: rest => digitsOnly Char.isDigit false rest
  | '-' :: rest => digitsOnly Char.isDigit false rest
  | cs => digitsOnly Char.isDigit false cs

/-- Whether two runs around a point are a mantissa: one of them may be empty. -/
def isMantissa (isDigit : Char → Bool) (based : Bool) (whole frac : List Char) : Bool :=
  let first := if based then digitsAfterBase isDigit else digitsOnly isDigit false
  match whole, frac with
  | [], [] => false
  | [], f => digitsOnly isDigit false f
  | w, [] => first w
  | w, f => first w && digitsOnly isDigit false f

/-- Whether a run is a decimal floating-point number. -/
def isDecimalFloat (cs : List Char) : Bool :=
  let (mantissa, power) := splitAtMark (fun c => c == 'e' || c == 'E') cs
  let (whole, frac) := splitAtMark (· == '.') mantissa
  (power.isSome || frac.isSome) && isMantissa Char.isDigit false whole (frac.getD []) &&
    power.all isExponent

/-- Whether what follows `0x` is a hexadecimal floating-point number: it has an exponent. -/
def isHexFloat (cs : List Char) : Bool :=
  let (mantissa, power) := splitAtMark (fun c => c == 'p' || c == 'P') cs
  let (whole, frac) := splitAtMark (· == '.') mantissa
  power.any isExponent && isMantissa isHex true whole (frac.getD [])

/-- Whether a character is an octal digit. -/
def isOctal (c : Char) : Bool := '0' ≤ c && c ≤ '7'

/-- Whether a character is a binary digit. -/
def isBinary (c : Char) : Bool := c == '0' || c == '1'

/-- The class of a literal without the mark of an imaginary number; `decimal` says whether a run of
digits that starts with zero is read in base ten. -/
def real? (decimal : Bool) (cs : List Char) : Option Shape :=
  match cs with
  | '0' :: b :: rest =>
    if b == 'x' || b == 'X' then
      if digitsAfterBase isHex rest then some .int
      else if isHexFloat rest then some .float
      else none
    else if b == 'b' || b == 'B' then if digitsAfterBase isBinary rest then some .int else none
    else if b == 'o' || b == 'O' then if digitsAfterBase isOctal rest then some .int else none
    else if digitsOnly (if decimal then Char.isDigit else isOctal) false cs then some .int
    else if isDecimalFloat cs then some .float
    else none
  | _ =>
    if digitsOnly Char.isDigit false cs then some .int
    else if isDecimalFloat cs then some .float
    else none

/-- The class of a run. -/
def classify? (cs : List Char) : Option Shape :=
  match cs.getLast? with
  | some 'i' => (real? true cs.dropLast).map fun _ => .imaginary
  | _ => real? false cs

end GoMeter.Go.Numeral
