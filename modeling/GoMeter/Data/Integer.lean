import GoMeter.Data.Display
import GoMeter.Text.Blank
import GoMeter.Text.DecimalDigit

/-!
# Values as integers

A truth value is one or zero, a number is cut to its integer part, and a text is read as a numeral:
blanks around it, a sign, and decimal digits of any script with single underscores between them. There
is a greatest number of digits, for numerals that are read and for those that are written.

* `readInteger`: the integer of a text.
* `Value.toInteger`: the integer of a value, or why it has none.
* `Value.isWritable`: whether the integers in a value can be written.
-/

namespace GoMeter

/-- Why a value is no integer, or an integer has no text. -/
inductive IntegerFault where
  /-- The text is no numeral. -/
  | notNumeral (text : String)
  /-- The numeral has too many digits. -/
  | tooManyDigits (count : Nat)
  /-- The number is none. -/
  | nan
  /-- The number is not finite. -/
  | infinite
  /-- A value of this type has no integer. -/
  | wrongType (type : String)
  /-- The integer has too many digits to be written. -/
  | tooLong
  deriving DecidableEq, Repr

/-- The greatest number of digits of a numeral. -/
def numeralLimit : Nat := 4300

/-- The values of the digits of a run of digits with single underscores between them. -/
def digitValues? : List Char → Option (List Nat)
  | [] => some []
  | '_' :: c :: rest =>
    match Text.digitValue? c, digitValues? rest with
    | some d, some ds => some (d :: ds)
    | _, _ => none
  | c :: rest =>
    match Text.digitValue? c, digitValues? rest with
    | some d, some ds => some (d :: ds)
    | _, _ => none

/-- The sign of a numeral and what follows it. -/
def signOf : List Char → Bool × List Char
  | '-' :: rest => (true, rest)
  | '+' :: rest => (false, rest)
  | cs => (false, cs)

/-- Whether a character may stand around a numeral: a blank, but no separator of ASCII. -/
def isNumeralBlank (c : Char) : Bool := Text.isBlank c && !(0x1C ≤ c.toNat && c.toNat ≤ 0x1F)

/-- The integer of a text. -/
def readInteger (s : String) : Except IntegerFault Int :=
  let (negative, body) := signOf (Text.trimChars isNumeralBlank s.toList)
  let digits := match body with
    | [] | '_' :: _ => none
    | cs => digitValues? cs
  match digits with
  | none => .error (.notNumeral s)
  | some ds =>
    if numeralLimit < ds.length then .error (.tooManyDigits ds.length)
    else
      let n : Nat := ds.foldl (fun n d => n * 10 + d) 0
      .ok (if negative then -(n : Int) else n)

namespace Value

/-- The name of a value's type in messages. -/
def typeName : Value → String
  | .null => "NoneType"
  | .bool _ => "bool"
  | .int _ => "int"
  | .float _ => "float"
  | .text _ => "str"
  | .stamp s => s.typeName
  | .list _ => "list"
  | .map _ => "dict"

/-- The integer of a value. -/
def toInteger : Value → Except IntegerFault Int
  | .int n => .ok n
  | .bool b => .ok (if b then 1 else 0)
  | .text s => readInteger s
  | .float .nan => .error .nan
  | .float (.infinite _) => .error .infinite
  | .float x => .ok (x.truncate?.getD 0)
  | v => .error (.wrongType v.typeName)

/-- Whether a value counts as true. -/
def isTruthy : Value → Bool
  | .null => false
  | .bool b => b
  | .int n => n != 0
  | .float x => !x.isZero
  | .text s => s != ""
  | .stamp _ => true
  | .list items => !items.isEmpty
  | .map entries => !entries.isEmpty

mutual

/-- Whether every integer in a value is short enough to be written. -/
def isWritable : Value → Bool
  | .int n => n.natAbs < Nat.pow 10 numeralLimit
  | .list items => areWritable items
  | .map entries => entriesAreWritable entries
  | _ => true

/-- Whether every integer in some values is short enough to be written. -/
def areWritable : List Value → Bool
  | [] => true
  | v :: rest => isWritable v && areWritable rest

/-- Whether every integer in some entries is short enough to be written. -/
def entriesAreWritable : List (Value × Value) → Bool
  | [] => true
  | (k, v) :: rest => isWritable k && isWritable v && entriesAreWritable rest

end

end Value

/-- The number of characters of a text that a message shows. -/
def shownLimit : Nat := 200

/-- The wording of a fault. -/
def IntegerFault.message : IntegerFault → String
  | .notNumeral s =>
    "invalid literal for int() with base 10: " ++
      String.ofList ((Text.quoted s.toList).take shownLimit)
  | .tooManyDigits count =>
    "Exceeds the limit (" ++ Decimal.text numeralLimit ++
      " digits) for integer string conversion: value has " ++ Decimal.text count ++
      " digits; use sys.set_int_max_str_digits() to increase the limit"
  | .nan => "cannot convert float NaN to integer"
  | .infinite => "cannot convert float infinity to integer"
  | .wrongType type =>
    "int() argument must be a string, a bytes-like object or a real number, not '" ++ type ++ "'"
  | .tooLong =>
    "Exceeds the limit (" ++ Decimal.text numeralLimit ++
      " digits) for integer string conversion; use sys.set_int_max_str_digits() to increase the limit"

end GoMeter
