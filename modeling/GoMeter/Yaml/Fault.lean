import GoMeter.Data.Integer

/-!
# Faults of YAML texts

Most faults are of one kind: the text is not YAML, or not one document of known values. A text can
also be well formed and hold a scalar without a value, such as a date that does not exist.
-/

namespace GoMeter.Yaml

/-- Why a text has no value. -/
inductive Fault where
  /-- The text is not a document of known values. -/
  | malformed
  /-- A numeral has no digits in its base. -/
  | notNumeral (base : Nat) (text : String)
  /-- A numeral is no integer. -/
  | notInteger (fault : IntegerFault)
  /-- A scalar that should be a number is none. -/
  | notNumber (text : String)
  /-- A scalar that should be a truth value is none. -/
  | notTruth (text : String)
  /-- A scalar that should be a date is none. -/
  | notStamp
  /-- A date does not exist. -/
  | noSuchDate (reason : String)
  /-- An escape names a code point that does not exist. -/
  | noSuchChar (code : Nat)
  deriving DecidableEq, Repr

/-- The wording of a fault. -/
def Fault.message : Fault → String
  | .malformed => "yaml error"
  | .notNumeral base text =>
    "invalid literal for int() with base " ++ Decimal.text base ++ ": " ++
      String.ofList (Text.quoted text.toList)
  | .notInteger fault => fault.message
  | .notNumber text => "could not convert string to float: " ++ String.ofList (Text.quoted text.toList)
  | .notTruth text => String.ofList (Text.quoted text.toList)
  | .notStamp => "'NoneType' object has no attribute 'groupdict'"
  | .noSuchDate reason => reason
  | .noSuchChar code =>
    if code < Nat.pow 2 31 then "chr() arg not in range(0x110000)"
    else "Python int too large to convert to C int"

end GoMeter.Yaml
