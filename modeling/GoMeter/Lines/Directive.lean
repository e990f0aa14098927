/-!
# Line directives

Generated files carry comments `//line file:N` and `/*line file:N:C*/` that restart line numbering.
This module reads the line that such a comment names. What follows the prefix is split at its last
colon; what stands before that colon may end in a line number of its own, and then the last number
is a column.

* `Directive.named?`: the line that a comment names, nothing if it is no directive, or the fault that
  makes it malformed.
-/

namespace GoMeter.Directive

/-- The two ways a line directive starts. Both are seven characters long. -/
def openings : List String := ["//line ", "/*line "]

/-- The greatest line or column a directive may name. -/
def limit : Nat := Nat.pow 2 30

/-- The greatest number of digits that is read as a number. -/
def digitLimit : Nat := 4300

/-- What makes a directive malformed. -/
inductive Fault where
  /-- The line is not a number, or a number out of range; the text is as the directive has it. -/
  | line (shown : String)
  /-- The column is out of range. -/
  | column (value : Nat)
  /-- A number has more digits than are read. -/
  | tooLong (digits : Nat)
  deriving DecidableEq, Repr

/-- The wording of a fault. -/
def Fault.message : Fault → String
  | .line shown => "invalid line number: " ++ shown
  | .column value => "invalid column number: " ++ toString value
  | .tooLong digits =>
    "Exceeds the limit (" ++ toString digitLimit ++ " digits) for integer string conversion: value has "
      ++ toString digits ++ " digits; use sys.set_int_max_str_digits() to increase the limit"

/-- What stands before and after the last colon. -/
def splitLastColon? (cs : List Char) : Option (List Char × List Char) :=
  if ':' ∈ cs then
    let after := (cs.reverse.takeWhile (· != ':')).reverse
    some (cs.take (cs.length - after.length - 1), after)
  else none

/-- Whether a text is a non-empty run of the digits 0 to 9. -/
def isNumber (cs : List Char) : Bool := !cs.isEmpty && cs.all Char.isDigit

/-- The value of a run of digits. -/
def value (cs : List Char) : Nat :=
  cs.foldl (fun n c => n * 10 + (c.toNat - '0'.toNat)) 0

/-- The value of a run of digits that is not too long. -/
def number (cs : List Char) : Except Fault Nat :=
  if cs.length ≤ digitLimit then .ok (value cs) else .error (.tooLong cs.length)

/-- A line number, which lies between one and the limit. -/
def checkLine (n : Nat) : Except Fault Nat :=
  if n = 0 ∨ limit < n then .error (.line (toString n)) else .ok n

/-- A column number, which lies between one and the limit. -/
def checkColumn (n : Nat) : Except Fault Nat :=
  if n = 0 ∨ limit < n then .error (.column n) else .ok n

/-- The number that `cs` ends in after a colon, if it does. -/
def trailing? (cs : List Char) : Except Fault (Option Nat) :=
  match splitLastColon? cs with
  | some (_, digits) => if isNumber digits then some <$> number digits else .ok none
  | none => .ok none

/-- The line named by what follows the opening of a directive. -/
def target? (cs : List Char) : Except Fault (Option Nat) :=
  match splitLastColon? cs with
  | none => .ok none
  | some (before, digits) =>
    if isNumber digits then do
      let last ← number digits
      match ← trailing? before with
      | some line =>
        let _ ← checkColumn last
        some <$> checkLine line
      | none => some <$> checkLine last
    else .error (.line (String.ofList digits))

/-- Whether a comment starts like a line directive. -/
def isOpened (cs : List Char) : Bool :=
  openings.any fun o => o.toList.isPrefixOf cs

/-- What follows the opening, without the two characters that close a block comment. -/
def payload (cs : List Char) : List Char :=
  (if "/*".toList.isPrefixOf cs then cs.dropLast.dropLast else cs).drop 7

/-- The line that a comment names, or nothing if the comment is no line directive. -/
def named? (text : String) : Except Fault (Option Nat) :=
  if isOpened text.toList then target? (payload text.toList) else .ok none

end GoMeter.Directive
