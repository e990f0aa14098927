/-!
# Decimal numerals

* `Decimal.digits`, `Decimal.value`: a natural number in base ten and back.
* `Decimal.text`: an integer in base ten.
-/

namespace GoMeter.Decimal

/-- The digit for a number below ten. -/
def digitChar (d : Nat) : Char := Char.ofNat ('0'.toNat + d)

/-- The number that a digit stands for. -/
def digitValue (c : Char) : Nat := c.toNat - '0'.toNat

/-- The digits of a number, the last of them in front of `rest`. -/
def digitsBefore (n : Nat) (rest : List Char) : List Char :=
  if n < 10 then digitChar n :: rest
  else digitsBefore (n / 10) (digitChar (n % 10) :: rest)
termination_by n
decreasing_by omega

/-- The digits of a number, without leading zeros. -/
def digits (n : Nat) : List Char := digitsBefore n []

/-- The number that a run of digits spells. -/
def value (cs : List Char) : Nat := cs.foldl (fun n c => n * 10 + digitValue c) 0

/-- The characters of an integer in base ten. -/
def chars (n : Int) : List Char :=
  if n < 0 then '-' :: digits n.natAbs else digits n.natAbs

/-- An integer in base ten. -/
def text (n : Int) : String := String.ofList (chars n)

end GoMeter.Decimal
