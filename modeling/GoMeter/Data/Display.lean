import GoMeter.Data.Value
import GoMeter.Number.Decimal
import GoMeter.Text.Quoted

/-!
# Values as text

A value has a text of its own and a text inside a list; the two differ for text, which is quoted in
the second, and for dates.

* `Binary64.show`: a number by the fewest digits that read back; positional from `10 ^ -4` up to
  `10 ^ 16`, and with a point.
* `Value.plain`, `Value.shown`: the two texts of a value.
-/

namespace GoMeter

/-- A number with its digits around a point. `count` digits stand for `0.ddd * 10 ^ place`. -/
def positional (digits : List Char) (place : Int) : List Char :=
  if place ≤ 0 then '0' :: '.' :: List.replicate (-place).toNat '0' ++ digits
  else if place < digits.length then
    digits.take place.toNat ++ '.' :: digits.drop place.toNat
  else digits ++ List.replicate (place.toNat - digits.length) '0' ++ ['.', '0']

/-- A number with one digit before the point and an exponent of at least two digits. -/
def scientific (digits : List Char) (place : Int) : List Char :=
  let power := place - 1
  let exponent := Decimal.digits power.natAbs
  digits.take 1 ++ (if 1 < digits.length then '.' :: digits.drop 1 else []) ++
    'e' :: (if power < 0 then '-' else '+') :: List.replicate (2 - exponent.length) '0' ++ exponent

/-- The text of a number. -/
def Binary64.show : Binary64 → List Char
  | .nan => "nan".toList
  | .infinite negative => (if negative then "-inf" else "inf").toList
  | .finite negative mantissa exponent =>
    let body :=
      if mantissa = 0 then "0.0".toList
      else
        let (d, power) := Binary64.shortest mantissa exponent
        let digits := Decimal.digits d
        let place : Int := digits.length + power
        if -4 < place ∧ place ≤ 16 then positional digits place else scientific digits place
    if negative then '-' :: body else body

namespace Value

/-- Items with a comma and a blank between them. -/
def joinItems : List (List Char) → List Char
  | [] => []
  | [a] => a
  | a :: rest => a ++ ',' :: ' ' :: joinItems rest

mutual

/-- The text of a value inside a list. -/
def shown : Value → List Char
  | .null => "None".toList
  | .bool b => (if b then "True" else "False").toList
  | .int n => Decimal.chars n
  | .float x => x.show
  | .text s => Text.quoted s.toList
  | .stamp s => s.shown
  | .list items => '[' :: joinItems (shownItems items) ++ [']']
  | .map entries => '{' :: joinItems (shownEntries entries) ++ ['}']

/-- The texts of the items of a list. -/
def shownItems : List Value → List (List Char)
  | [] => []
  | v :: rest => shown v :: shownItems rest

/-- The texts of the entries of a mapping. -/
def shownEntries : List (Value × Value) → List (List Char)
  | [] => []
  | (k, v) :: rest => (shown k ++ ':' :: ' ' :: shown v) :: shownEntries rest

end

/-- The text of a value on its own. -/
def plain : Value → List Char
  | .text s => s.toList
  | .stamp s => s.plain
  | v => v.shown

end Value

end GoMeter
