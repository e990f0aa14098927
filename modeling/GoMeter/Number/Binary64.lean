/-!
# Double-precision numbers, exactly

A number of the binary64 format is kept as integers: a mantissa below `2 ^ 53` times a power of two.
Reading and arithmetic go through exact ratios, rounded once to the nearest number of the format,
a half to the even mantissa.

* `Binary64.ofRatio`: the number nearest to a ratio.
* `Binary64.ofDecimal`: the number nearest to a decimal.
* `Binary64.truncate?`: the integer part.
* `Binary64.add`, `Binary64.mul`: rounded sums and products.
* `Binary64.shortest`: the fewest decimal digits that read back as the number.
-/

namespace GoMeter

/-- A number of the binary64 format. A finite number is `± mantissa * 2 ^ exponent`. -/
inductive Binary64 where
  | finite (negative : Bool) (mantissa : Nat) (exponent : Int)
  | infinite (negative : Bool)
  | nan
  deriving DecidableEq, Repr, Inhabited

namespace Binary64

/-- A quotient rounded to the nearest integer, a half to the even one. -/
def roundDiv (num den : Nat) : Nat :=
  let quotient := num / den
  let twice := 2 * (num % den)
  if twice < den then quotient
  else if den < twice then quotient + 1
  else quotient + quotient % 2

/-- The exponent of the smallest numbers. -/
def minExponent : Int := -1074

/-- The exponent of the greatest numbers. -/
def maxExponent : Int := 971

/-- Zero with a sign. -/
def zero (negative : Bool) : Binary64 := .finite negative 0 minExponent

/-- Whether `2 ^ e ≤ num / den`. -/
def atLeastPow2 (num den : Nat) (e : Int) : Bool :=
  if 0 ≤ e then den * Nat.pow 2 e.toNat ≤ num else den ≤ num * Nat.pow 2 (-e).toNat

/-- `num / den / 2 ^ e`, rounded. -/
def scaled (num den : Nat) (e : Int) : Nat :=
  if 0 ≤ e then roundDiv num (den * Nat.pow 2 e.toNat)
  else roundDiv (num * Nat.pow 2 (-e).toNat) den

/-- The number nearest to `± num / den`. -/
def ofRatio (negative : Bool) (num den : Nat) : Binary64 :=
  if num = 0 then zero negative
  else
    let top : Int := (num.log2 : Int) - (den.log2 : Int)
    let exact := if atLeastPow2 num den top then top - 52 else top - 53
    let exponent := max exact minExponent
    let mantissa := scaled num den exponent
    let (mantissa, exponent) :=
      if mantissa = Nat.pow 2 53 then (Nat.pow 2 52, exponent + 1) else (mantissa, exponent)
    if maxExponent < exponent then .infinite negative else .finite negative mantissa exponent

/-- The number nearest to `± digits * 10 ^ exponent`. Beyond `10 ^ 310` every decimal rounds to
infinity and below `10 ^ -330` every one rounds to zero, so no greater power is worked out;
`length` is the number of digits. -/
def ofDecimal (negative : Bool) (digits length : Nat) (exponent : Int) : Binary64 :=
  if digits = 0 then zero negative
  else if 310 + length < exponent then .infinite negative
  else if exponent + length < -330 then zero negative
  else if 0 ≤ exponent then ofRatio negative (digits * Nat.pow 10 exponent.toNat) 1
  else ofRatio negative digits (Nat.pow 10 (-exponent).toNat)

/-- The integer with the same absolute value as the integer part of a finite number. -/
def magnitude (mantissa : Nat) (exponent : Int) : Nat :=
  if 0 ≤ exponent then mantissa * Nat.pow 2 exponent.toNat
  else mantissa / Nat.pow 2 (-exponent).toNat

/-- The integer part of a finite number. -/
def truncate? : Binary64 → Option Int
  | .finite negative mantissa exponent =>
    let n : Int := magnitude mantissa exponent
    some (if negative then -n else n)
  | _ => none

/-- Whether a number is zero, of either sign. -/
def isZero : Binary64 → Bool
  | .finite _ mantissa _ => mantissa == 0
  | _ => false

/-- The numerator and the denominator of `mantissa * 2 ^ exponent`. -/
def ratio (mantissa : Nat) (exponent : Int) : Nat × Nat :=
  if 0 ≤ exponent then (mantissa * Nat.pow 2 exponent.toNat, 1)
  else (mantissa, Nat.pow 2 (-exponent).toNat)

/-- The other sign. -/
def neg : Binary64 → Binary64
  | .finite negative mantissa exponent => .finite (!negative) mantissa exponent
  | .infinite negative => .infinite (!negative)
  | .nan => .nan

/-- The rounded product of a number that is not negative and a natural number. -/
def scale (x : Binary64) (n : Nat) : Binary64 :=
  match x with
  | .finite negative mantissa exponent =>
    let (num, den) := ratio mantissa exponent
    ofRatio negative (num * n) den
  | .infinite negative => if n = 0 then .nan else .infinite negative
  | .nan => .nan

/-- The rounded sum of two numbers that are not negative. -/
def add (x y : Binary64) : Binary64 :=
  match x, y with
  | .finite _ m e, .finite _ m' e' =>
    let (num, den) := ratio m e
    let (num', den') := ratio m' e'
    ofRatio false (num * den' + num' * den) (den * den')
  | .nan, _ | _, .nan => .nan
  | _, _ => .infinite false

/-- Whether `10 ^ p ≤ num / den`. -/
def atLeastPow10 (num den : Nat) (p : Int) : Bool :=
  if 0 ≤ p then den * Nat.pow 10 p.toNat ≤ num else den ≤ num * Nat.pow 10 (-p).toNat

/-- The greatest `p` with `10 ^ p ≤ mantissa * 2 ^ exponent`, for a mantissa other than zero. -/
def log10 (mantissa : Nat) (exponent : Int) : Int :=
  let (num, den) := ratio mantissa exponent
  let guess := Int.fdiv (((mantissa.log2 : Int) + exponent) * 30103) 100000
  if atLeastPow10 num den (guess + 1) then guess + 1
  else if atLeastPow10 num den guess then guess
  else guess - 1

/-- A number together with the ends of the interval of reals that round to it, all multiplied by one
factor. The ends belong to the interval if the mantissa is even. -/
structure Interval where
  low : Nat
  centre : Nat
  high : Nat
  unit : Nat
  closed : Bool

/-- The interval of a finite number other than zero. Below a power of two the numbers lie closer. -/
def interval (mantissa : Nat) (exponent : Int) : Interval :=
  let below := if mantissa = Nat.pow 2 52 ∧ minExponent < exponent then 1 else 2
  let (factor, unit) := ratio 1 (exponent - 2)
  ⟨(4 * mantissa - below) * factor, 4 * mantissa * factor, (4 * mantissa + 2) * factor, unit,
    mantissa % 2 == 0⟩

/-- The interval in units of `10 ^ s`. -/
def Interval.inUnits (i : Interval) (s : Int) : Interval :=
  if 0 ≤ s then { i with unit := i.unit * Nat.pow 10 s.toNat }
  else
    let f := Nat.pow 10 (-s).toNat
    { i with low := i.low * f, centre := i.centre * f, high := i.high * f }

/-- Whether `n` units lie in the interval. -/
def Interval.has (i : Interval) (n : Nat) : Bool :=
  if i.closed then i.low ≤ n * i.unit && n * i.unit ≤ i.high
  else i.low < n * i.unit && n * i.unit < i.high

/-- The number of units nearest to the centre that lies in the interval, a tie going to the even
one. -/
def Interval.nearest? (i : Interval) : Option Nat :=
  let down := i.centre / i.unit
  match i.has down, i.has (down + 1) with
  | false, false => none
  | true, false => some down
  | false, true => some (down + 1)
  | true, true => some (roundDiv i.centre i.unit)

/-- Removes the zeros that a number ends in, and counts them; at most `fuel` of them. -/
def dropZeros : Nat → Nat → Int → Nat × Int
  | 0, n, e => (n, e)
  | fuel + 1, n, e => if n % 10 = 0 then dropZeros fuel (n / 10) (e + 1) else (n, e)

/-- The fewest decimal digits that read back as a finite number other than zero, and the power of ten
they are multiplied by. Seventeen digits always suffice. -/
def shortest (mantissa : Nat) (exponent : Int) : Nat × Int :=
  let p := log10 mantissa exponent
  let i := interval mantissa exponent
  let found := (List.range 17).findSome? fun (n : Nat) =>
    let s := p - (n : Int)
    ((i.inUnits s).nearest?).map fun d => (d, s)
  let (d, s) := found.getD (i.centre / i.unit, 0)
  dropZeros 20 d s

end Binary64

end GoMeter
