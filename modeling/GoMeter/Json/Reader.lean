import GoMeter.Data.Value
import GoMeter.Number.Decimal

/-!
# Reading JSON

Besides the standard grammar `NaN`, `Infinity` and `-Infinity` are numbers. A number with a fraction
or an exponent is read as a binary64 number, any other as an integer of any size up to a limit on
its digits. Of several entries with one key the last counts, in the place of the first.

* `Json.read`: the value of a text, or why there is none.
-/

namespace GoMeter.Json

/-- Why a text has no value. -/
inductive ReadError where
  /-- The text is not JSON. -/
  | malformed
  /-- An integer has more digits than are read. -/
  | tooManyDigits (count : Nat)
  deriving DecidableEq, Repr

/-- The greatest number of digits of an integer. -/
def digitLimit : Nat := 4300

/-- The rest of a text after blanks. -/
def skipBlanks (cs : List Char) : List Char :=
  cs.dropWhile fun c => c == ' ' || c == '\t' || c == '\n' || c == '\r'

/-- The value of a hexadecimal digit. -/
def hexValue? (c : Char) : Option Nat :=
  if c.isDigit then some (c.toNat - '0'.toNat)
  else if 'a' ≤ c ∧ c ≤ 'f' then some (c.toNat - 'a'.toNat + 10)
  else if 'A' ≤ c ∧ c ≤ 'F' then some (c.toNat - 'A'.toNat + 10)
  else none

/-- Four hexadecimal digits at the head of a text. -/
def hex4? : List Char → Option (Nat × List Char)
  | a :: b :: c :: d :: rest =>
    match hexValue? a, hexValue? b, hexValue? c, hexValue? d with
    | some a, some b, some c, some d => some (a * 4096 + b * 256 + c * 16 + d, rest)
    | _, _, _, _ => none
  | _ => none

/-- The character of a UTF-16 unit that stands alone; half of a pair stands for no character. -/
def loneUnit (n : Nat) : Char :=
  if 0xd800 ≤ n ∧ n < 0xe000 then Char.ofNat 0xfffd else Char.ofNat n

/-- The character of an escape that starts after `\u`, and the rest. Two units that form a pair are
one character. -/
def unicodeEscape? (cs : List Char) : Option (Char × List Char) :=
  match hex4? cs with
  | none => none
  | some (high, rest) =>
    if 0xd800 ≤ high ∧ high < 0xdc00 then
      match rest with
      | '\\' :: 'u' :: after =>
        match hex4? after with
        | some (low, rest') =>
          if 0xdc00 ≤ low ∧ low < 0xe000 then
            some (Char.ofNat (0x10000 + (high - 0xd800) * 0x400 + (low - 0xdc00)), rest')
          else some (loneUnit high, rest)
        | none => some (loneUnit high, rest)
      | _ => some (loneUnit high, rest)
    else some (loneUnit high, rest)

/-- The character of a one-letter escape. -/
def simpleEscape? : Char → Option Char
  | '"' => some '"'
  | '\\' => some '\\'
  | '/' => some '/'
  | 'b' => some '\x08'
  | 'f' => some '\x0c'
  | 'n' => some '\n'
  | 'r' => some '\r'
  | 't' => some '\t'
  | _ => none

/-- The rest of a string up to its closing quote, in at most `fuel` characters. -/
def stringRest : Nat → List Char → Option (List Char × List Char)
  | 0, _ => none
  | fuel + 1, cs =>
    match cs with
    | '"' :: rest => some ([], rest)
    | '\\' :: 'u' :: rest =>
      match unicodeEscape? rest with
      | some (c, rest) => (stringRest fuel rest).map fun (s, r) => (c :: s, r)
      | none => none
    | '\\' :: e :: rest =>
      match simpleEscape? e with
      | some c => (stringRest fuel rest).map fun (s, r) => (c :: s, r)
      | none => none
    | c :: rest =>
      if c.toNat < 0x20 ∨ c = '\\' then none
      else (stringRest fuel rest).map fun (s, r) => (c :: s, r)
    | [] => none

/-- A string after its opening quote. -/
def string? (cs : List Char) : Option (List Char × List Char) := stringRest (cs.length + 1) cs

/-- The digits at the head of a text, and the rest. -/
def takeDigits (cs : List Char) : List Char × List Char :=
  (cs.takeWhile Char.isDigit, cs.dropWhile Char.isDigit)

/-- The digits of a fraction at the head of a text; a point without digits is not taken. -/
def fraction (cs : List Char) : List Char × List Char :=
  match cs with
  | '.' :: rest =>
    match takeDigits rest with
    | ([], _) => ([], cs)
    | (ds, rest) => (ds, rest)
  | _ => ([], cs)

/-- The exponent at the head of a text, if there is one. -/
def exponent (cs : List Char) : Option Int × List Char :=
  match cs with
  | e :: rest =>
    if e = 'e' ∨ e = 'E' then
      let (negative, digits) := match rest with
        | '-' :: r => (true, r)
        | '+' :: r => (false, r)
        | r => (false, r)
      match takeDigits digits with
      | ([], _) => (none, cs)
      | (ds, rest) =>
        let n : Int := Decimal.value ds
        (some (if negative then -n else n), rest)
    else (none, cs)
  | [] => (none, cs)

/-- The integer digits at the head of a text: a zero alone, or digits that start with another. -/
def wholePart? (cs : List Char) : Option (List Char × List Char) :=
  match cs with
  | '0' :: rest => some (['0'], rest)
  | _ =>
    match takeDigits cs with
    | ([], _) => none
    | (ds, rest) => some (ds, rest)

/-- A number after its sign. -/
def numberRest (negative : Bool) (cs : List Char) : Except ReadError (Value × List Char) :=
  match wholePart? cs with
  | none => .error .malformed
  | some (whole, rest) =>
    let (frac, rest) := fraction rest
    let (power, rest) := exponent rest
    if frac.isEmpty && power.isNone then
      if digitLimit < whole.length then .error (.tooManyDigits whole.length)
      else
        let n : Int := Decimal.value whole
        .ok (.int (if negative then -n else n), rest)
    else
      let digits := whole ++ frac
      .ok (.float (Binary64.ofDecimal negative (Decimal.value digits) digits.length
        (power.getD 0 - (frac.length : Int))), rest)

/-- The words that are values. -/
def words : List (String × Value) :=
  [("null", .null), ("true", .bool true), ("false", .bool false), ("NaN", .float .nan),
   ("Infinity", .float (.infinite false)), ("-Infinity", .float (.infinite true))]

/-- A word at the head of a text. -/
def word? (cs : List Char) : Option (Value × List Char) :=
  words.findSome? fun (w, v) =>
    if w.toList.isPrefixOf cs then some (v, cs.drop w.length) else none

/-- Adds an entry to those of a mapping: a key that is there keeps its place and gets the new value. -/
def addEntry (k : String) (v : Value) : List (Value × Value) → List (Value × Value)
  | [] => [(.text k, v)]
  | (.text k', v') :: rest =>
    if k' = k then (.text k', v) :: rest else (.text k', v') :: addEntry k v rest
  | e :: rest => e :: addEntry k v rest

/-- A scalar at the head of a text. -/
def scalar (cs : List Char) : Except ReadError (Value × List Char) :=
  match cs with
  | '"' :: rest =>
    match string? rest with
    | some (s, rest) => .ok (.text (String.ofList s), rest)
    | none => .error .malformed
  | _ =>
    match word? cs with
    | some r => .ok r
    | none =>
      match cs with
      | '-' :: rest => numberRest true rest
      | _ => numberRest false cs

mutual

/-- The value at the head of a text, with at most `fuel` steps. -/
def value : Nat → List Char → Except ReadError (Value × List Char)
  | 0, _ => .error .malformed
  | fuel + 1, cs =>
    match cs with
    | '[' :: rest =>
      match skipBlanks rest with
      | ']' :: rest => .ok (.list [], rest)
      | rest => items fuel [] rest
    | '{' :: rest =>
      match skipBlanks rest with
      | '}' :: rest => .ok (.map [], rest)
      | rest => members fuel [] rest
    | _ => scalar cs

/-- The items of a list up to its closing bracket, after those in `done`. -/
def items : Nat → List Value → List Char → Except ReadError (Value × List Char)
  | 0, _, _ => .error .malformed
  | fuel + 1, done, cs =>
    match value fuel cs with
    | .error e => .error e
    | .ok (v, rest) =>
      match skipBlanks rest with
      | ',' :: rest => items fuel (v :: done) (skipBlanks rest)
      | ']' :: rest => .ok (.list (v :: done).reverse, rest)
      | _ => .error .malformed

/-- The entries of a mapping up to its closing brace, after those in `done`. -/
def members : Nat → List (Value × Value) → List Char → Except ReadError (Value × List Char)
  | 0, _, _ => .error .malformed
  | fuel + 1, done, cs =>
    match cs with
    | '"' :: rest =>
      match string? rest with
      | none => .error .malformed
      | some (k, rest) =>
        match skipBlanks rest with
        | ':' :: rest =>
          match value fuel (skipBlanks rest) with
          | .error e => .error e
          | .ok (v, rest) =>
            let done := addEntry (String.ofList k) v done
            match skipBlanks rest with
            | ',' :: rest => members fuel done (skipBlanks rest)
            | '}' :: rest => .ok (.map done, rest)
            | _ => .error .malformed
        | _ => .error .malformed
    | _ => .error .malformed

end

/-- The value of a text. A byte order mark is no part of the format. -/
def read (s : String) : Except ReadError Value :=
  let cs := s.toList
  match value (2 * cs.length + 2) (skipBlanks cs) with
  | .error e => .error e
  | .ok (v, rest) => if (skipBlanks rest).isEmpty then .ok v else .error .malformed

end GoMeter.Json
