import GoMeter.Data.Value
import GoMeter.Number.Decimal

/-!
# Writing JSON

Text is written in ASCII: a character outside it is written by its UTF-16 units. There are two
layouts: everything on one line without blanks, or one item a line with two blanks of indentation
for each level.

* `Json.quote`: a text as a JSON string.
* `Json.compact`, `Json.indented`: a value in the two layouts.
-/

namespace GoMeter.Json

/-- A hexadecimal digit. -/
def hexDigit (n : Nat) : Char :=
  if n < 10 then Char.ofNat ('0'.toNat + n) else Char.ofNat ('a'.toNat + (n - 10))

/-- Four hexadecimal digits. -/
def hex4 (n : Nat) : List Char :=
  [hexDigit (n / 4096 % 16), hexDigit (n / 256 % 16), hexDigit (n / 16 % 16), hexDigit (n % 16)]

/-- The escape of one UTF-16 unit. -/
def escapeUnit (n : Nat) : List Char := '\\' :: 'u' :: hex4 n

/-- A character inside a JSON string. -/
def escape (c : Char) : List Char :=
  match c with
  | '"' => ['\\', '"']
  | '\\' => ['\\', '\\']
  | '\n' => ['\\', 'n']
  | '\r' => ['\\', 'r']
  | '\t' => ['\\', 't']
  | '\x08' => ['\\', 'b']
  | '\x0c' => ['\\', 'f']
  | c =>
    let n := c.toNat
    if 0x20 ≤ n ∧ n ≤ 0x7e then [c]
    else if n < 0x10000 then escapeUnit n
    else
      escapeUnit (0xd800 + (n - 0x10000) / 0x400) ++ escapeUnit (0xdc00 + (n - 0x10000) % 0x400)

/-- A text as a JSON string. -/
def quote (s : List Char) : List Char := '"' :: s.flatMap escape ++ ['"']

/-- How items are set apart. -/
structure Layout where
  /-- Between a key and its value. -/
  colon : List Char
  /-- Before the first item of a list or mapping, between two items, and after the last, at a level. -/
  line : Nat → List Char

/-- Everything on one line. -/
def Layout.oneLine : Layout := ⟨[':'], fun _ => []⟩

/-- One item a line, two blanks a level. -/
def Layout.twoBlanks : Layout := ⟨[':', ' '], fun level => '\n' :: List.replicate (2 * level) ' '⟩

/-- A number in the notation of the format. Numbers that are no integers are not part of any report;
they are written by their exact mantissa and exponent. -/
def number : Binary64 → List Char
  | .finite negative mantissa exponent =>
    let (digits, power) := Binary64.shortest mantissa exponent
    (if negative then ['-'] else []) ++
      (if mantissa = 0 then ['0', '.', '0']
       else Decimal.digits digits ++ 'e' :: Decimal.chars power)
  | .infinite negative => (if negative then "-Infinity" else "Infinity").toList
  | .nan => "NaN".toList

/-- The text of a key. -/
def key : Value → List Char
  | .text s => s.toList
  | .int n => Decimal.chars n
  | .bool b => (if b then "true" else "false").toList
  | _ => "null".toList

mutual

/-- A value at a level. -/
def write (layout : Layout) (level : Nat) : Value → List Char
  | .null => "null".toList
  | .bool b => (if b then "true" else "false").toList
  | .int n => Decimal.chars n
  | .float x => number x
  | .text s => quote s.toList
  | .stamp s => quote s.plain
  | .list [] => ['[', ']']
  | .list (v :: vs) =>
    '[' :: layout.line (level + 1) ++ write layout (level + 1) v ++ writeItems layout (level + 1) vs
      ++ layout.line level ++ [']']
  | .map [] => ['{', '}']
  | .map ((k, v) :: entries) =>
    '{' :: layout.line (level + 1) ++ quote (key k) ++ layout.colon ++ write layout (level + 1) v
      ++ writeEntries layout (level + 1) entries ++ layout.line level ++ ['}']

/-- The items after the first. -/
def writeItems (layout : Layout) (level : Nat) : List Value → List Char
  | [] => []
  | v :: vs => ',' :: layout.line level ++ write layout level v ++ writeItems layout level vs

/-- The entries after the first. -/
def writeEntries (layout : Layout) (level : Nat) : List (Value × Value) → List Char
  | [] => []
  | (k, v) :: entries =>
    ',' :: layout.line level ++ quote (key k) ++ layout.colon ++ write layout level v
      ++ writeEntries layout level entries

end

/-- A value on one line. -/
def compact (v : Value) : String := String.ofList (write .oneLine 0 v)

/-- A value with one item a line. -/
def indented (v : Value) : String := String.ofList (write .twoBlanks 0 v)

end GoMeter.Json
