/-!
# UTF-8 text, well formed or not

Source bytes are read as UTF-8. A run of bytes that starts a character and cannot be completed is
read as one replacement character, and so is every byte that starts none, so reading never fails.

* `Utf8.first`: the character at the head of a byte list, and how many bytes it takes.
* `Utf8.glyphs`: every character with the offset of its first byte.
* `Utf8.decode`: the text of a byte list.
* `Utf8.decode?`: the text of a byte list that is well formed, and nothing otherwise.
-/

namespace GoMeter.Utf8

/-- The character that stands for bytes that spell none. -/
def replacement : Char := Char.ofNat 0xFFFD

/-- What a lead byte announces: how many continuation bytes follow, the range of the first of them,
and the bits the lead byte itself carries. -/
structure Lead where
  owed : Nat
  low : UInt8
  high : UInt8
  bits : Nat

/-- The announcement of a lead byte above `0x7F`. The first continuation byte is restricted so that
no character has two spellings, none is a surrogate and none lies beyond the last plane. -/
def lead? (b : UInt8) : Option Lead :=
  if b < 0xC2 then none
  else if b ≤ 0xDF then some ⟨1, 0x80, 0xBF, b.toNat - 0xC0⟩
  else if b = 0xE0 then some ⟨2, 0xA0, 0xBF, 0⟩
  else if b = 0xED then some ⟨2, 0x80, 0x9F, 0xD⟩
  else if b ≤ 0xEF then some ⟨2, 0x80, 0xBF, b.toNat - 0xE0⟩
  else if b = 0xF0 then some ⟨3, 0x90, 0xBF, 0⟩
  else if b = 0xF4 then some ⟨3, 0x80, 0x8F, 4⟩
  else if b ≤ 0xF3 then some ⟨3, 0x80, 0xBF, b.toNat - 0xF0⟩
  else none

/-- Reads `owed` continuation bytes, the first between `low` and `high`. Gives the value so far, how
many bytes were taken and whether none is missing. -/
def tails : Nat → UInt8 → UInt8 → Nat → Nat → List UInt8 → Nat × Nat × Bool
  | 0, _, _, value, taken, _ => (value, taken, true)
  | _ + 1, _, _, value, taken, [] => (value, taken, false)
  | owed + 1, low, high, value, taken, b :: rest =>
    if low ≤ b ∧ b ≤ high then
      tails owed 0x80 0xBF (value * 64 + (b.toNat - 0x80)) (taken + 1) rest
    else (value, taken, false)

/-- The character that a non-empty byte list starts with, or nothing if its first bytes spell none,
and how many bytes beyond the first belong to it. -/
def first (b : UInt8) (rest : List UInt8) : Option Char × Nat :=
  if b < 0x80 then (some (Char.ofNat b.toNat), 0)
  else
    match lead? b with
    | none => (none, 0)
    | some l =>
      match tails l.owed l.low l.high l.bits 0 rest with
      | (value, taken, true) => (some (Char.ofNat value), taken)
      | (_, taken, false) => (none, taken)

/-- A character of a text, with the offset of its first byte. `none` stands for bytes that spell no
character. -/
structure Glyph where
  char? : Option Char
  offset : Nat

/-- The character to show for a glyph. -/
def Glyph.char (g : Glyph) : Char := g.char?.getD replacement

/-- Every character of a byte list that starts at byte `offset` of its text. -/
def glyphs (offset : Nat) : List UInt8 → List Glyph
  | [] => []
  | b :: rest =>
    let (c, more) := first b rest
    ⟨c, offset⟩ :: glyphs (offset + more + 1) (rest.drop more)
termination_by bytes => bytes.length
decreasing_by simp only [List.length_drop, List.length_cons]; omega

/-- The text of a byte list, with a replacement character for each run of bytes that spells none. -/
def decode (bytes : List UInt8) : String :=
  String.ofList ((glyphs 0 bytes).map Glyph.char)

/-- The text of a well-formed byte list. -/
def decode? (bytes : List UInt8) : Option String :=
  ((glyphs 0 bytes).mapM Glyph.char?).map String.ofList

end GoMeter.Utf8
