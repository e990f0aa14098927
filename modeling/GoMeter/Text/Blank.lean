import GoMeter.Text.Ranges

/-!
# Blank characters

The white space of Unicode together with the four separators of ASCII.

* `Text.strip`: a text without the blanks at its ends.
-/

namespace GoMeter.Text

/-- The blank characters. -/
def blankRanges : CodeRanges :=
  #[(0x9, 0xd), (0x1c, 0x20), (0x85, 0x85), (0xa0, 0xa0), (0x1680, 0x1680), (0x2000, 0x200a),
    (0x2028, 0x2029), (0x202f, 0x202f), (0x205f, 0x205f), (0x3000, 0x3000)]

/-- Whether a character is blank. -/
def isBlank (c : Char) : Bool := blankRanges.has c

/-- A list without the characters at its end that satisfy `p`. -/
def trimEndChars (p : Char → Bool) (cs : List Char) : List Char :=
  (cs.reverse.dropWhile p).reverse

/-- A list without the characters at its ends that satisfy `p`. -/
def trimChars (p : Char → Bool) (cs : List Char) : List Char := trimEndChars p (cs.dropWhile p)

/-- A text without the blanks at its ends. -/
def strip (cs : List Char) : List Char := trimChars isBlank cs

/-- A text in lower case, as far as ASCII goes. It serves to compare with words of ASCII letters other
than `k`; no character outside ASCII has one of those as its lower case. -/
def lower (cs : List Char) : List Char := cs.map Char.toLower

end GoMeter.Text
