/-!
# Line ends

* `Text.unifyLines`: every line end as a line feed.
* `Text.splitLines`: the lines of a text.
-/

namespace GoMeter.Text

/-- A text in which a return, alone or before a line feed, is a line feed. -/
def unifyLines : List Char → List Char
  | '\r' :: '\n' :: rest => '\n' :: unifyLines rest
  | '\r' :: rest => '\n' :: unifyLines rest
  | c :: rest => c :: unifyLines rest
  | [] => []

/-- Whether a character separates lines. -/
def isLineSeparator (c : Char) : Bool :=
  let n := c.toNat
  (0xA ≤ n && n ≤ 0xD) || (0x1C ≤ n && n ≤ 0x1E) || n == 0x85 || n == 0x2028 || n == 0x2029

/-- The lines of a text, each of which ends in a separator or at the end. -/
def splitLines : List Char → List (List Char)
  | [] => []
  | '\r' :: '\n' :: rest => [] :: splitLines rest
  | c :: rest =>
    if isLineSeparator c then [] :: splitLines rest
    else
      match rest, splitLines rest with
      | [], _ => [[c]]
      | _, [] => [[c]]
      | _, line :: more => (c :: line) :: more

end GoMeter.Text
