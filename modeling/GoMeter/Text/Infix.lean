/-!
# Runs inside a list

`occursIn needle hay` says whether `needle` stands somewhere in `hay` as a run. It serves both bytes
and characters.
-/

namespace GoMeter

/-- Whether `needle` occurs in a list as a run. -/
def occursIn {α : Type} [BEq α] (needle : List α) : List α → Bool
  | [] => needle.isEmpty
  | a :: rest => needle.isPrefixOf (a :: rest) || occursIn needle rest

/-- Whether the text `needle` occurs in a text. -/
def textOccursIn (needle hay : String) : Bool := occursIn needle.toList hay.toList

end GoMeter
