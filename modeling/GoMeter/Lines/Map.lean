import GoMeter.Syntax.Node

/-!
# Line maps

A line map holds the points from which lines are numbered anew. The line of a position is counted
from the last such point that is not after it, or from the start of the file if there is none.

* `LineMap.ofList`: the map of some points, sorted by offset; points with one offset keep their order.
* `LineMap.line`: the line of a position, found by bisection.
* `LineMap.startLine`, `LineMap.endLine`: the lines of a node.
-/

namespace GoMeter

/-- A point from which lines are numbered anew: the text at `offset` is in row `row`, and that row
has line number `line`. -/
structure Restart where
  offset : Int
  row : Int
  line : Int
  deriving DecidableEq, Repr, Inhabited

/-- The points of a file, by rising offset. -/
structure LineMap where
  restarts : Array Restart
  deriving Repr, Inhabited

namespace LineMap

/-- The map of a file that is numbered from its start. -/
def empty : LineMap := ⟨#[]⟩

/-- The map with the points of a list. -/
def ofList (restarts : List Restart) : LineMap :=
  ⟨(restarts.mergeSort fun a b => a.offset ≤ b.offset).toArray⟩

/-- The number of points in `lo, …, hi - 1` after which `offset` may be inserted without breaking the
order, plus `lo`: the place after the last point that is not after `offset`. -/
def place (restarts : Array Restart) (offset : Int) (lo hi : Nat) (h : hi ≤ restarts.size) : Nat :=
  if hlt : lo < hi then
    have hmid : (lo + hi) / 2 < restarts.size := by omega
    if offset < restarts[(lo + hi) / 2].offset then
      place restarts offset lo ((lo + hi) / 2) (by omega)
    else
      place restarts offset ((lo + hi) / 2 + 1) hi h
  else lo
termination_by hi - lo

/-- The point that governs an offset. -/
def governing? (m : LineMap) (offset : Int) : Option Restart :=
  match place m.restarts offset 0 m.restarts.size (Nat.le_refl _) with
  | 0 => none
  | i + 1 => m.restarts[i]?

/-- The line of the position `offset` in row `row`. -/
def line (m : LineMap) (offset row : Int) : Int :=
  match m.governing? offset with
  | none => row + 1
  | some r => r.line + row - r.row

/-- The line on which a node starts. -/
def startLine (m : LineMap) (src : Source) (n : Node) : Int :=
  m.line n.start (src.row n.start)

/-- The line on which a node ends. -/
def endLine (m : LineMap) (src : Source) (n : Node) : Int :=
  m.line n.stop (src.row n.stop)

end LineMap

end GoMeter
