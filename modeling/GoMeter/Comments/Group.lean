import GoMeter.Lines.Map

/-!
# Comment groups

The comments between two declarations fall into groups: a comment joins the group before it if no
blank line lies between them. A comment on the line where the preceding declaration ends starts a
group of its own, which takes further comments from that line only.

* `CommentGroup`: the lines and texts of a group.
* `commentGroups`: the groups of a file, each with the declarations before and after it.
-/

namespace GoMeter

/-- Adjacent comments. -/
structure CommentGroup where
  startLine : Int
  endLine : Int
  texts : List String
  deriving DecidableEq, Repr, Inhabited

/-- A group with the declarations around it. -/
structure PlacedGroup where
  group : CommentGroup
  before : Option Node
  after : Option Node
  deriving Inhabited

/-- What is known while the children of a root are read in order. -/
structure Grouping where
  /-- The groups whose next declaration has been met. -/
  done : List PlacedGroup
  /-- The closed groups since the last declaration, with that declaration. -/
  closed : List (List Node × Option Node)
  /-- The comments of the group that is open. -/
  current : List Node
  /-- Whether the open group stands on the line of the last declaration. -/
  trailing : Bool
  /-- The last declaration. -/
  last : Option Node

namespace Grouping

/-- Nothing has been read. -/
def start : Grouping := ⟨[], [], [], false, none⟩

/-- The group that some comments form. -/
def groupOf (src : Source) (lines : LineMap) (comments : List Node) : CommentGroup where
  startLine := (comments.head?.map (lines.startLine src)).getD 0
  endLine := (comments.getLast?.map (lines.endLine src)).getD 0
  texts := comments.map (·.text src)

/-- The closed groups, the open one included. -/
def allClosed (g : Grouping) : List (List Node × Option Node) :=
  if g.current.isEmpty then g.closed else g.closed ++ [(g.current, g.last)]

/-- The groups so far when the next declaration is `after`. -/
def placed (src : Source) (lines : LineMap) (g : Grouping) (after : Option Node) : List PlacedGroup :=
  g.done ++ g.allClosed.map fun (comments, before) => ⟨groupOf src lines comments, before, after⟩

/-- Whether a comment that starts on `line` belongs to the open group. -/
def accepts (src : Source) (lines : LineMap) (g : Grouping) (line : Int) : Bool :=
  match g.current.getLast? with
  | none => false
  | some c => line ≤ lines.endLine src c + (if g.trailing then 0 else 1)

/-- Whether a group that starts on `line` is the first since the last declaration and stands on the
line where that declaration ends. -/
def startsTrailing (src : Source) (lines : LineMap) (g : Grouping) (line : Int) : Bool :=
  g.allClosed.isEmpty && match g.last with
    | none => false
    | some d => lines.endLine src d = line

/-- Reads one child of the root. -/
def step (src : Source) (lines : LineMap) (g : Grouping) (child : Node) : Grouping :=
  if child.kind = .comment then
    let line := lines.startLine src child
    if g.accepts src lines line then { g with current := g.current ++ [child] }
    else
      { g with
        closed := g.allClosed
        current := [child]
        trailing := g.startsTrailing src lines line }
  else
    { done := g.placed src lines (some child), closed := [], current := [], trailing := g.trailing,
      last := some child }

end Grouping

/-- The comment groups among the children of a root. -/
def commentGroups (src : Source) (lines : LineMap) (root : Node) : List PlacedGroup :=
  (root.namedChildren.foldl (Grouping.step src lines) .start).placed src lines none

end GoMeter
