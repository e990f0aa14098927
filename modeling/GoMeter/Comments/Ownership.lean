import GoMeter.Comments.Group
import GoMeter.Text.Infix

/-!
# Which declaration a comment belongs to

A group that starts on the line where the preceding declaration ends, or on the next line with a
blank line after the group, belongs to that declaration. Any other group belongs to the declaration
that follows it, if there is one.

* `PlacedGroup.owner?`: the declaration that a group belongs to.
* `CommentMap`: the groups of each declaration, found by the declaration's first byte.
* `CommentMap.hasNoinline`: whether a declaration is marked against inlining.
-/

namespace GoMeter

/-- The line on which the end of a file lies, beyond every line of it. -/
def endOfFile : Int := Int.pow 2 30

namespace PlacedGroup

/-- Whether a group belongs to the declaration before it. -/
def isClaimed (src : Source) (lines : LineMap) (p : PlacedGroup) (before : Node) : Bool :=
  let ends := lines.endLine src before
  let next := (p.after.map (lines.startLine src)).getD endOfFile
  ends = p.group.startLine ||
    (ends + 1 = p.group.startLine && p.group.endLine + 1 < next)

/-- The declaration that a group belongs to. -/
def owner? (src : Source) (lines : LineMap) (p : PlacedGroup) : Option Node :=
  match p.before with
  | some before => if p.isClaimed src lines before then some before else p.after
  | none => p.after

end PlacedGroup

/-- The comment groups of each declaration, by the offset of its first byte. -/
abbrev CommentMap := List (Nat × List CommentGroup)

namespace CommentMap

/-- Adds a group to those of the declaration at `start`. -/
def add (start : Nat) (group : CommentGroup) : CommentMap → CommentMap
  | [] => [(start, [group])]
  | (k, groups) :: rest =>
    if k = start then (k, groups ++ [group]) :: rest else (k, groups) :: add start group rest

/-- The map of a file. -/
def ofRoot (src : Source) (lines : LineMap) (root : Node) : CommentMap :=
  (commentGroups src lines root).foldl
    (fun m p =>
      match p.owner? src lines with
      | some owner => m.add owner.start p.group
      | none => m)
    []

/-- The groups of the declaration at `start`. -/
def groupsAt (m : CommentMap) (start : Nat) : List CommentGroup :=
  (m.lookup start).getD []

/-- The directive that keeps a function from being inlined. -/
def noinlineDirective : String := "go:noinline"

/-- Whether a comment of a group mentions `needle`. -/
def mentions (needle : String) (group : CommentGroup) : Bool :=
  group.texts.any (textOccursIn needle)

/-- Whether a comment that belongs to a declaration mentions the directive against inlining. -/
def hasNoinline (m : CommentMap) (declaration : Node) : Bool :=
  (m.groupsAt declaration.start).any (mentions noinlineDirective)

end CommentMap

end GoMeter
