import GoMeter.Lines.Map
import GoMeter.Refusal

/-!
# The line map of a file

A comment `//line …` counts only at the start of a line and takes effect on the next one; a comment
`/*line …*/` takes effect right after it. The comments of a file are met from its end, so of several
malformed directives the last is the one reported.

* `comments`: the comments of a file in the order in which they are met.
* `restartOf?`: what one comment adds to the map.
* `lineMap`: the map of a file, or the refusal that a malformed directive causes.
-/

namespace GoMeter

/-- The comments met by a work list that enters named nodes from their last child on. -/
def commentsFromEnd : List Node → List Node
  | [] => []
  | n :: pending =>
    if n.kind = .comment then n :: commentsFromEnd pending
    else commentsFromEnd (n.namedChildren.reverse ++ pending)
termination_by pending => Node.sizes pending
decreasing_by
  · have := Node.sizes_children_lt n
    simp; omega
  · have := Node.sizes_namedChildren_lt n
    simp; omega

/-- The comments of a file, the last first. -/
def Node.comments (root : Node) : List Node := commentsFromEnd [root]

/-- The text of a comment without the carriage returns it ends in. -/
def commentText (src : Source) (comment : Node) : List Char :=
  ((comment.text src).toList.reverse.dropWhile (· == '\r')).reverse

/-- Whether a comment stands where a line directive counts: a line comment at the start of a line, or
a block comment that is closed. -/
def isEffective (src : Source) (comment : Node) : Bool :=
  let text := commentText src comment
  if "//".toList.isPrefixOf text then src.column comment.start == 0
  else "*/".toList.isSuffixOf text

/-- Where the numbering that a comment restarts begins: after a block comment, or on the line that
follows a line comment, if one does. -/
def restartPoint? (src : Source) (comment : Node) : Option (Nat × Nat) :=
  if "/*".toList.isPrefixOf (commentText src comment) then
    some (comment.stop, src.row comment.stop)
  else
    let eol := src.skipReturns comment.stop
    if src.bytes[eol]? = some Source.lineFeed then some (eol + 1, src.row comment.stop + 1) else none

/-- What a comment adds to the line map. -/
def restartOf? (src : Source) (comment : Node) : Except Refusal (Option Restart) :=
  if isEffective src comment then
    match Directive.named? (String.ofList (commentText src comment)) with
    | .error fault => .error ⟨comment.physicalLine src, .directive fault⟩
    | .ok none => .ok none
    | .ok (some line) =>
      .ok ((restartPoint? src comment).map fun (offset, row) => ⟨offset, row, line⟩)
  else .ok none

/-- The points that a list of comments adds, or the refusal of the first that is malformed. -/
def restartsOf (src : Source) : List Node → Except Refusal (List Restart)
  | [] => .ok []
  | c :: rest => do
    let r ← restartOf? src c
    let rs ← restartsOf src rest
    pure (r.toList ++ rs)

/-- The line map of a file. A source in which no directive is opened has the empty map. -/
def lineMap (src : Source) (root : Node) : Except Refusal LineMap :=
  if Directive.openings.any src.contains then
    LineMap.ofList <$> restartsOf src root.comments
  else .ok .empty

end GoMeter
