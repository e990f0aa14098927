import GoMeter.Go.Lexer
import GoMeter.Go.Statements
import GoMeter.Refusal

/-!
# The tree of a Go file

The rules of the grammar are tied together, a file is read as a list of declarations and statements,
and the comments are put into the tree: a comment is a child of the smallest node that has tokens on
both sides of it, or of the root.

* `grammar`: the rules, to a depth that no file of the given length exceeds.
* `parse`: the tree of a source, or its refusal.
-/

namespace GoMeter.Go

open GoMeter.Go.Parser

/-- The parser of each rule, by the parsers of the rules it calls. -/
def Rule.parser (rules : Rules) : Rule → Parser Node
  | .type => typeRule rules
  | .expression header level => expressionRule rules header level
  | .unary header => unaryRule rules header
  | .parameters => parametersRule rules
  | .literalValue => literalValueRule rules
  | .block => blockRule rules
  | .statement => statementRule rules

/-- The rules, nested at most `depth` times. -/
def grammar : Nat → Rules
  | 0, _ => fail
  | depth + 1, rule => rule.parser (grammar depth)

variable (rules : Rules)

/-- A declaration or statement at file level. -/
def topLevel : Parser Node := do
  let t ← peek
  match t.shape with
  | .symbol "package" => packageClause
  | .symbol "import" => importDeclaration
  | .symbol "func" => do
    if ← seesNameAt 1 then functionDeclaration rules
    else attempt (methodDeclaration rules) (rules .statement)
  | _ => rules .statement

/-- Whether the file ends here. -/
def seesEnd : Parser Bool := do
  pure ((← peek).shape == .endOfFile)

/-- Takes what ends a declaration or statement at file level. -/
def topLevelEnd (n : Node) : Parser Unit := do
  if ← seesEnd then pure ()
  else if n.kind = .emptyStatement then statementEnd n
  else if ← acceptSemicolon then pure ()
  else fail

/-- All declarations and statements of a file. -/
def file : Parser (List Node) := do
  let done ← repeating
    (fun done => do
      if ← seesEnd then pure (done, false)
      else
        let n ← topLevel rules
        topLevelEnd n
        pure (n :: done, true))
    []
  pure done.reverse

/-! ## Comments -/

/-- A comment as a node. -/
def CommentSpan.node (c : CommentSpan) : Node :=
  .mk ⟨.comment, c.start, c.stop, true, none, false⟩ []

mutual

/-- A tree with comments put into it. -/
def withComments (comments : List Node) : Node → Node
  | .mk label children => .mk label (amongComments comments children)

/-- Sibling trees with comments put into or between them. -/
def amongComments (comments : List Node) : List Node → List Node
  | [] => comments
  | n :: rest =>
    let before := comments.takeWhile fun c => c.start < n.start
    let others := comments.dropWhile fun c => c.start < n.start
    let inside := others.takeWhile fun c => c.start < n.stop
    let after := others.dropWhile fun c => c.start < n.stop
    before ++ withComments inside n :: amongComments after rest

end

/-- The root of a file. -/
def rootOf (src : Source) (children : List Node) : Node :=
  .mk ⟨.sourceFile, (children.head?.map Node.start).getD 0, src.size, true, none, false⟩ children

/-- The tree of a source, or the offset at which it is no Go file. -/
def tree? (src : Source) : Except Nat Node := do
  let lexed ← lex src
  let count := lexed.tokens.length
  let (declarations, _) ← (file (grammar (4 * count + 16))).run ⟨lexed.tokens, count, 0⟩
  pure (rootOf src (amongComments (lexed.comments.map CommentSpan.node) declarations))

/-- The tree of a source. -/
def parse (src : Source) : Except Refusal Node :=
  match tree? src with
  | .ok root => .ok root
  | .error offset => .error ⟨src.row offset + 1, .malformed⟩

end GoMeter.Go
