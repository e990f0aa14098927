import GoMeter.Calls
import GoMeter.Comments.Ownership
import GoMeter.FunctionRecord
import GoMeter.Lines.Scan
import GoMeter.Scope.Resolve
import GoMeter.Size.Count
import GoMeter.Syntax.Soundness

/-!
# Measuring a file

A file is measured function by function: every declaration with a body and every function literal
has a record. Records come in document order, and a literal follows the function around it.

* `Node.functions`: the functions of a file.
* `measure`: the records of a checked tree.
* `measureTree`: the records of a tree, or the refusal of its source.
-/

namespace GoMeter

/-- Whether a kind declares a function or a method. -/
def Kind.isFunctionDeclaration : Kind → Bool
  | .functionDeclaration | .methodDeclaration => true
  | _ => false

/-- Whether a node is a function that has a record. -/
def Node.isFunction (n : Node) : Bool :=
  (n.kind.isFunctionDeclaration && (n.child? .body).isSome) || n.kind = .funcLiteral

/-- The functions below a root. -/
def Node.functions (root : Node) : List Node := root.named.filter isFunction

/-- What is known of a file before its functions are measured. -/
structure FileFacts where
  src : Source
  lines : LineMap
  callees : List Nat
  comments : CommentMap

/-- The record of one function. A function literal has no comments of its own. -/
def FileFacts.record (facts : FileFacts) (fn : Node) : FunctionRecord where
  line := facts.lines.startLine facts.src fn
  size := countBody fn
  calls := countCalls facts.src facts.callees (fn.child? .body)
  noinline := fn.kind.isFunctionDeclaration && facts.comments.hasNoinline fn
  anyCalls := hasCalls facts.src facts.callees (fn.child? .body)

/-- The records of a tree whose soundness has been checked. -/
def measure (src : Source) (root : Node) : Except Refusal (List FunctionRecord) := do
  let lines ← lineMap src root
  let facts : FileFacts := ⟨src, lines, resolve src root, .ofRoot src lines root⟩
  pure (root.functions.map facts.record)

/-- The records of a tree. -/
def measureTree (src : Source) (root : Node) : Except Refusal (List FunctionRecord) := do
  checkTree src root
  measure src root

end GoMeter
