import GoMeter.Refusal
import GoMeter.Syntax.Node

/-!
# Which trees are Go files

A tree is accepted if no node in it is broken and its root has the layout of a Go file: a package
clause, then imports, then declarations of functions, methods, variables, constants and types.
Comments may stand anywhere, and a file with nothing but comments is accepted too.

* `Node.hasError`, `Node.firstBroken?`: the broken node that is reported.
* `checkLayout`: the layout, or the first node that departs from it.
* `checkTree`: both, broken nodes first.
-/

namespace GoMeter

namespace Node

/-- Whether a node is an error or stands for a missing token. -/
def isBroken (n : Node) : Bool := n.kind = .error || n.label.missing

mutual

/-- Whether a tree has a broken node. -/
def hasError : Node → Bool
  | .mk label children => isBroken (.mk label []) || haveError children

/-- Whether one of several trees has a broken node. -/
def haveError : List Node → Bool
  | [] => false
  | n :: rest => n.hasError || haveError rest

end

/-- The first broken node met by a work list that enters only the trees that have one. -/
def searchBroken : List Node → Option Node
  | [] => none
  | n :: pending =>
    if n.isBroken then some n
    else searchBroken (n.children.filter hasError ++ pending)
termination_by pending => sizes pending
decreasing_by
  have := sizes_children_lt n
  have := sizes_filter_le hasError n.children
  simp; omega

/-- The broken node that is reported for a tree. -/
def firstBroken? (n : Node) : Option Node := searchBroken [n]

end Node

/-- Whether a kind is one of the declarations that may follow the imports. -/
def Kind.isTopLevel : Kind → Bool
  | .functionDeclaration | .methodDeclaration | .varDeclaration | .constDeclaration
  | .typeDeclaration => true
  | _ => false

/-- Checks what follows the package clause. `importsDone` says whether the imports are over: another
declaration has been met. -/
def checkDeclarations (src : Source) (importsDone : Bool) : List Node → Except Refusal Unit
  | [] => .ok ()
  | n :: rest =>
    if n.kind = .importDeclaration then
      if importsDone then .error ⟨n.physicalLine src, .lateImport⟩
      else checkDeclarations src importsDone rest
    else if n.kind.isTopLevel then checkDeclarations src true rest
    else .error ⟨n.physicalLine src, .strayStatement⟩

/-- The named children of a root that are no comments. -/
def Node.declarations (root : Node) : List Node :=
  root.namedChildren.filter fun n => n.kind ≠ .comment

/-- Checks the layout of a file. -/
def checkLayout (src : Source) (root : Node) : Except Refusal Unit :=
  match root.declarations with
  | [] => .ok ()
  | n :: rest =>
    if n.kind = .packageClause then checkDeclarations src false rest
    else .error ⟨n.physicalLine src, .packageExpected⟩

/-- The cause for which a broken node is reported. -/
def Node.breakage (n : Node) : Cause :=
  if n.label.missing then .missing n.kind else .malformed

/-- Checks that a tree is a Go file. -/
def checkTree (src : Source) (root : Node) : Except Refusal Unit :=
  if root.hasError then
    let bad := root.firstBroken?.getD root
    .error ⟨bad.physicalLine src, bad.breakage⟩
  else checkLayout src root

end GoMeter
