import GoMeter.Scope.Basic
import GoMeter.Syntax.Node

/-!
# The names declared at file level

* `Node.specs`: the specifications of a declaration, those in a parenthesised list included.
* `fileScope`: the names of a file's functions, variables, constants and types.
-/

namespace GoMeter

namespace Kind

/-- Whether a kind is a list of specifications. -/
def isSpecList (k : Kind) : Bool := "_spec_list".toList.isSuffixOf k.spelling.toList

/-- What a declaration of variables, constants or types declares. -/
def declared? : Kind → Option ObjectKind
  | .varDeclaration => some .variable
  | .constDeclaration => some .constant
  | .typeDeclaration => some .type
  | _ => none

end Kind

/-- Whether a node of kind `k` is a specification in a declaration of `what`. -/
def ObjectKind.isSpec (what : ObjectKind) (k : Kind) : Bool :=
  match what, k with
  | .variable, .varSpec | .constant, .constSpec | .type, .typeSpec | .type, .typeAlias => true
  | _, _ => false

namespace Node

mutual

/-- The specifications among the named children of a node and of the lists among them. -/
def specs (what : ObjectKind) : Node → List Node
  | .mk _ children => specsAmong what children

/-- The specifications among some nodes and in the lists among them. -/
def specsAmong (what : ObjectKind) : List Node → List Node
  | [] => []
  | n :: rest =>
    (if n.isNamed then
      if what.isSpec n.kind then [n]
      else if n.kind.isSpecList then specs what n
      else []
    else []) ++ specsAmong what rest

end

/-- The names that a specification or a parameter declares. -/
def declaredNames (src : Source) (n : Node) : List String :=
  (n.childrenAt .name).map (·.text src)

end Node

/-- Adds what one child of the root declares. The function `init` is never declared, and methods
belong to their receiver's type. -/
def Scope.addDeclaration (src : Source) (scope : Scope) (decl : Node) : Scope :=
  if decl.kind = .functionDeclaration then
    match (decl.child? .name).map (·.text src) with
    | none => scope
    | some name => if name = "init" then scope else scope.declare name .function
  else
    match decl.kind.declared? with
    | none => scope
    | some what =>
      (decl.specs what).foldl (fun s spec => s.declareAll (spec.declaredNames src) what) scope

/-- The names declared at file level. -/
def fileScope (src : Source) (root : Node) : Scope :=
  root.namedChildren.foldl (Scope.addDeclaration src) .empty

end GoMeter
