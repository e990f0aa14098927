import GoMeter.Syntax.Node

/-!
# Calls

A call is classified by its callee: a function of the file, a selector, a builtin, or anything else.
A call with explicit type arguments is never a bare name.

* `Node.calls`: the calls below a node, an enclosing call before those inside it.
* `classify`: the class of a call.
* `countCalls`: the calls in a body that are likely to cost something.
* `hasCalls`: whether a body calls anything, builtins included.
-/

namespace GoMeter

/-- The functions that the language itself provides. -/
def builtins : List String :=
  ["append", "len", "cap", "copy", "new", "make", "delete", "close", "complex", "imag", "real",
   "print", "println", "panic", "recover"]

/-- What a call calls. -/
inductive Callee where
  /-- A builtin that no function of the file hides. -/
  | builtin
  /-- A function of the file. -/
  | function
  /-- A selector: a function of a package, a method or a field. -/
  | qualified
  /-- Anything else. -/
  | other
  deriving DecidableEq, Repr

/-- The calls strictly below a node. -/
def Node.calls (n : Node) : List Node := n.named.filter fun c => c.kind = .callExpression

/-- What a call calls, and whether its callee is a bare name that is spelled like a builtin and is
known to name something. `callees` are the offsets of the callees that name a function. -/
def classify (src : Source) (callees : List Nat) (call : Node) : Callee × Bool :=
  match call.child? .callee with
  | none => (.other, false)
  | some callee =>
    if (call.child? .typeArguments).isSome then (.other, false)
    else
      match callee.kind with
      | .selectorExpression => (.qualified, false)
      | .identifier =>
        let isBuiltin := builtins.contains (callee.text src)
        if callees.contains callee.start then (.function, isBuiltin)
        else if isBuiltin then (.builtin, true)
        else (.other, false)
      | _ => (.other, false)

/-- Whether a call is likely to cost something: a selector, or a function of the file that is not
spelled like a builtin. -/
def isCostly : Callee × Bool → Bool
  | (.qualified, _) => true
  | (.function, isBuiltin) => !isBuiltin
  | _ => false

/-- The number of calls in a body that are likely to cost something. -/
def countCalls (src : Source) (callees : List Nat) (body : Option Node) : Nat :=
  match body with
  | none => 0
  | some body => (body.calls.filter fun c => isCostly (classify src callees c)).length

/-- Whether a body has a call that is not of the class `other`. -/
def hasCalls (src : Source) (callees : List Nat) (body : Option Node) : Bool :=
  match body with
  | none => false
  | some body => body.calls.any fun c => (classify src callees c).1 != .other

end GoMeter
