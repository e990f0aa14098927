/-!
# Scopes

A scope holds the names declared in it, each with the kind of thing it names. Inside one scope the
first declaration of a name wins; along a chain of scopes the innermost one wins. The empty name and
`_` are never declared.

* `Scope.declare`, `Scope.get?`: one scope.
* `ScopeChain`: nested scopes as a stack, with `push`, `pop`, `declare` and `lookup`.
-/

namespace GoMeter

/-- What a name stands for. -/
inductive ObjectKind where
  | function | variable | constant | type
  deriving DecidableEq, Repr, Inhabited

namespace ObjectKind

/-- The keyword that declares such a thing. -/
def keyword : ObjectKind → String
  | .function => "func"
  | .variable => "var"
  | .constant => "const"
  | .type => "type"

/-- The kind that a keyword declares. -/
def ofKeyword? (s : String) : Option ObjectKind :=
  [.function, .variable, .constant, .type].find? fun k => k.keyword == s

end ObjectKind

/-- The names declared in one scope, in the order of their declaration. -/
structure Scope where
  objects : List (String × ObjectKind)
  deriving DecidableEq, Repr, Inhabited

namespace Scope

/-- A scope without names. -/
def empty : Scope := ⟨[]⟩

/-- What a name stands for in this scope. -/
def get? (s : Scope) (name : String) : Option ObjectKind := s.objects.lookup name

/-- Whether a name can be declared at all. -/
def isDeclarable (name : String) : Bool := name != "" && name != "_"

/-- Declares a name, unless it is declared already. -/
def declare (s : Scope) (name : String) (kind : ObjectKind) : Scope :=
  if isDeclarable name && (s.get? name).isNone then ⟨s.objects ++ [(name, kind)]⟩ else s

/-- Declares several names. -/
def declareAll (s : Scope) (names : List String) (kind : ObjectKind) : Scope :=
  names.foldl (fun s name => s.declare name kind) s

end Scope

/-- Nested scopes: the innermost one and those around it, from the inside out. -/
structure ScopeChain where
  inner : Scope
  outer : List Scope
  deriving DecidableEq, Repr, Inhabited

namespace ScopeChain

/-- One scope without names. -/
def start : ScopeChain := ⟨.empty, []⟩

/-- Opens an inner scope. -/
def push (c : ScopeChain) : ScopeChain := ⟨.empty, c.inner :: c.outer⟩

/-- Returns to the outer scope; the outermost one stays. -/
def pop (c : ScopeChain) : ScopeChain :=
  match c.outer with
  | [] => c
  | s :: rest => ⟨s, rest⟩

/-- Declares a name in the innermost scope. -/
def declare (c : ScopeChain) (name : String) (kind : ObjectKind) : ScopeChain :=
  { c with inner := c.inner.declare name kind }

/-- What a name stands for in the innermost scope that declares it. -/
def lookup (c : ScopeChain) (name : String) : Option ObjectKind :=
  (c.inner :: c.outer).findSome? (·.get? name)

end ScopeChain

end GoMeter
