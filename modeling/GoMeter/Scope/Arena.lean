import GoMeter.Scope.Basic

/-!
# Shared scopes

While a file is resolved many pending tasks refer to one scope, and a declaration made by one of
them is seen by the others. The scopes therefore live in an arena, and tasks refer to them by index.
Each scope knows the index of the one around it, which is always smaller.

* `Arena.openScope`: a new scope inside another.
* `Arena.declareAll`: declarations in one scope.
* `Arena.lookup`: the innermost declaration of a name as seen from a scope.
-/

namespace GoMeter

/-- A scope and the index of the one around it. -/
structure Frame where
  scope : Scope
  outer : Option Nat
  deriving Repr, Inhabited

/-- All scopes of a file. -/
structure Arena where
  frames : Array Frame
  deriving Repr, Inhabited

namespace Arena

/-- An arena with one outermost scope, whose index is zero. -/
def ofScope (s : Scope) : Arena := ⟨#[⟨s, none⟩]⟩

/-- Opens a scope inside another; gives the new scope's index. -/
def openScope (a : Arena) (outer : Nat) : Nat × Arena :=
  (a.frames.size, ⟨a.frames.push ⟨.empty, some outer⟩⟩)

/-- Declares several names in one scope. -/
def declareAll (a : Arena) (scope : Nat) (names : List String) (kind : ObjectKind) : Arena :=
  ⟨a.frames.modify scope fun f => { f with scope := f.scope.declareAll names kind }⟩

/-- What a name stands for as seen from a scope. -/
def lookup (a : Arena) (name : String) (scope : Nat) : Option ObjectKind :=
  match a.frames[scope]? with
  | none => none
  | some f =>
    match f.scope.get? name with
    | some kind => some kind
    | none =>
      match f.outer with
      | some outer => if outer < scope then a.lookup name outer else none
      | none => none
termination_by scope

end Arena

end GoMeter
