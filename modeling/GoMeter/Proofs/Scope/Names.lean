import GoMeter.Scope.Basic
import Mathlib.Tactic.SplitIfs

/-!
# What a scope says about a name after a declaration

Inside one scope the first declaration of a name wins, so a declaration answers only for names that
had no answer before.

* `Scope.get?_declareAll`: the answer after several names were declared alike.
* `Scope.declareAll_eq_self`: declaring again what is declared changes nothing.
-/

namespace GoMeter

namespace Scope

@[simp] theorem get?_empty (name : String) : Scope.empty.get? name = none := rfl

theorem get?_append (s : Scope) (name x : String) (what : ObjectKind) :
    Scope.get? ⟨s.objects ++ [(name, what)]⟩ x =
      (s.get? x).or (if x = name then some what else none) := by
  unfold get?
  rw [List.lookup_append]
  by_cases hx : x = name
  · simp [hx]
  · have hb : (x == name) = false := by simpa using hx
    simp [List.lookup_cons, hx, hb]

theorem get?_declare (s : Scope) (name x : String) (what : ObjectKind) :
    (s.declare name what).get? x =
      (s.get? x).or (if isDeclarable name ∧ x = name then some what else none) := by
  unfold declare
  by_cases hd : isDeclarable name
  · cases hg : s.get? name with
    | none => simp [hd, get?_append]
    | some k =>
      by_cases hx : x = name
      · simp [hx, hg]
      · simp [hx]
  · simp [hd]

theorem get?_declareAll (s : Scope) (names : List String) (what : ObjectKind) (x : String) :
    (s.declareAll names what).get? x =
      (s.get? x).or (if isDeclarable x ∧ x ∈ names then some what else none) := by
  unfold declareAll
  induction names generalizing s with
  | nil => simp
  | cons name rest ih =>
    rw [List.foldl_cons, ih, get?_declare, Option.or_assoc]
    congr 1
    by_cases hx : x = name
    · subst hx
      by_cases hd : isDeclarable x <;> simp [hd]
    · simp [hx]

theorem declare_eq_self {s : Scope} {name : String}
    (h : isDeclarable name → (s.get? name).isSome) (what : ObjectKind) :
    s.declare name what = s := by
  unfold declare
  rw [if_neg]
  intro hnew
  rw [Bool.and_eq_true, Option.isNone_iff_eq_none] at hnew
  have := h hnew.1
  rw [hnew.2] at this
  cases this

/-- Declaring again what is declared changes nothing. -/
theorem declareAll_eq_self {s : Scope} {names : List String}
    (h : ∀ x ∈ names, isDeclarable x → (s.get? x).isSome) (what : ObjectKind) :
    s.declareAll names what = s := by
  unfold declareAll
  induction names with
  | nil => rfl
  | cons name rest ih =>
    rw [List.forall_mem_cons] at h
    rw [List.foldl_cons, declare_eq_self h.1, ih h.2]

end Scope

/-! ## Nested scopes -/

namespace ScopeChain

/-- The scopes after the declaration of several names in the innermost one. -/
def declareAll (c : ScopeChain) (names : List String) (what : ObjectKind) : ScopeChain :=
  names.foldl (fun c name => c.declare name what) c

theorem declareAll_eq (c : ScopeChain) (names : List String) (what : ObjectKind) :
    c.declareAll names what = { c with inner := c.inner.declareAll names what } := by
  unfold declareAll Scope.declareAll
  induction names generalizing c with
  | nil => rfl
  | cons name rest ih => exact ih (c.declare name what)

/-- Declaring names alike in several goes is declaring them all at once. -/
theorem foldl_declareAll {α : Type} (c : ScopeChain) (names : α → List String) (what : ObjectKind)
    (l : List α) :
    l.foldl (fun c x => c.declareAll (names x) what) c = c.declareAll (l.flatMap names) what := by
  induction l generalizing c with
  | nil => rfl
  | cons x rest ih =>
    rw [List.foldl_cons, ih, List.flatMap_cons]
    simp only [declareAll, List.foldl_append]

theorem pop_of_outer {c d : ScopeChain} (h : d.outer = c.push.outer) : d.pop = c := by
  unfold pop
  rw [h]
  rfl

end ScopeChain

end GoMeter
