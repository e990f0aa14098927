import GoMeter.Syntax.Node
import Mathlib.Data.List.Pairwise

/-!
# Nested spans

The children of every node of a tree lie inside it. How siblings stand to each other is left open: they
may only start one after the other, or not overlap at all.

* `Node.Nested`: a tree with children inside their parents and with siblings apart in some sense.
* `Node.StartsFirst`, `Node.EndsFirst`: two such senses.
-/

namespace GoMeter.Node

/-- The children of every node of a tree lie inside it, and of two siblings the earlier one stands to the
later one as `apart` says. -/
inductive Nested (apart : Node → Node → Prop) : Node → Prop where
  | mk {label : Label} {below : List Node}
      (inside : ∀ c ∈ below, label.start ≤ c.start ∧ c.stop ≤ label.stop)
      (siblings : below.Pairwise apart)
      (nested : ∀ c ∈ below, c.Nested apart) : Nested apart (.mk label below)

/-- The earlier of two siblings starts no later than the other. -/
def StartsFirst (a b : Node) : Prop := a.start ≤ b.start

/-- The earlier of two siblings ends no later than the other starts. -/
def EndsFirst (a b : Node) : Prop := a.stop ≤ b.start

instance : DecidableRel StartsFirst := fun a b => inferInstanceAs (Decidable (a.start ≤ b.start))

instance : DecidableRel EndsFirst := fun a b => inferInstanceAs (Decidable (a.stop ≤ b.start))

theorem nested_mk_iff {apart : Node → Node → Prop} {label : Label} {below : List Node} :
    Nested apart (.mk label below) ↔
      (∀ c ∈ below, label.start ≤ c.start ∧ c.stop ≤ label.stop) ∧
        below.Pairwise apart ∧ ∀ c ∈ below, c.Nested apart := by
  constructor
  · rintro ⟨inside, siblings, nested⟩
    exact ⟨inside, siblings, nested⟩
  · rintro ⟨inside, siblings, nested⟩
    exact ⟨inside, siblings, nested⟩

mutual

/-- Whether a tree is nested can be looked up node by node. -/
instance decidableNested (apart : Node → Node → Prop) [DecidableRel apart] :
    (n : Node) → Decidable (n.Nested apart)
  | .mk _ below =>
    have := decidableAllNested apart below
    decidable_of_iff _ nested_mk_iff.symm

/-- Whether all trees of a list are nested can be looked up tree by tree. -/
instance decidableAllNested (apart : Node → Node → Prop) [DecidableRel apart] :
    (ns : List Node) → Decidable (∀ c ∈ ns, c.Nested apart)
  | [] => .isTrue (by simp)
  | n :: rest =>
    have := decidableNested apart n
    have := decidableAllNested apart rest
    decidable_of_iff _ List.forall_mem_cons.symm

end

end GoMeter.Node
