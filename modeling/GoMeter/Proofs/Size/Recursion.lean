import GoMeter.Proofs.Size.Weighed
import Mathlib.Algebra.Order.BigOperators.Group.List
import Mathlib.Algebra.Order.Ring.Int
import Mathlib.Logic.Function.Iterate
import Mathlib.Logic.Relation

/-!
# The count as a recursion on the tree

The size of a body is counted with a work list, last child first, and how a node takes part depends on
the kind of its parent. What is counted does not depend on the order: it is the mass of the body, which
is told by recursion on the tree alone.

* `Node.mass`: the recursion.
* `tally_eq_mass`: the work list counts the masses of the trees on it.
* `Placed.iterate_step`: the work list is empty after as many rounds as its trees have nodes.
* `one_le_weight`, `Placed.units_nonneg`, `Placed.units_eq_zero_iff`: what one node adds is never
  negative, and when it is nothing.
* `Placed.mass_eq_zero_iff`: a body has no mass exactly if nothing that is counted is reached.
-/

namespace GoMeter

/-! ## The recursion -/

namespace Node

/-- The part of a keyed element that has a mass: its first child with the field of a value, or else its
last named child that is no comment. -/
def valuePart? (n : Node) : Option Node :=
  (n.childrenAt .value).head?.or (n.namedChildren.filter fun c => c.kind ≠ .comment).getLast?

/-- A field without a name that has a star: a pointer is embedded. -/
def EmbedsPointer (n : Node) : Prop :=
  n.kind = .fieldDeclaration ∧ n.childrenAt .name = [] ∧ ∃ c ∈ n.children, c.kind = .star

instance (n : Node) : Decidable n.EmbedsPointer :=
  inferInstanceAs (Decidable (n.kind = .fieldDeclaration ∧ n.childrenAt .name = [] ∧
    ∃ c ∈ n.children, c.kind = .star))

theorem child?_eq_head? (n : Node) (f : Field) : n.child? f = (n.childrenAt f).head? :=
  (List.head?_filter ..).symm

theorem valuePart?_eq (n : Node) : n.valuePart? = keyedTarget? n := by
  rw [valuePart?, keyedTarget?, child?_eq_head?]
  cases (n.childrenAt .value).head? <;> rfl

theorem embeddedPointer_eq (n : Node) :
    embeddedPointer n = if n.EmbedsPointer then 1 else 0 := by
  have hname : (n.child? .name).isNone ↔ n.childrenAt .name = [] := by
    rw [child?_eq_head?, Option.isNone_iff_eq_none, List.head?_eq_none_iff]
  have hiff : (n.kind = .fieldDeclaration && (n.child? .name).isNone &&
      n.children.any (·.kind = .star)) = true ↔ n.EmbedsPointer := by
    simp only [EmbedsPointer, Bool.and_eq_true, decide_eq_true_eq, hname, List.any_eq_true, and_assoc]
  rw [embeddedPointer]
  exact if_congr hiff rfl rfl

/-- The mass of a tree whose parent is of the kind `above`. A comment has none and a function literal has
one unit; a keyed element has the mass of its value. Any other node has its own weight, if it is
counted, a unit for an embedded pointer, and the masses of its named children. -/
def mass (above : Option Kind) (n : Node) : Int :=
  match n.kind with
  | .comment => 0
  | .funcLiteral => 1
  | .keyedElement =>
    match _h : n.valuePart? with
    | some value => value.mass (some n.kind)
    | none => 0
  | _ =>
    (if Category.of above n = .counted then weight n else 0) + (if n.EmbedsPointer then 1 else 0) +
      (n.namedChildren.attach.map fun ⟨c, _⟩ => c.mass (some n.kind)).sum
termination_by n.size
decreasing_by
  · exact size_lt_of_keyedTarget? (n.valuePart?_eq ▸ _h)
  · next hc => exact Nat.lt_of_le_of_lt (size_le_of_mem hc) n.sizes_namedChildren_lt

theorem mass_of_entered (above : Option Kind) {n : Node}
    (h : n.kind ≠ .comment ∧ n.kind ≠ .funcLiteral ∧ n.kind ≠ .keyedElement) :
    n.mass above = (if Category.of above n = .counted then weight n else 0) +
      (if n.EmbedsPointer then 1 else 0) + (n.namedChildren.map (mass (some n.kind))).sum := by
  obtain ⟨hcomment, hliteral, hkeyed⟩ := h
  have hchildren : (n.namedChildren.attach.map fun ⟨c, _⟩ => c.mass (some n.kind)) =
      n.namedChildren.map (mass (some n.kind)) :=
    List.attach_map_val ..
  rw [mass]
  split
  · contradiction
  · contradiction
  · contradiction
  · rw [hchildren]

end Node

/-! ## The work list -/

namespace Placed

/-- The mass of a tree on the work list. -/
def mass (p : Placed) : Int := p.node.mass p.parent

/-- A node adds its own units to the masses of the nodes with which the count goes on. -/
theorem mass_eq (p : Placed) : p.mass = p.units + (p.onward.map mass).sum := by
  rcases Category.of_cases p.parent p.node with
    ⟨hkind, hcategory⟩ | ⟨hkind, hcategory⟩ | ⟨hkind, hcategory⟩ | ⟨hkinds, hcategory⟩
  · simp [mass, Node.mass, units, category, hcategory, onward, Node.onward, hkind]
  · simp [mass, Node.mass, units, category, hcategory, onward, Node.onward, hkind]
  · have honward : p.onward = (keyedTarget? p.node).toList.map fun n => ⟨some p.node.kind, n⟩ := by
      simp [onward, Node.onward, hkind]
    rw [honward, ← p.node.valuePart?_eq, mass, Node.mass]
    cases h : p.node.valuePart? <;> simp [hkind, units, category, hcategory, mass]
  · have hbelow : (p.below.reverse.map mass).sum =
        (p.node.namedChildren.map (Node.mass (some p.node.kind))).sum := by
      rw [List.map_reverse, List.sum_reverse, below, List.map_map]
      rfl
    rw [mass, Node.mass_of_entered p.parent hkinds, onward_of_entered hkinds, hbelow, units,
      category, Node.embeddedPointer_eq]
    rcases hcategory with hcategory | hcategory | hcategory <;> simp [hcategory]

end Placed

/-- The work list counts the masses of the trees on it. -/
theorem tally_eq_mass (total : Int) (pending : List Placed) :
    tally total pending = total + (pending.map Placed.mass).sum := by
  induction h : Placed.sizes pending using Nat.strongRecOn generalizing total pending with
  | ind size ih =>
    subst h
    cases pending with
    | nil => simp [tally]
    | cons p rest =>
      have hsmaller : Placed.sizes (p.onward ++ rest) < Placed.sizes (p :: rest) := by
        have := p.sizes_onward_lt
        rw [Placed.sizes_append, Placed.sizes_cons]
        omega
      rw [tally_cons, ih _ hsmaller _ _ rfl, List.map_append, List.sum_append, List.map_cons,
        List.sum_cons, p.mass_eq]
      omega

namespace Placed

/-- One round of the count: the first node of the work list is taken, and the nodes with which the count
goes on are put before the rest. -/
def step : Int × List Placed → Int × List Placed
  | (total, []) => (total, [])
  | (total, p :: pending) => (total + p.units, p.onward ++ pending)

/-- After as many rounds as its trees have nodes the work list is empty. -/
theorem iterate_step (total : Int) (pending : List Placed) {n : Nat} (hn : sizes pending ≤ n) :
    step^[n] (total, pending) = (tally total pending, []) := by
  induction n generalizing total pending with
  | zero =>
    cases pending with
    | nil => simp [tally]
    | cons p rest =>
      have := size_pos p.node
      rw [sizes_cons] at hn
      omega
  | succ n ih =>
    cases pending with
    | nil => simpa [tally] using Function.iterate_fixed (f := step) (x := (total, [])) rfl (n + 1)
    | cons p rest =>
      have := p.sizes_onward_lt
      rw [sizes_cons] at hn
      rw [Function.iterate_succ_apply, tally_cons]
      exact ih (total + p.units) (p.onward ++ rest) (by rw [sizes_append]; omega)

end Placed

/-! ## What one node adds -/

/-- A counted node weighs something: a union of types is counted only if it has two operands. -/
theorem one_le_weight {above : Option Kind} {n : Node} (h : Category.of above n = .counted) :
    1 ≤ weight n := by
  unfold weight
  split
  · next hkind =>
    have hoperands : 1 < unionOperands n := by
      by_contra hfew
      simp [Category.of, hkind, hfew] at h
    omega
  · split_ifs <;> decide
  all_goals decide

namespace Placed

variable (p : Placed)

/-- A node takes part in the count: it is counted, it is a function literal, or it embeds a pointer. -/
def TakesPart : Prop :=
  p.category = .counted ∨ p.node.kind = .funcLiteral ∨ p.node.EmbedsPointer

theorem embeddedPointer_nonneg (n : Node) : 0 ≤ embeddedPointer n := by
  unfold embeddedPointer
  split_ifs <;> decide

theorem units_nonneg : 0 ≤ p.units := by
  have hpointer := embeddedPointer_nonneg p.node
  unfold units
  split
  · exact le_rfl
  · exact le_rfl
  · exact zero_le_one
  · next hcounted =>
    have := one_le_weight hcounted
    omega
  · exact hpointer
  · exact hpointer

theorem units_eq_zero_iff : p.units = 0 ↔ ¬ p.TakesPart := by
  have hpointer : embeddedPointer p.node = 0 ↔ ¬ p.node.EmbedsPointer := by
    rw [Node.embeddedPointer_eq]
    split_ifs with h <;> simp [h]
  rcases Category.of_cases p.parent p.node with
    ⟨hkind, hcategory⟩ | ⟨hkind, hcategory⟩ | ⟨hkind, hcategory⟩ | ⟨hkinds, hcategory⟩
  · simp [units, TakesPart, category, hcategory, hkind, Node.EmbedsPointer]
  · simp [units, TakesPart, category, hcategory, hkind]
  · simp [units, TakesPart, category, hcategory, hkind, Node.EmbedsPointer]
  · rcases hcategory with hcategory | hcategory | hcategory
    · have := one_le_weight hcategory
      have := embeddedPointer_nonneg p.node
      have hsome : weight p.node + embeddedPointer p.node ≠ 0 := by omega
      simp [units, TakesPart, category, hcategory, hsome]
    · simp [units, TakesPart, category, hcategory, hkinds, hpointer]
    · simp [units, TakesPart, category, hcategory, hkinds, hpointer]

/-! ## A body without mass -/

/-- The count that starts with `p` meets `q`. -/
def Reaches : Placed → Placed → Prop := Relation.ReflTransGen fun p q => q ∈ p.onward

variable {p}

/-- What is met from a node is the node itself, or met from one with which the count goes on. -/
theorem forall_reaches_iff {P : Placed → Prop} :
    (∀ q, p.Reaches q → P q) ↔ P p ∧ ∀ c ∈ p.onward, ∀ q, c.Reaches q → P q := by
  constructor
  · intro h
    exact ⟨h p .refl, fun c hc q hq => h q (hq.head hc)⟩
  · rintro ⟨hp, hbelow⟩ q hq
    rcases hq.cases_head with rfl | ⟨c, hc, hq⟩
    · exact hp
    · exact hbelow c hc q hq

theorem mass_induction {P : Placed → Prop} (h : ∀ p, (∀ c ∈ p.onward, P c) → P p) (p : Placed) :
    P p := by
  induction hsize : p.node.size using Nat.strongRecOn generalizing p with
  | ind size ih =>
    subst hsize
    refine h p fun c hc => ih _ ?_ c rfl
    have hle : c.node.size ≤ sizes p.onward := Node.size_le_of_mem (List.mem_map_of_mem hc)
    exact Nat.lt_of_le_of_lt hle p.sizes_onward_lt

theorem mass_nonneg (p : Placed) : 0 ≤ p.mass := by
  induction p using mass_induction with
  | h p ih =>
    have hbelow : 0 ≤ (p.onward.map mass).sum := List.sum_nonneg (by simpa using ih)
    have := p.units_nonneg
    rw [mass_eq]
    omega

/-- A tree has no mass exactly if no node that the count meets takes part in it. -/
theorem mass_eq_zero_iff (p : Placed) : p.mass = 0 ↔ ∀ q, p.Reaches q → ¬ q.TakesPart := by
  induction p using mass_induction with
  | h p ih =>
    have hmasses : ∀ m ∈ p.onward.map mass, 0 ≤ m := by
      simpa using fun c _ => mass_nonneg c
    have hbelow : (p.onward.map mass).sum = 0 ↔ ∀ c ∈ p.onward, c.mass = 0 := by
      constructor
      · intro hsum c hc
        exact List.all_zero_of_le_zero_le_of_sum_eq_zero hmasses hsum (List.mem_map_of_mem hc)
      · intro hnone
        exact List.sum_eq_zero (by simpa using hnone)
    have hunits := p.units_nonneg
    have hsum := List.sum_nonneg hmasses
    calc p.mass = 0
        ↔ p.units = 0 ∧ (p.onward.map mass).sum = 0 := by
          rw [mass_eq]
          omega
      _ ↔ ¬ p.TakesPart ∧ ∀ c ∈ p.onward, ∀ q, c.Reaches q → ¬ q.TakesPart := by
          rw [units_eq_zero_iff, hbelow]
          exact and_congr_right' (forall₂_congr ih)
      _ ↔ ∀ q, p.Reaches q → ¬ q.TakesPart :=
          (forall_reaches_iff (P := fun q => ¬ q.TakesPart)).symm

end Placed

/-- The count of a body is the mass of the body, and the work list of the count is empty after as many
rounds as the body has nodes. Every counted node weighs at least one unit, unions of types included, so
a count is never negative, and it is zero exactly if the count meets no counted node, no function
literal and no embedded pointer. -/
theorem count_is_mass (above : Option Kind) (body : Node) :
    tally 0 [⟨above, body⟩] = body.mass above ∧
      (∀ rounds, body.size ≤ rounds →
        Placed.step^[rounds] (0, [⟨above, body⟩]) = (body.mass above, [])) ∧
      (∀ fn : Node, fn.child? .body = some body → countBody fn = body.mass (some fn.kind)) ∧
      (∀ p : Placed, p.category = .counted → 1 ≤ weight p.node) ∧
      0 ≤ body.mass above ∧
      (body.mass above = 0 ↔ ∀ q, Placed.Reaches ⟨above, body⟩ q →
        q.category ≠ .counted ∧ q.node.kind ≠ .funcLiteral ∧ ¬ q.node.EmbedsPointer) := by
  have hcount : ∀ parent, tally 0 [⟨parent, body⟩] = body.mass parent := by
    intro parent
    rw [tally_eq_mass]
    simp [Placed.mass]
  refine ⟨hcount above, fun rounds hrounds => ?_, fun fn hbody => ?_, fun p => one_le_weight,
    Placed.mass_nonneg ⟨above, body⟩, ?_⟩
  · rw [← hcount above]
    exact Placed.iterate_step 0 [⟨above, body⟩] (by simpa [Placed.sizes] using hrounds)
  · rw [countBody, hbody]
    exact hcount (some fn.kind)
  · refine (Placed.mass_eq_zero_iff ⟨above, body⟩).trans (forall₂_congr fun q _ => ?_)
    simp only [Placed.TakesPart, not_or]

end GoMeter
