import GoMeter.Size.Category

/-!
# The size of a function body

* `tally`: the units of the trees on a work list.
* `countBody`: the size of a function body.
* `Census`: how many nodes of a body fall into which category.
-/

namespace GoMeter

/-- A node together with the kind of its parent. -/
structure Placed where
  parent : Option Kind
  node : Node
  deriving Inhabited

namespace Placed

/-- How a node takes part in the count. -/
def category (p : Placed) : Category := Category.of p.parent p.node

/-- The named children of a node. -/
def below (p : Placed) : List Placed :=
  p.node.namedChildren.map fun c => ⟨some p.node.kind, c⟩

/-- The number of nodes of several trees. -/
def sizes (ps : List Placed) : Nat := Node.sizes (ps.map node)

@[simp] theorem sizes_cons (p : Placed) (ps : List Placed) : sizes (p :: ps) = p.node.size + sizes ps :=
  rfl

@[simp] theorem sizes_append (ps qs : List Placed) : sizes (ps ++ qs) = sizes ps + sizes qs := by
  simp [sizes]

@[simp] theorem sizes_reverse (ps : List Placed) : sizes ps.reverse = sizes ps := by
  simp [sizes, List.map_reverse]

/-- A tree is larger than its named children together. -/
theorem sizes_below_lt (p : Placed) : sizes p.below < p.node.size := by
  have := Node.sizes_namedChildren_lt p.node
  simpa [sizes, below, Function.comp_def] using this

/-- Every tree has a node. -/
theorem size_pos (n : Node) : 0 < n.size := by
  have := Node.sizes_children_lt n
  omega

end Placed

/-- The counted part of a keyed element is smaller than the element. -/
theorem size_lt_of_keyedTarget? {n t : Node} (h : keyedTarget? n = some t) : t.size < n.size := by
  unfold keyedTarget? at h
  split at h
  · next value hv =>
    cases h
    exact Node.size_lt_of_child? hv
  · have hm := List.mem_of_getLast? h
    have := Node.size_le_of_mem (List.mem_filter.mp hm).1
    have := Node.sizes_namedChildren_lt n
    omega

/-- The units of the trees on a work list, on top of `total`. -/
def tally (total : Int) : List Placed → Int
  | [] => total
  | p :: pending =>
    match p.category with
    | .skipped => tally total pending
    | .nestedFunction => tally (total + 1) pending
    | .keyValue =>
      match _h : keyedTarget? p.node with
      | some target => tally total (⟨some p.node.kind, target⟩ :: pending)
      | none => tally total pending
    | .counted =>
      tally (total + weight p.node + embeddedPointer p.node) (p.below.reverse ++ pending)
    | .grouping | .other => tally (total + embeddedPointer p.node) (p.below.reverse ++ pending)
termination_by pending => Placed.sizes pending
decreasing_by
  · have := Placed.size_pos p.node
    simp; omega
  · have := Placed.size_pos p.node
    simp; omega
  · have := size_lt_of_keyedTarget? _h
    simp; omega
  · have := Placed.size_pos p.node
    simp; omega
  · have := Placed.sizes_below_lt p
    simp; omega
  · have := Placed.sizes_below_lt p
    simp; omega

/-- The units below a node, without the node itself. -/
def countBelow (n : Node) : Int := tally 0 (Placed.below ⟨none, n⟩).reverse

/-- The size of the body of `fn`; a missing body counts as zero. -/
def countBody (fn : Node) : Int :=
  match fn.child? .body with
  | none => 0
  | some body => tally 0 [⟨some fn.kind, body⟩]

/-- The nodes met by a work list, each with its parent's kind. -/
def Placed.walk : List Placed → List Placed
  | [] => []
  | p :: pending => p :: walk (p.below ++ pending)
termination_by pending => Placed.sizes pending
decreasing_by
  have := Placed.sizes_below_lt p
  simp; omega

/-- How many nodes of a body fall into the categories that a reader asks for. -/
structure Census where
  counted : Nat
  keyValue : Nat
  nested : Nat
  skipped : Nat
  deriving DecidableEq, Repr

/-- The census of the body of `fn`, the body itself included. -/
def Census.ofFunction (fn : Node) : Census :=
  match fn.child? .body with
  | none => ⟨0, 0, 0, 0⟩
  | some body =>
    let categories := (Placed.walk [⟨some fn.kind, body⟩]).map Placed.category
    ⟨categories.count .counted, categories.count .keyValue, categories.count .nestedFunction,
      categories.count .skipped⟩

end GoMeter
