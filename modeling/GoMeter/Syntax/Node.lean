import GoMeter.Source
import GoMeter.Syntax.Kind

/-!
# Syntax trees

A node has a label and children. The label says what the node is, which bytes it covers, whether the
grammar names it (keywords and punctuation are not named), which field of its parent it fills, and
whether the parser made it up to get over a missing token.

* `Node.child?`, `Node.childrenAt`: children by field.
* `Node.size`: the measure by which every traversal ends.
* `Node.walk`: the named nodes below a list of nodes, met by a work list.
* `Node.named`, `Node.preorder`: the same nodes listed by recursion.
-/

namespace GoMeter

/-- What a node says about itself. -/
structure Label where
  kind : Kind
  start : Nat
  stop : Nat
  named : Bool
  field : Option Field
  missing : Bool
  deriving DecidableEq, Repr, Inhabited

/-- A syntax tree. -/
inductive Node where
  | mk (label : Label) (children : List Node)
  deriving Repr, Inhabited

namespace Node

/-- The label of the top node. -/
def label : Node → Label
  | .mk label _ => label

/-- The trees below the top node, in order. -/
def children : Node → List Node
  | .mk _ children => children

/-- What the node is. -/
def kind (n : Node) : Kind := n.label.kind

/-- The offset of the node's first byte. -/
def start (n : Node) : Nat := n.label.start

/-- The offset after the node's last byte. -/
def stop (n : Node) : Nat := n.label.stop

/-- Whether the grammar gives the node a name. -/
def isNamed (n : Node) : Bool := n.label.named

/-- The role of the node in its parent. -/
def field (n : Node) : Option Field := n.label.field

/-- The children that the grammar names. -/
def namedChildren (n : Node) : List Node := n.children.filter isNamed

/-- The first child with a field. -/
def child? (n : Node) (f : Field) : Option Node :=
  n.children.find? fun c => c.field = some f

/-- Every child with a field, in order. -/
def childrenAt (n : Node) (f : Field) : List Node :=
  n.children.filter fun c => c.field = some f

/-- The source text of a node. -/
def text (n : Node) (src : Source) : String := src.text n.start n.stop

/-- The physical line, counted from one, on which a node starts. -/
def physicalLine (n : Node) (src : Source) : Nat := src.row n.start + 1

mutual

/-- The number of nodes of a tree. -/
def size : Node → Nat
  | .mk _ children => sizes children + 1

/-- The number of nodes of several trees. -/
def sizes : List Node → Nat
  | [] => 0
  | n :: rest => n.size + sizes rest

end

@[simp] theorem sizes_nil : sizes [] = 0 := rfl

@[simp] theorem sizes_cons (n : Node) (rest : List Node) : sizes (n :: rest) = n.size + sizes rest :=
  rfl

@[simp] theorem sizes_append (a b : List Node) : sizes (a ++ b) = sizes a + sizes b := by
  induction a with
  | nil => simp
  | cons n rest ih => simp [ih, Nat.add_assoc]

@[simp] theorem sizes_reverse (ns : List Node) : sizes ns.reverse = sizes ns := by
  induction ns with
  | nil => simp
  | cons n rest ih => simp [ih, Nat.add_comm]

/-- Dropping nodes from a list does not make it larger. -/
theorem sizes_filter_le (p : Node → Bool) (ns : List Node) : sizes (ns.filter p) ≤ sizes ns := by
  induction ns with
  | nil => simp
  | cons n rest ih =>
    by_cases h : p n <;> simp [h] <;> omega

/-- A tree is larger than its children together. -/
theorem sizes_children_lt (n : Node) : sizes n.children < n.size := by
  cases n with
  | mk label below => simp [children, size]

/-- A tree is larger than its named children together. -/
theorem sizes_namedChildren_lt (n : Node) : sizes n.namedChildren < n.size :=
  Nat.lt_of_le_of_lt (sizes_filter_le _ _) (sizes_children_lt n)

/-- A member of a list is no larger than the list. -/
theorem size_le_of_mem {n : Node} {ns : List Node} (h : n ∈ ns) : n.size ≤ sizes ns := by
  induction ns with
  | nil => cases h
  | cons m rest ih =>
    rcases List.mem_cons.mp h with rfl | h'
    · simp
    · have := ih h'; simp; omega

/-- A child is smaller than its parent. -/
theorem size_lt_of_child? {n c : Node} {f : Field} (h : n.child? f = some c) : c.size < n.size :=
  Nat.lt_of_le_of_lt (size_le_of_mem (List.mem_of_find?_eq_some h)) (sizes_children_lt n)

/-- The nodes met by a work list that starts with `pending`: the head is taken, and its named
children are put before what was pending. -/
def walk : List Node → List Node
  | [] => []
  | n :: pending => n :: walk (n.namedChildren ++ pending)
termination_by pending => sizes pending
decreasing_by
  have := sizes_namedChildren_lt n
  simp; omega

/-- Every named node strictly below `n` that is reached through named nodes, an enclosing node before
what it encloses. -/
def named (n : Node) : List Node := walk n.namedChildren

mutual

/-- A tree's nodes in pre-order, reached through named nodes. -/
def preorder : Node → List Node
  | .mk label children => .mk label children :: preorders children

/-- The pre-orders of the named trees of a list. -/
def preorders : List Node → List Node
  | [] => []
  | n :: rest => if n.isNamed then preorder n ++ preorders rest else preorders rest

end

end Node

end GoMeter
