import GoMeter.Scope.File
import Mathlib.Data.List.Basic
import Mathlib.Tactic.SplitIfs

/-!
# Sites in a tree

Two nodes of a tree may be equal and still stand at different sites, so a statement about one of
them has to say where it stands. A site is a node together with the way to it from the root: the
index of the child to enter at each level.

* `Site.children`, `Site.namedChildren`, `Site.child?`, `Site.specs`: the parts of a node, each
  with its site. Forgetting the ways gives the parts of the node (`map_node_namedChildren`, …).
* `Node.sites`: every site of a tree.
* `Node.at?`: the node at the end of a way; `at?_of_mem_children` follows it one level down.
-/

namespace GoMeter

/-- A named node that is not missing. -/
def Node.branch (kind : Kind) (start stop : Nat) (field : Option Field) (children : List Node) :
    Node :=
  .mk ⟨kind, start, stop, true, field, false⟩ children

/-- The way from a root to a node. -/
abbrev Way := List Nat

/-- A node and the way to it. -/
structure Site where
  way : Way
  node : Node
  deriving Repr, Inhabited

namespace Site

/-- Nodes that stand side by side below `way`, the first of them at index `i`. -/
def row (way : Way) : Nat → List Node → List Site
  | _, [] => []
  | i, n :: rest => ⟨way ++ [i], n⟩ :: row way (i + 1) rest

/-- The root of a tree. -/
def root (n : Node) : Site := ⟨[], n⟩

/-- The sites directly below a site. -/
def children (s : Site) : List Site := row s.way 0 s.node.children

/-- The children that the grammar names. -/
def namedChildren (s : Site) : List Site := s.children.filter (·.node.isNamed)

/-- The first child with a field. -/
def child? (s : Site) (f : Field) : Option Site :=
  s.children.find? fun c => c.node.field = some f

/-! ## Forgetting the way -/

@[simp] theorem map_node_row (way : Way) (i : Nat) (ns : List Node) :
    (row way i ns).map node = ns := by
  induction ns generalizing i with
  | nil => rfl
  | cons n rest ih => simp [row, ih]

@[simp] theorem map_node_children (s : Site) : s.children.map node = s.node.children :=
  map_node_row _ _ _

theorem map_node_filter (p : Node → Bool) (ss : List Site) :
    (ss.filter fun s => p s.node).map node = (ss.map node).filter p := by
  rw [List.filter_map]; rfl

@[simp] theorem map_node_namedChildren (s : Site) :
    s.namedChildren.map node = s.node.namedChildren := by
  rw [namedChildren, map_node_filter Node.isNamed, map_node_children, Node.namedChildren]

@[simp] theorem map_node_child? (s : Site) (f : Field) :
    (s.child? f).map node = s.node.child? f := by
  rw [child?, Node.child?, ← map_node_children, List.find?_map]; rfl

theorem node_mem_children {s c : Site} (h : c ∈ s.children) : c.node ∈ s.node.children := by
  rw [← map_node_children]; exact List.mem_map_of_mem h

theorem node_mem_namedChildren {s c : Site} (h : c ∈ s.namedChildren) :
    c.node ∈ s.node.namedChildren := by
  rw [← map_node_namedChildren]; exact List.mem_map_of_mem h

theorem mem_children_of_mem_namedChildren {s c : Site} (h : c ∈ s.namedChildren) :
    c ∈ s.children :=
  (List.mem_filter.mp h).1

theorem mem_children_of_child? {s c : Site} {f : Field} (h : s.child? f = some c) :
    c ∈ s.children :=
  List.mem_of_find?_eq_some h

theorem field_of_child? {s c : Site} {f : Field} (h : s.child? f = some c) :
    c.node.field = some f := by
  simpa using List.find?_some h

theorem size_lt_of_mem_children {s c : Site} (h : c ∈ s.children) : c.node.size < s.node.size :=
  Nat.lt_of_le_of_lt (Node.size_le_of_mem (node_mem_children h)) (Node.sizes_children_lt _)

/-! ## Specifications -/

/-- The specifications of a declaration, those in a parenthesised list included. -/
def specs (what : ObjectKind) (s : Site) : List Site :=
  s.namedChildren.attach.flatMap fun c =>
    if what.isSpec c.val.node.kind then [c.val]
    else if c.val.node.kind.isSpecList then specs what c.val
    else []
termination_by s.node.size
decreasing_by exact size_lt_of_mem_children (mem_children_of_mem_namedChildren c.property)

theorem specs_eq (what : ObjectKind) (s : Site) :
    s.specs what = s.namedChildren.flatMap fun c =>
      if what.isSpec c.node.kind then [c]
      else if c.node.kind.isSpecList then c.specs what
      else [] := by
  rw [specs]
  simp only [List.flatMap_def, List.map_attach_eq_pmap, List.pmap_eq_map]

end Site

namespace Node

theorem specsAmong_eq (what : ObjectKind) (ns : List Node) :
    specsAmong what ns = (ns.filter isNamed).flatMap fun c =>
      if what.isSpec c.kind then [c]
      else if c.kind.isSpecList then c.specs what
      else [] := by
  induction ns with
  | nil => rfl
  | cons n rest ih =>
    rw [specsAmong, ih]
    by_cases h : n.isNamed
    · rw [List.filter_cons_of_pos h, List.flatMap_cons, if_pos h]
    · rw [List.filter_cons_of_neg h, if_neg h, List.nil_append]

theorem specs_eq (what : ObjectKind) (n : Node) :
    n.specs what = n.namedChildren.flatMap fun c =>
      if what.isSpec c.kind then [c]
      else if c.kind.isSpecList then c.specs what
      else [] := by
  cases n with
  | mk label below => exact specsAmong_eq what below

end Node

namespace Site

@[simp] theorem map_node_specs (what : ObjectKind) (s : Site) :
    (s.specs what).map node = s.node.specs what := by
  induction h : s.node.size using Nat.strongRecOn generalizing s with
  | ind size ih =>
    subst h
    rw [specs_eq, Node.specs_eq, ← map_node_namedChildren, List.map_flatMap, List.flatMap_map]
    refine List.flatMap_congr fun c hc => ?_
    split_ifs with hspec hlist
    · rfl
    · exact ih _ (size_lt_of_mem_children (mem_children_of_mem_namedChildren hc)) c rfl
    · rfl

end Site

/-! ## All sites of a tree -/

namespace Node

mutual

/-- The sites of a tree that stands at `way`. -/
def sitesFrom (way : Way) : Node → List Site
  | .mk label below => ⟨way, .mk label below⟩ :: sitesAmong way 0 below

/-- The sites of trees that stand side by side below `way`, the first of them at index `i`. -/
def sitesAmong (way : Way) (i : Nat) : List Node → List Site
  | [] => []
  | n :: rest => sitesFrom (way ++ [i]) n ++ sitesAmong way (i + 1) rest

end

/-- Every site of a tree, an enclosing one before those inside it. -/
def sites (root : Node) : List Site := sitesFrom [] root

/-- The node at the end of a way. -/
def at? (n : Node) : Way → Option Node
  | [] => some n
  | i :: rest => n.children[i]?.bind (at? · rest)

theorem at?_append (n : Node) (p q : Way) : n.at? (p ++ q) = (n.at? p).bind (·.at? q) := by
  induction p generalizing n with
  | nil => rfl
  | cons i p ih =>
    simp only [List.cons_append, at?, Option.bind_assoc, ih]

mutual

theorem mem_sitesFrom {way : Way} {n : Node} {s : Site} :
    s ∈ sitesFrom way n ↔ ∃ q, s.way = way ++ q ∧ n.at? q = some s.node := by
  cases n with
  | mk label below =>
    rw [sitesFrom, List.mem_cons, mem_sitesAmong]
    constructor
    · rintro (rfl | ⟨j, q, hway, hat⟩)
      · exact ⟨[], by simp, rfl⟩
      · refine ⟨j :: q, by simpa using hway, ?_⟩
        simpa [at?, children] using hat
    · rintro ⟨q, hway, hat⟩
      cases q with
      | nil =>
        left
        cases s
        simp only [at?, Option.some.injEq] at hat
        simp [← hat] at hway ⊢
        exact hway
      | cons j q => exact Or.inr ⟨j, q, by simpa using hway, by simpa [at?, children] using hat⟩

theorem mem_sitesAmong {way : Way} {i : Nat} {ns : List Node} {s : Site} :
    s ∈ sitesAmong way i ns ↔
      ∃ j q, s.way = way ++ (i + j) :: q ∧ ns[j]?.bind (·.at? q) = some s.node := by
  cases ns with
  | nil => simp [sitesAmong]
  | cons n rest =>
    rw [sitesAmong, List.mem_append, mem_sitesFrom, mem_sitesAmong]
    constructor
    · rintro (⟨q, hway, hat⟩ | ⟨j, q, hway, hat⟩)
      · exact ⟨0, q, by simpa using hway, by simpa using hat⟩
      · exact ⟨j + 1, q, by rw [hway, show i + 1 + j = i + (j + 1) by omega], by simpa using hat⟩
    · rintro ⟨j, q, hway, hat⟩
      cases j with
      | zero => exact Or.inl ⟨q, by simpa using hway, by simpa using hat⟩
      | succ j =>
        exact Or.inr ⟨j, q, by rw [hway, show i + 1 + j = i + (j + 1) by omega], by simpa using hat⟩

end

theorem mem_sites {root : Node} {s : Site} : s ∈ root.sites ↔ root.at? s.way = some s.node := by
  simp [sites, mem_sitesFrom]

theorem mem_sites_cons {n m : Node} {j : Nat} (hj : n.children[j]? = some m) {s : Site} :
    ⟨j :: s.way, s.node⟩ ∈ n.sites ↔ s ∈ m.sites := by
  rw [mem_sites, mem_sites, at?, hj]
  rfl

end Node

namespace Site

theorem mem_row {way : Way} {i : Nat} {ns : List Node} {c : Site} :
    c ∈ row way i ns ↔ ∃ j, c.way = way ++ [i + j] ∧ ns[j]? = some c.node := by
  induction ns generalizing i with
  | nil => simp [row]
  | cons n rest ih =>
    rw [row, List.mem_cons, ih]
    constructor
    · rintro (rfl | ⟨j, hway, hj⟩)
      · exact ⟨0, by simp, by simp⟩
      · exact ⟨j + 1, by rw [hway, show i + 1 + j = i + (j + 1) by omega], by simpa using hj⟩
    · rintro ⟨j, hway, hj⟩
      cases j with
      | zero =>
        left
        cases c
        simp_all
      | succ j =>
        exact Or.inr ⟨j, by rw [hway, show i + 1 + j = i + (j + 1) by omega], by simpa using hj⟩

theorem mem_children {s c : Site} :
    c ∈ s.children ↔ ∃ j, c.way = s.way ++ [j] ∧ s.node.children[j]? = some c.node := by
  simp [children, mem_row]

/-- In one tree the way determines the site. -/
theorem eq_of_way_eq {root : Node} {s t : Site} (hs : root.at? s.way = some s.node)
    (ht : root.at? t.way = some t.node) (h : s.way = t.way) : s = t := by
  cases s
  cases t
  cases h
  cases hs.symm.trans ht
  rfl

/-- A child of a site of a tree is a site of that tree. -/
theorem at?_of_mem_children {root : Node} {s c : Site} (hs : root.at? s.way = some s.node)
    (hc : c ∈ s.children) : root.at? c.way = some c.node := by
  obtain ⟨j, hway, hj⟩ := mem_children.mp hc
  rw [hway, Node.at?_append, hs]
  simp [Node.at?, hj]

theorem at?_of_mem_namedChildren {root : Node} {s c : Site} (hs : root.at? s.way = some s.node)
    (hc : c ∈ s.namedChildren) : root.at? c.way = some c.node :=
  at?_of_mem_children hs (mem_children_of_mem_namedChildren hc)

theorem at?_of_child? {root : Node} {s c : Site} {f : Field}
    (hs : root.at? s.way = some s.node) (hc : s.child? f = some c) :
    root.at? c.way = some c.node :=
  at?_of_mem_children hs (mem_children_of_child? hc)

/-- A site has one parent. -/
theorem parent_unique {root : Node} {s t c : Site} (hs : root.at? s.way = some s.node)
    (ht : root.at? t.way = some t.node) (hcs : c ∈ s.children) (hct : c ∈ t.children) : s = t := by
  obtain ⟨i, hi, -⟩ := mem_children.mp hcs
  obtain ⟨j, hj, -⟩ := mem_children.mp hct
  exact eq_of_way_eq hs ht (List.append_inj_left' (hi.symm.trans hj) rfl)

/-- No site stands twice among the children of a site. -/
theorem nodup_children (s : Site) : s.children.Nodup := by
  have hrow : ∀ i ns, (row s.way i ns).Nodup := by
    intro i ns
    induction ns generalizing i with
    | nil => exact List.nodup_nil
    | cons n rest ih =>
      rw [row, List.nodup_cons]
      refine ⟨fun h => ?_, ih (i + 1)⟩
      obtain ⟨j, hway, -⟩ := mem_row.mp h
      have : i = i + 1 + j := by simpa using hway
      omega
  exact hrow 0 s.node.children

theorem nodup_namedChildren (s : Site) : s.namedChildren.Nodup := s.nodup_children.filter _

theorem way_ne_nil_of_mem_children {s c : Site} (h : c ∈ s.children) : c.way ≠ [] := by
  obtain ⟨j, hway, -⟩ := mem_children.mp h
  simp [hway]

theorem length_way_of_mem_children {s c : Site} (h : c ∈ s.children) :
    c.way.length = s.way.length + 1 := by
  obtain ⟨j, hway, -⟩ := mem_children.mp h
  simp [hway]

end Site

end GoMeter
