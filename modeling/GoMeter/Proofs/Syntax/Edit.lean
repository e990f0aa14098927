import GoMeter.Proofs.Syntax.Site
import Mathlib.Data.List.Infix

/-!
# Replacing a part of a tree

A node is put in place of another that looks the same from outside: same kind, field, offsets and
mark as a named node. The sites of the new tree have the ways of the old one as long as they do not
lead into the node that was replaced.

* `Node.replaceAt`: the replacement at the end of a way.
* `Edit`: a replacement by a node that looks alike.
* `Edit.apply`: the site of the new tree that a site of the old one turns into.
* `Edit.children_apply`, `Edit.namedChildren_apply`, `Edit.child?_apply`: an edit commutes with
  every step that does not look into the node that was replaced.
-/

namespace GoMeter

namespace Node

/-- Two nodes look alike from outside: they differ in what is below them at most. Whether a node is
named goes with its kind. -/
structure Alike (a b : Node) : Prop where
  kind : a.kind = b.kind
  field : a.field = b.field
  start : a.start = b.start
  stop : a.stop = b.stop
  isNamed : a.isNamed = b.isNamed

namespace Alike

variable {a b : Node}

theorem of_label (h : a.label = b.label) : a.Alike b where
  kind := congrArg Label.kind h
  field := congrArg Label.field h
  start := congrArg Label.start h
  stop := congrArg Label.stop h
  isNamed := congrArg Label.named h

theorem text (h : a.Alike b) (src : Source) : a.text src = b.text src := by
  rw [Node.text, Node.text, h.start, h.stop]

end Alike

/-- The tree with another node at the end of a way. -/
def replaceAt (n : Node) (way : Way) (new : Node) : Node :=
  match way with
  | [] => new
  | i :: rest => .mk n.label (n.children.modify i fun c => c.replaceAt rest new)

end Node

/-- The replacement of one node of a tree by one that looks alike. -/
structure Edit (root : Node) where
  old : Site
  new : Node
  at_old : root.at? old.way = some old.node
  alike : old.node.Alike new

theorem Site.getElem?_row (way : Way) (i : Nat) (ns : List Node) (j : Nat) :
    (Site.row way i ns)[j]? = ns[j]?.map fun n => ⟨way ++ [i + j], n⟩ := by
  induction ns generalizing i j with
  | nil => simp [Site.row]
  | cons n rest ih =>
    cases j with
    | zero => simp [Site.row]
    | succ j =>
      rw [Site.row, List.getElem?_cons_succ, List.getElem?_cons_succ, ih,
        show i + 1 + j = i + (j + 1) by omega]

namespace Edit

variable {root : Node} (e : Edit root)

/-- The tree after the edit. -/
def result : Node := root.replaceAt e.old.way e.new

/-- What a site of the tree turns into. -/
def apply (s : Site) : Site :=
  ⟨s.way, if s.way <+: e.old.way then s.node.replaceAt (e.old.way.drop s.way.length) e.new
    else s.node⟩

@[simp] theorem way_apply (s : Site) : (e.apply s).way = s.way := rfl

theorem apply_root : e.apply (Site.root root) = Site.root e.result := by
  simp [apply, result, Site.root]

/-- A site that is not above the replaced node stays as it is. -/
theorem apply_of_not_above {s : Site} (h : ¬ s.way <+: e.old.way) : e.apply s = s := by
  simp [apply, h]

theorem apply_old : (e.apply e.old).node = e.new := by
  simp [apply, Node.replaceAt]

theorem node_apply_of_append {s : Site} {i : Nat} {rest : Way}
    (h : e.old.way = s.way ++ i :: rest) :
    (e.apply s).node =
      .mk s.node.label (s.node.children.modify i fun c => c.replaceAt rest e.new) := by
  simp [apply, h, Node.replaceAt]

/-- A site above the replaced node: one more step leads towards it. -/
theorem exists_append {s : Site} (hne : s.way ≠ e.old.way) (habove : s.way <+: e.old.way) :
    ∃ i rest, e.old.way = s.way ++ i :: rest := by
  obtain ⟨q, hq⟩ := habove
  cases q with
  | nil => exact absurd (by simpa using hq) hne
  | cons i rest => exact ⟨i, rest, hq.symm⟩

/-- From outside a site looks the same after the edit. -/
theorem alike_apply {s : Site} (hs : root.at? s.way = some s.node) :
    s.node.Alike (e.apply s).node := by
  by_cases habove : s.way <+: e.old.way
  · by_cases hway : s.way = e.old.way
    · rw [Site.eq_of_way_eq hs e.at_old hway, apply_old]
      exact e.alike
    · obtain ⟨i, rest, happend⟩ := e.exists_append hway habove
      rw [e.node_apply_of_append happend]
      exact .of_label rfl
  · rw [e.apply_of_not_above habove]
    exact .of_label rfl

/-- The children of a site other than the replaced one, after the edit. -/
theorem children_apply {s : Site} (hne : s.way ≠ e.old.way) :
    (e.apply s).children = s.children.map e.apply := by
  by_cases habove : s.way <+: e.old.way
  · obtain ⟨i, rest, happend⟩ := e.exists_append hne habove
    refine List.ext_getElem? fun j => ?_
    rw [Site.children, way_apply, e.node_apply_of_append happend, Site.getElem?_row, Node.children,
      List.getElem?_modify, List.getElem?_map, Site.children, Site.getElem?_row]
    cases s.node.children[j]? with
    | none => rfl
    | some n =>
      by_cases hij : i = j
      · subst hij
        simp [apply, happend]
      · simp [apply, happend, hij, Ne.symm hij]
  · have hbelow : ∀ c ∈ s.children, e.apply c = c := by
      intro c hc
      obtain ⟨j, hway, -⟩ := Site.mem_children.mp hc
      refine e.apply_of_not_above fun h => habove ?_
      rw [hway] at h
      exact (List.prefix_append _ _).trans h
    rw [e.apply_of_not_above habove, List.map_congr_left hbelow, List.map_id']

/-- Children that are picked by their look. -/
theorem filter_children_apply {s : Site} (hs : root.at? s.way = some s.node)
    (hne : s.way ≠ e.old.way) {p : Node → Bool} (hp : ∀ a b, a.Alike b → p a = p b) :
    (e.apply s).children.filter (fun c => p c.node) =
      (s.children.filter fun c => p c.node).map e.apply := by
  rw [e.children_apply hne, List.filter_map]
  congr 1
  refine List.filter_congr fun c hc => ?_
  exact (hp _ _ (e.alike_apply (Site.at?_of_mem_children hs hc))).symm

theorem namedChildren_apply {s : Site} (hs : root.at? s.way = some s.node)
    (hne : s.way ≠ e.old.way) : (e.apply s).namedChildren = s.namedChildren.map e.apply :=
  e.filter_children_apply hs hne fun _ _ h => h.isNamed

theorem child?_apply {s : Site} (hs : root.at? s.way = some s.node) (hne : s.way ≠ e.old.way)
    (f : Field) : (e.apply s).child? f = (s.child? f).map e.apply := by
  have hfilter := e.filter_children_apply hs hne (p := fun n => n.field = some f)
    fun a b h => by rw [h.field]
  rw [Site.child?, Site.child?, ← List.head?_filter, ← List.head?_filter, hfilter, List.head?_map]

end Edit

end GoMeter
