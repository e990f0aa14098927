import GoMeter.Proofs.Syntax.Site
import Mathlib.Data.List.Infix
import Mathlib.Data.List.Nodup

/-!
# Traversals of a tree

A traversal goes on from a site to some of its children. What it meets is told by recursion here; the
work lists of the program meet the same sites in the same order.

* `Traversal`: where to go on from a site; `Traversal.reached`: the sites met from there.
* `Traversal.at?_of_mem_reached`, `Traversal.way_prefix_of_mem_reached`: what is met lies in the tree
  from whose top the traversal starts.
* `Traversal.nodup_reached`: no site is met twice.
* `Traversal.mem_reached_trans`, `Traversal.mem_reached_of_between`: a site is met by way of the sites
  above it, and only so.
* `Site.named`: the sites that the work list of named nodes meets below a site; `Site.mem_named` tells
  them by the way to them.
-/

namespace GoMeter

/-- Where to go on from a site: to children of it, to none of them twice. -/
structure Traversal where
  next : Site → List Site
  subset_children : ∀ s, next s ⊆ s.children
  nodup_next : ∀ s, (next s).Nodup

namespace Traversal

variable (t : Traversal)

/-- The sites met from a site on, each before those met by way of it. -/
def reached (s : Site) : List Site :=
  s :: (t.next s).attach.flatMap fun c => reached c.val
termination_by s.node.size
decreasing_by exact Site.size_lt_of_mem_children (t.subset_children s c.property)

theorem reached_eq (s : Site) : t.reached s = s :: (t.next s).flatMap t.reached := by
  rw [reached]
  simp only [List.flatMap_def, List.map_attach_eq_pmap, List.pmap_eq_map]

theorem reached_of_next_nil {s : Site} (h : t.next s = []) : t.reached s = [s] := by
  rw [reached_eq, h]
  rfl

/-- What holds at a site and is handed on to the children that a traversal enters holds of every site
it meets. -/
theorem reached_induction {P : Site → Prop} (hstep : ∀ s, P s → ∀ c ∈ t.next s, P c) {s : Site}
    (hs : P s) : ∀ u ∈ t.reached s, P u := by
  intro u hu
  rw [reached_eq] at hu
  rcases List.mem_cons.mp hu with rfl | hu
  · exact hs
  · obtain ⟨c, hc, hu⟩ := List.mem_flatMap.mp hu
    exact reached_induction hstep (hstep s hs c hc) u hu
termination_by s.node.size
decreasing_by exact Site.size_lt_of_mem_children (t.subset_children s hc)

variable {t} {root : Node} {s u v : Site}

theorem at?_of_mem_reached (hs : root.at? s.way = some s.node) (hu : u ∈ t.reached s) :
    root.at? u.way = some u.node :=
  t.reached_induction (P := fun u => root.at? u.way = some u.node)
    (fun _ hs _ hc => Site.at?_of_mem_children hs (t.subset_children _ hc)) hs u hu

theorem way_prefix_of_mem_reached (hu : u ∈ t.reached s) : s.way <+: u.way := by
  refine t.reached_induction (P := fun u => s.way <+: u.way) (fun v hv c hc => ?_)
    List.prefix_rfl u hu
  obtain ⟨j, hway, -⟩ := Site.mem_children.mp (t.subset_children v hc)
  rw [hway]
  exact hv.trans (List.prefix_append _ _)

/-- Different children of a site lead to different sites. -/
theorem eq_of_mem_reached_children {c d : Site} (hc : c ∈ s.children) (hd : d ∈ s.children)
    (huc : u ∈ t.reached c) (hud : u ∈ t.reached d) : c = d := by
  obtain ⟨i, hi, hci⟩ := Site.mem_children.mp hc
  obtain ⟨j, hj, hdj⟩ := Site.mem_children.mp hd
  have hle : c.way.length ≤ d.way.length := by rw [hi, hj]; simp
  have habove := List.prefix_of_prefix_length_le (way_prefix_of_mem_reached huc)
    (way_prefix_of_mem_reached hud) hle
  have hway : c.way = d.way := habove.eq_of_length (by rw [hi, hj]; simp)
  have hij : i = j := by simpa [hi, hj] using hway
  subst hij
  cases c
  cases d
  cases hway
  cases hci.symm.trans hdj
  rfl

theorem nodup_reached (t : Traversal) (s : Site) : (t.reached s).Nodup := by
  induction h : s.node.size using Nat.strongRecOn generalizing s with
  | ind size ih =>
    subst h
    rw [reached_eq, List.nodup_cons, List.nodup_flatMap]
    refine ⟨fun hmem => ?_, fun c hc => ?_, ?_⟩
    · obtain ⟨c, hc, hs⟩ := List.mem_flatMap.mp hmem
      have hlength := (way_prefix_of_mem_reached hs).length_le
      rw [Site.length_way_of_mem_children (t.subset_children s hc)] at hlength
      omega
    · exact ih _ (Site.size_lt_of_mem_children (t.subset_children s hc)) c rfl
    · refine (t.nodup_next s).imp_of_mem fun {c d} hc hd hne => ?_
      intro u huc hud
      exact hne (eq_of_mem_reached_children (t.subset_children s hc) (t.subset_children s hd)
        huc hud)

/-- What is met by way of a site that is met is met. -/
theorem mem_reached_trans (hv : v ∈ t.reached s) (hu : u ∈ t.reached v) : u ∈ t.reached s := by
  induction h : s.node.size using Nat.strongRecOn generalizing s with
  | ind size ih =>
    subst h
    rw [reached_eq] at hv
    rcases List.mem_cons.mp hv with rfl | hv
    · exact hu
    · obtain ⟨c, hc, hv⟩ := List.mem_flatMap.mp hv
      have hbelow := ih _ (Site.size_lt_of_mem_children (t.subset_children s hc)) hv rfl
      rw [reached_eq]
      exact List.mem_cons_of_mem _ (List.mem_flatMap.mpr ⟨c, hc, hbelow⟩)

/-- A site is met by way of every site that lies between it and the start. -/
theorem mem_reached_of_between (hs : root.at? s.way = some s.node)
    (hv : root.at? v.way = some v.node) (hu : u ∈ t.reached s) (hsv : s.way <+: v.way)
    (hvu : v.way <+: u.way) : u ∈ t.reached v := by
  induction h : s.node.size using Nat.strongRecOn generalizing s with
  | ind size ih =>
    subst h
    by_cases hsame : s.way = v.way
    · rwa [← Site.eq_of_way_eq hs hv hsame]
    · have hlonger : s.way.length < v.way.length := by
        refine Nat.lt_of_le_of_ne hsv.length_le fun hlength => hsame (hsv.eq_of_length hlength)
      rw [reached_eq] at hu
      rcases List.mem_cons.mp hu with rfl | hu
      · have := hvu.length_le
        omega
      · -- The child that leads to `u` is the one that leads to `v`.
        obtain ⟨c, hc, hu⟩ := List.mem_flatMap.mp hu
        have hchild := t.subset_children s hc
        have hcv : c.way <+: v.way :=
          List.prefix_of_prefix_length_le (way_prefix_of_mem_reached hu) hvu
            (by rw [Site.length_way_of_mem_children hchild]; omega)
        exact ih _ (Site.size_lt_of_mem_children hchild) (Site.at?_of_mem_children hs hchild) hu hcv
          rfl

/-- Nothing below a site where the traversal stops is met from above. -/
theorem eq_of_between_of_next_nil (hs : root.at? s.way = some s.node)
    (hv : root.at? v.way = some v.node) (hu : u ∈ t.reached s) (hsv : s.way <+: v.way)
    (hvu : v.way <+: u.way) (hstop : t.next v = []) : u = v := by
  have := mem_reached_of_between hs hv hu hsv hvu
  rw [t.reached_of_next_nil hstop] at this
  exact List.mem_singleton.mp this

/-- The traversal that enters every named child. -/
def named : Traversal where
  next := Site.namedChildren
  subset_children _ := List.filter_subset_self _
  nodup_next := Site.nodup_namedChildren

/-- The traversal that enters every child. -/
def all : Traversal where
  next := Site.children
  subset_children s := List.Subset.refl s.children
  nodup_next := Site.nodup_children

end Traversal

/-! ## All sites of a tree -/

mutual

theorem Node.sitesFrom_eq_reached (way : Way) (n : Node) :
    n.sitesFrom way = Traversal.all.reached ⟨way, n⟩ := by
  cases n with
  | mk label below =>
    rw [Node.sitesFrom, Traversal.reached_eq, Node.sitesAmong_eq_reached]
    rfl

theorem Node.sitesAmong_eq_reached (way : Way) (i : Nat) (ns : List Node) :
    Node.sitesAmong way i ns = (Site.row way i ns).flatMap Traversal.all.reached := by
  cases ns with
  | nil => rfl
  | cons n rest =>
    rw [Node.sitesAmong, Site.row, List.flatMap_cons, Node.sitesFrom_eq_reached,
      Node.sitesAmong_eq_reached]

end

theorem Node.nodup_sites (root : Node) : root.sites.Nodup := by
  rw [Node.sites, Node.sitesFrom_eq_reached]
  exact Traversal.all.nodup_reached _

/-! ## The named sites of a tree -/

/-- The work list of named nodes meets what the traversal of named children meets. -/
theorem Node.walk_map_node (ss : List Site) :
    Node.walk (ss.map Site.node) = (ss.flatMap Traversal.named.reached).map Site.node := by
  induction h : Node.sizes (ss.map Site.node) using Nat.strongRecOn generalizing ss with
  | ind size ih =>
    subst h
    cases ss with
    | nil => simp [Node.walk]
    | cons s rest =>
      have hsmaller : Node.sizes ((s.namedChildren ++ rest).map Site.node) <
          Node.sizes ((s :: rest).map Site.node) := by
        have := Node.sizes_namedChildren_lt s.node
        simp only [List.map_append, Site.map_node_namedChildren, Node.sizes_append, List.map_cons,
          Node.sizes_cons]
        omega
      have hrest := ih _ hsmaller (s.namedChildren ++ rest) rfl
      rw [List.map_append, Site.map_node_namedChildren] at hrest
      rw [List.map_cons, Node.walk, hrest, List.flatMap_cons, Traversal.reached_eq]
      simp [Traversal.named]

/-- Whether every node on a way is named, the node at its start apart. -/
def Node.namedAlong : Node → Way → Bool
  | _, [] => true
  | n, i :: rest => n.children[i]?.any fun c => c.isNamed && c.namedAlong rest

namespace Site

/-- The sites strictly below a site that are reached through named ones. -/
def named (s : Site) : List Site := s.namedChildren.flatMap Traversal.named.reached

@[simp] theorem map_node_named (s : Site) : s.named.map node = s.node.named := by
  rw [named, ← Node.walk_map_node, map_node_namedChildren, Node.named]

theorem at?_of_mem_named {root : Node} {s u : Site} (hs : root.at? s.way = some s.node)
    (hu : u ∈ s.named) : root.at? u.way = some u.node := by
  obtain ⟨c, hc, hu⟩ := List.mem_flatMap.mp hu
  exact Traversal.at?_of_mem_reached (at?_of_mem_namedChildren hs hc) hu

theorem length_way_of_mem_named {s u : Site} (hu : u ∈ s.named) :
    s.way.length < u.way.length := by
  obtain ⟨c, hc, hu⟩ := List.mem_flatMap.mp hu
  have hlength := (Traversal.way_prefix_of_mem_reached hu).length_le
  rwa [length_way_of_mem_children (mem_children_of_mem_namedChildren hc)] at hlength

theorem nodup_named (s : Site) : s.named.Nodup :=
  (List.nodup_cons.mp (Traversal.reached_eq .named s ▸ Traversal.nodup_reached .named s)).2

/-- The traversal of named children meets the start and the named sites below it. -/
theorem mem_reached_iff {s u : Site} :
    u ∈ Traversal.named.reached s ↔ u = s ∨ u ∈ s.named := by
  rw [Traversal.reached_eq, List.mem_cons]
  rfl

theorem mem_named_of_namedChildren {s c u : Site} (hc : c ∈ s.namedChildren) (hu : u ∈ c.named) :
    u ∈ s.named :=
  List.mem_flatMap.mpr ⟨c, hc, mem_reached_iff.mpr (.inr hu)⟩

theorem mem_named_trans {s u v : Site} (hv : v ∈ s.named) (hu : u ∈ v.named) : u ∈ s.named := by
  obtain ⟨c, hc, hv⟩ := List.mem_flatMap.mp hv
  exact List.mem_flatMap.mpr ⟨c, hc, Traversal.mem_reached_trans hv (mem_reached_iff.mpr (.inr hu))⟩

/-- A named site below another is met from every named site between the two. -/
theorem mem_named_of_between {root : Node} {s u v : Site} (hs : root.at? s.way = some s.node)
    (hu : u ∈ s.named) (hv : v ∈ s.named) (hvu : v.way <+: u.way) (hne : u ≠ v) : u ∈ v.named := by
  have hmet : u ∈ Traversal.named.reached v :=
    Traversal.mem_reached_of_between hs (at?_of_mem_named hs hv) (mem_reached_iff.mpr (.inr hu))
      (Traversal.way_prefix_of_mem_reached (mem_reached_iff.mpr (.inr hv))) hvu
  exact (mem_reached_iff.mp hmet).resolve_left hne

theorem way_prefix_of_mem_named {s u : Site} (hu : u ∈ s.named) : s.way <+: u.way :=
  Traversal.way_prefix_of_mem_reached (mem_reached_iff.mpr (.inr hu))

/-- What the traversal of named children meets is what lies at the end of a way through named nodes. -/
theorem mem_reached_named {s u : Site} :
    u ∈ Traversal.named.reached s ↔
      ∃ q, u.way = s.way ++ q ∧ s.node.at? q = some u.node ∧ s.node.namedAlong q := by
  induction h : s.node.size using Nat.strongRecOn generalizing s with
  | ind size ih =>
    subst h
    rw [Traversal.reached_eq, List.mem_cons, List.mem_flatMap]
    constructor
    · rintro (rfl | ⟨c, hc, hu⟩)
      · exact ⟨[], by simp, rfl, rfl⟩
      · have hchild := mem_children_of_mem_namedChildren hc
        obtain ⟨j, hj, hat⟩ := mem_children.mp hchild
        obtain ⟨q, hway, hnode, hnamed⟩ := (ih _ (size_lt_of_mem_children hchild) rfl).mp hu
        refine ⟨j :: q, by simp [hway, hj], by simp [Node.at?, hat, hnode], ?_⟩
        simp [Node.namedAlong, hat, hnamed, (List.mem_filter.mp hc).2]
    · rintro ⟨q, hway, hnode, hnamed⟩
      cases q with
      | nil =>
        left
        cases s
        cases u
        simp only [Node.at?, Option.some.injEq, List.append_nil] at hnode hway
        rw [hnode, hway]
      | cons j q =>
        right
        simp only [Node.namedAlong, Option.any_eq_true, Bool.and_eq_true] at hnamed
        obtain ⟨c, hat, hname, hnamed⟩ := hnamed
        have hchild : (⟨s.way ++ [j], c⟩ : Site) ∈ s.children := mem_children.mpr ⟨j, rfl, hat⟩
        refine ⟨⟨s.way ++ [j], c⟩, List.mem_filter.mpr ⟨hchild, hname⟩, ?_⟩
        refine (ih _ (size_lt_of_mem_children hchild) rfl).mpr ⟨q, by simp [hway], ?_, hnamed⟩
        simpa [Node.at?, hat] using hnode

/-- The named sites below a site are those at the end of a way through named nodes. -/
theorem mem_named {s u : Site} : u ∈ s.named ↔
    ∃ q ≠ [], u.way = s.way ++ q ∧ s.node.at? q = some u.node ∧ s.node.namedAlong q := by
  have hreached := mem_reached_named (s := s) (u := u)
  rw [mem_reached_iff] at hreached
  constructor
  · intro hu
    obtain ⟨q, hway, hfound⟩ := hreached.mp (.inr hu)
    refine ⟨q, ?_, hway, hfound⟩
    rintro rfl
    have hlength := length_way_of_mem_named hu
    rw [hway, List.append_nil] at hlength
    exact Nat.lt_irrefl _ hlength
  · rintro ⟨q, hne, hway, hfound⟩
    refine (hreached.mpr ⟨q, hway, hfound⟩).resolve_left ?_
    rintro rfl
    exact hne (List.self_eq_append_right.mp hway)

theorem mem_named_root {n : Node} {u : Site} :
    u ∈ (root n).named ↔ u.way ≠ [] ∧ n.at? u.way = some u.node ∧ n.namedAlong u.way := by
  rw [mem_named]
  constructor
  · rintro ⟨q, hne, hway, hfound⟩
    obtain rfl : u.way = q := hway
    exact ⟨hne, hfound⟩
  · rintro ⟨hne, hfound⟩
    exact ⟨u.way, hne, rfl, hfound⟩

end Site

end GoMeter
