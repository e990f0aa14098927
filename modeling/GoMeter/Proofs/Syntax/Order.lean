import GoMeter.Proofs.Syntax.Traversal
import Mathlib.Data.List.Lex

/-!
# The order of sites

Pre-order is the lexicographic order of ways, where a way comes before every way that goes on from it. A
traversal that enters children in their order meets sites by rising ways.

* `Site.way_lt_of_prefix`, `Site.way_lt_of_siblings`: what comes before what.
* `Traversal.pairwise_way_reached`: the ways to what a traversal meets rise.
* `Site.pairwise_way_named`: the ways to the named sites of a tree rise; `Node.pairwise_way_sites`: so do
  the ways to all of its sites.
* `Site.pair_sublist_of_prefix`, `Site.way_le_of_find?_eq_some`: by rising ways, a site is listed before
  those below it, and the first site with a property has the least way.
-/

namespace GoMeter

namespace Site

variable {s u v : Site}

theorem way_lt_of_prefix (h : s.way <+: u.way) (hlonger : s.way.length < u.way.length) :
    s.way < u.way := by
  obtain ⟨rest, hrest⟩ := h
  cases rest with
  | nil =>
    rw [← hrest, List.append_nil] at hlonger
    omega
  | cons i rest =>
    rw [← hrest]
    nth_rewrite 1 [← List.append_nil s.way]
    exact List.append_left_lt (List.nil_lt_cons i rest)

/-- What lies below an earlier sibling comes before what lies below a later one. -/
theorem way_lt_of_siblings {way : Way} {i j : Nat} (hij : i < j) (hu : way ++ [i] <+: u.way)
    (hv : way ++ [j] <+: v.way) : u.way < v.way := by
  obtain ⟨below, hbelow⟩ := hu
  obtain ⟨below', hbelow'⟩ := hv
  rw [← hbelow, ← hbelow', List.append_assoc, List.append_assoc]
  apply List.append_left_lt
  exact List.cons_lt_cons_iff.mpr (.inl hij)

/-- The children of a site take rising indices. -/
theorem pairwise_children (s : Site) :
    s.children.Pairwise fun c d => ∃ i j, i < j ∧ c.way = s.way ++ [i] ∧ d.way = s.way ++ [j] := by
  have hrow : ∀ k ns, (row s.way k ns).Pairwise fun c d =>
      ∃ i j, i < j ∧ c.way = s.way ++ [i] ∧ d.way = s.way ++ [j] := by
    intro k ns
    induction ns generalizing k with
    | nil => exact .nil
    | cons n rest ih =>
      refine .cons (fun d hd => ?_) (ih (k + 1))
      obtain ⟨j, hway, -⟩ := mem_row.mp hd
      exact ⟨k, k + 1 + j, by omega, rfl, hway⟩
  exact hrow 0 s.node.children

/-- In a list with rising ways a site comes before the sites below it. -/
theorem pair_sublist_of_prefix {l : List Site} (hrising : l.Pairwise fun a b => a.way < b.way)
    (hu : u ∈ l) (hv : v ∈ l) (h : u.way <+: v.way) (hne : u ≠ v) : [u, v].Sublist l := by
  obtain ⟨before, after, rfl⟩ := List.append_of_mem hu
  rw [List.pairwise_append] at hrising
  rw [List.mem_append, List.mem_cons] at hv
  rcases hv with hearlier | rfl | hlater
  · -- A way does not come after one that goes on from it.
    have hlt : v.way < u.way := hrising.2.2 v hearlier u List.mem_cons_self
    exact absurd hlt (List.not_lt.mpr h.le)
  · exact absurd rfl hne
  · exact (List.Sublist.cons_cons u (List.singleton_sublist.mpr hlater)).trans
      (List.sublist_append_right before _)

/-- In a list with rising ways the first site with a property has the least way. -/
theorem way_le_of_find?_eq_some {l : List Site} (hrising : l.Pairwise fun a b => a.way < b.way)
    {p : Site → Bool} (hfound : l.find? p = some s) (hu : u ∈ l) (hpu : p u = true) :
    s.way ≤ u.way := by
  obtain ⟨-, before, after, rfl, hbefore⟩ := List.find?_eq_some_iff_append.mp hfound
  rw [List.pairwise_append, List.pairwise_cons] at hrising
  rw [List.mem_append, List.mem_cons] at hu
  rcases hu with hearlier | rfl | hlater
  · have hnot := hbefore u hearlier
    rw [hpu] at hnot
    cases hnot
  · exact le_refl _
  · exact (hrising.2.1.1 u hlater).le

end Site

/-- If a traversal enters children in their order, the ways to what it meets rise. -/
theorem Traversal.pairwise_way_reached (t : Traversal)
    (hordered : ∀ s, (t.next s).Sublist s.children) (s : Site) :
    (t.reached s).Pairwise fun a b => a.way < b.way := by
  induction h : s.node.size using Nat.strongRecOn generalizing s with
  | ind size ih =>
    subst h
    rw [reached_eq, List.pairwise_cons, List.pairwise_flatMap]
    refine ⟨fun u hu => ?_, fun c hc => ?_, ?_⟩
    · obtain ⟨c, hc, hu⟩ := List.mem_flatMap.mp hu
      obtain ⟨i, hway, -⟩ := Site.mem_children.mp (t.subset_children s hc)
      have hbelow := way_prefix_of_mem_reached hu
      rw [hway] at hbelow
      refine Site.way_lt_of_prefix ((List.prefix_append _ _).trans hbelow) ?_
      have hlength := hbelow.length_le
      rw [List.length_append, List.length_singleton] at hlength
      omega
    · exact ih _ (Site.size_lt_of_mem_children (t.subset_children s hc)) c rfl
    · refine (s.pairwise_children.sublist (hordered s)).imp ?_
      rintro c d ⟨i, j, hij, hc, hd⟩ u hu v hv
      apply Site.way_lt_of_siblings hij
      · rw [← hc]
        exact way_prefix_of_mem_reached hu
      · rw [← hd]
        exact way_prefix_of_mem_reached hv

/-- The ways to the named sites below a site rise. -/
theorem Site.pairwise_way_named (s : Site) : s.named.Pairwise fun a b => a.way < b.way := by
  have hreached := Traversal.named.pairwise_way_reached (fun _ => List.filter_sublist) s
  rw [Traversal.reached_eq, List.pairwise_cons] at hreached
  exact hreached.2

/-- The ways to the sites of a tree rise. -/
theorem Node.pairwise_way_sites (root : Node) :
    root.sites.Pairwise fun a b => a.way < b.way := by
  rw [Node.sites, Node.sitesFrom_eq_reached]
  exact Traversal.all.pairwise_way_reached (fun _ => List.Sublist.refl _) _

end GoMeter
