import GoMeter.Proofs.Measure
import Mathlib.Algebra.BigOperators.Group.List.Basic
import Mathlib.Algebra.Ring.Int.Defs

/-!
# What the count of a function weighs

The count of a body goes on from a node to its named children, but not into a function literal, and of
a keyed element into the value only. The functions of a file are listed by a traversal that enters
everything. Together they cut the tree into regions: no two functions weigh the same site, so the
sizes of all functions add up to what the weighed sites contribute, each taken once.

* `Placed.units`, `Placed.onward`: what one node adds to the count, and where the count goes on.
* `Traversal.counting`: the traversal that the count makes; `Site.weighed`: what a function weighs.
* `countBody_eq_sum`: the size of a function is the sum over what it weighs.
* `disjoint_weighed`: two functions weigh no site in common.
* `sizes_weigh_each_site_once`: the sizes of a file add up to the units of its weighed sites.
-/

namespace GoMeter

/-! ## One step of the count -/

/-- Every node falls into its category by its kind: comments, function literals and keyed elements are
apart, and the count enters all others. -/
theorem Category.of_cases (parent : Option Kind) (n : Node) :
    (n.kind = .comment ∧ of parent n = .skipped) ∨
      (n.kind = .funcLiteral ∧ of parent n = .nestedFunction) ∨
      (n.kind = .keyedElement ∧ of parent n = .keyValue) ∨
      ((n.kind ≠ .comment ∧ n.kind ≠ .funcLiteral ∧ n.kind ≠ .keyedElement) ∧
        (of parent n = .counted ∨ of parent n = .grouping ∨ of parent n = .other)) := by
  unfold of
  split
  · next h => exact .inl ⟨h, rfl⟩
  · next h => exact .inr (.inl ⟨h, rfl⟩)
  · next h => exact .inr (.inr (.inl ⟨h, rfl⟩))
  · next h => split_ifs <;> simp [h]
  · next h => split_ifs <;> simp [h]
  · next hcomment hliteral hkeyed _ _ =>
    refine .inr (.inr (.inr ⟨⟨hcomment, hliteral, hkeyed⟩, ?_⟩))
    split_ifs <;> simp

/-- The nodes with which the count goes on below a node, in the order in which it takes them. -/
def Node.onward (n : Node) : List Node :=
  match n.kind with
  | .comment | .funcLiteral => []
  | .keyedElement => (keyedTarget? n).toList
  | _ => n.namedChildren.reverse

theorem Node.sizes_onward_lt (n : Node) : Node.sizes n.onward < n.size := by
  unfold onward
  split
  · exact Placed.size_pos n
  · exact Placed.size_pos n
  · cases h : keyedTarget? n with
    | none => exact Placed.size_pos n
    | some target =>
      have := size_lt_of_keyedTarget? h
      simpa using this
  · rw [sizes_reverse]
    exact sizes_namedChildren_lt n

namespace Placed

/-- The units that a node adds to the count. -/
def units (p : Placed) : Int :=
  match p.category with
  | .skipped | .keyValue => 0
  | .nestedFunction => 1
  | .counted => weight p.node + embeddedPointer p.node
  | .grouping | .other => embeddedPointer p.node

/-- Where the count goes on from a node. -/
def onward (p : Placed) : List Placed := p.node.onward.map fun n => ⟨some p.node.kind, n⟩

theorem sizes_onward_lt (p : Placed) : sizes p.onward < p.node.size := by
  have := p.node.sizes_onward_lt
  simpa [sizes, onward, Function.comp_def] using this

theorem onward_of_entered {p : Placed}
    (h : p.node.kind ≠ .comment ∧ p.node.kind ≠ .funcLiteral ∧ p.node.kind ≠ .keyedElement) :
    p.onward = p.below.reverse := by
  obtain ⟨hcomment, hliteral, hkeyed⟩ := h
  have hnodes : p.node.onward = p.node.namedChildren.reverse := by
    unfold Node.onward
    split <;> simp_all
  rw [onward, hnodes, below, List.map_reverse]

end Placed

/-- The count takes a node, adds its units and goes on below it. -/
theorem tally_cons (total : Int) (p : Placed) (pending : List Placed) :
    tally total (p :: pending) = tally (total + p.units) (p.onward ++ pending) := by
  rw [tally, Placed.units]
  rcases Category.of_cases p.parent p.node with
    ⟨hkind, hcategory⟩ | ⟨hkind, hcategory⟩ | ⟨hkind, hcategory⟩ | ⟨hkinds, hcategory⟩
  · simp [Placed.category, hcategory, Placed.onward, Node.onward, hkind]
  · simp [Placed.category, hcategory, Placed.onward, Node.onward, hkind]
  · have honward : p.onward = (keyedTarget? p.node).toList.map fun n => ⟨some p.node.kind, n⟩ := by
      simp [Placed.onward, Node.onward, hkind]
    rw [honward, show p.category = .keyValue from hcategory]
    cases h : keyedTarget? p.node <;> simp
  · rw [Placed.onward_of_entered hkinds]
    rcases hcategory with hcategory | hcategory | hcategory
    · simp [Placed.category, hcategory, Int.add_assoc]
    · simp [Placed.category, hcategory]
    · simp [Placed.category, hcategory]

/-! ## The traversal of the count -/

namespace Site

/-- The part of a keyed element that is counted. -/
def keyedTarget? (s : Site) : Option Site :=
  match s.child? .value with
  | some value => some value
  | none => (s.namedChildren.filter fun c => c.node.kind ≠ .comment).getLast?

/-- The sites with which the count goes on. -/
def onward (s : Site) : List Site :=
  match s.node.kind with
  | .comment | .funcLiteral => []
  | .keyedElement => s.keyedTarget?.toList
  | _ => s.namedChildren.reverse

theorem map_node_keyedTarget? (s : Site) :
    s.keyedTarget?.map node = GoMeter.keyedTarget? s.node := by
  rw [keyedTarget?, GoMeter.keyedTarget?, ← map_node_child?]
  cases s.child? .value with
  | some value => rfl
  | none =>
    rw [Option.map_none, ← map_node_namedChildren,
      ← map_node_filter (fun c => c.kind ≠ .comment), List.getLast?_map]

@[simp] theorem map_node_onward (s : Site) : s.onward.map node = s.node.onward := by
  unfold onward Node.onward
  split
  · rfl
  · rfl
  · rw [← map_node_keyedTarget?]
    cases s.keyedTarget? <;> rfl
  · rw [List.map_reverse, map_node_namedChildren]

theorem mem_children_of_keyedTarget? {s c : Site} (h : s.keyedTarget? = some c) :
    c ∈ s.children := by
  unfold keyedTarget? at h
  cases hvalue : s.child? .value with
  | some value =>
    rw [hvalue] at h
    cases h
    exact mem_children_of_child? hvalue
  | none =>
    rw [hvalue] at h
    exact mem_children_of_mem_namedChildren (List.mem_filter.mp (List.mem_of_getLast? h)).1

end Site

/-- The traversal that the count of a body makes. -/
def Traversal.counting : Traversal where
  next := Site.onward
  subset_children s c hc := by
    unfold Site.onward at hc
    split at hc
    · cases hc
    · cases hc
    · exact Site.mem_children_of_keyedTarget? (Option.mem_toList.mp hc)
    · exact Site.mem_children_of_mem_namedChildren (List.mem_reverse.mp hc)
  nodup_next s := by
    unfold Site.onward
    split
    · exact List.nodup_nil
    · exact List.nodup_nil
    · cases s.keyedTarget? <;> simp
    · exact List.nodup_reverse.mpr s.nodup_namedChildren

/-- The kind of the parent of the node at the end of a way. -/
def Node.kindAbove? (root : Node) (way : Way) : Option Kind :=
  if way = [] then none else (root.at? way.dropLast).map Node.kind

namespace Site

variable {root : Node} {s c : Site}

/-- A site as the count takes it: its node with the kind of the parent. -/
def placed (root : Node) (s : Site) : Placed := ⟨root.kindAbove? s.way, s.node⟩

/-- The units that a site contributes to the function that weighs it. -/
def units (root : Node) (s : Site) : Int := (s.placed root).units

theorem placed_of_mem_children (hs : root.at? s.way = some s.node) (hc : c ∈ s.children) :
    c.placed root = ⟨some s.node.kind, c.node⟩ := by
  obtain ⟨j, hway, -⟩ := mem_children.mp hc
  simp [placed, Node.kindAbove?, hway, hs]

theorem map_placed_of_subset_children (hs : root.at? s.way = some s.node) {cs : List Site}
    (hcs : cs ⊆ s.children) :
    cs.map (placed root) = (cs.map node).map fun c => ⟨some s.node.kind, c⟩ := by
  rw [List.map_map]
  exact List.map_congr_left fun c hc => placed_of_mem_children hs (hcs hc)

/-- The count goes on with the sites that the traversal enters. -/
theorem onward_placed (hs : root.at? s.way = some s.node) :
    (s.placed root).onward = (Traversal.counting.next s).map (placed root) := by
  rw [map_placed_of_subset_children hs (Traversal.counting.subset_children s)]
  exact congrArg (List.map _) s.map_node_onward.symm

end Site

/-- The units counted by a work list are those of the sites that the traversal meets. -/
theorem tally_map_placed {root : Node} (total : Int) (ss : List Site)
    (hss : ∀ s ∈ ss, root.at? s.way = some s.node) :
    tally total (ss.map (Site.placed root)) =
      total + ((ss.flatMap Traversal.counting.reached).map (Site.units root)).sum := by
  induction h : Node.sizes (ss.map Site.node) using Nat.strongRecOn generalizing total ss with
  | ind size ih =>
    subst h
    cases ss with
    | nil => simp [tally]
    | cons s rest =>
      have hs := hss s List.mem_cons_self
      have hsmaller : Node.sizes ((s.onward ++ rest).map Site.node) <
          Node.sizes ((s :: rest).map Site.node) := by
        have := s.node.sizes_onward_lt
        simp only [List.map_append, Site.map_node_onward, Node.sizes_append, List.map_cons,
          Node.sizes_cons]
        omega
      have hbelow : ∀ c ∈ s.onward ++ rest, root.at? c.way = some c.node := by
        intro c hc
        rcases List.mem_append.mp hc with hc | hc
        · exact Site.at?_of_mem_children hs (Traversal.counting.subset_children s hc)
        · exact hss c (List.mem_cons_of_mem _ hc)
      have hrest := ih _ hsmaller (total + s.units root) (s.onward ++ rest) hbelow rfl
      rw [List.map_append] at hrest
      rw [List.map_cons, tally_cons, Site.onward_placed hs]
      refine hrest.trans ?_
      rw [List.flatMap_append, List.flatMap_cons, Traversal.reached_eq]
      simp only [List.map_append, List.sum_append, List.cons_append, List.map_cons, List.sum_cons]
      exact Int.add_assoc _ _ _

/-! ## The regions of a file -/

/-- The sites that the count of a function weighs. -/
def Site.weighed (fn : Site) : List Site :=
  (fn.child? .body).toList.flatMap Traversal.counting.reached

theorem Site.mem_weighed {fn u : Site} :
    u ∈ fn.weighed ↔ ∃ body, fn.child? .body = some body ∧ u ∈ Traversal.counting.reached body := by
  simp [weighed]

section Regions

variable {root : Node} {f g u : Site}

/-- The size of a function is the sum of the units of the sites that it weighs. -/
theorem countBody_eq_sum (hf : root.at? f.way = some f.node) :
    countBody f.node = (f.weighed.map (Site.units root)).sum := by
  rw [countBody, ← Site.map_node_child?, Site.weighed]
  cases hbody : f.child? .body with
  | none => rfl
  | some body =>
    have hchild := Site.mem_children_of_child? hbody
    have hat : ∀ s ∈ [body], root.at? s.way = some s.node := by
      simpa using Site.at?_of_mem_children hf hchild
    have hcount := tally_map_placed 0 [body] hat
    rw [List.map_singleton, Site.placed_of_mem_children hf hchild, Int.zero_add] at hcount
    exact hcount

theorem nodup_weighed (f : Site) : f.weighed.Nodup := by
  unfold Site.weighed
  cases f.child? .body with
  | none => exact List.nodup_nil
  | some body => simpa using Traversal.counting.nodup_reached body

/-- The count of a function meets nothing inside a function literal, unless the function is the
literal or stands inside it. -/
theorem way_prefix_of_weighed_inside {literal : Site} (hf : root.at? f.way = some f.node)
    (hliteral : root.at? literal.way = some literal.node) (hkind : literal.node.kind = .funcLiteral)
    (hu : u ∈ f.weighed) (hinside : literal.way <+: u.way) (hne : u ≠ literal) :
    literal.way <+: f.way := by
  obtain ⟨body, hbody, hu⟩ := Site.mem_weighed.mp hu
  have hchild := Site.mem_children_of_child? hbody
  have hat := Site.at?_of_mem_children hf hchild
  have hstop : Traversal.counting.next literal = [] := by
    simp [Traversal.counting, Site.onward, hkind]
  rcases List.prefix_or_prefix_of_prefix hinside (Traversal.way_prefix_of_mem_reached hu) with
    hle | hle
  · obtain ⟨j, hway, -⟩ := Site.mem_children.mp hchild
    rw [hway, List.prefix_concat_iff] at hle
    rcases hle with hsame | hle
    · rw [← hway] at hsame
      refine absurd ?_ hne
      exact Traversal.eq_of_between_of_next_nil hat hliteral hu (hsame ▸ List.prefix_rfl) hinside
        hstop
    · exact hle
  · exact absurd (Traversal.eq_of_between_of_next_nil hat hliteral hu hle hinside hstop) hne

/-- A function encloses a site if the site lies strictly below it. -/
def Site.Encloses (f u : Site) : Prop := f.way <+: u.way ∧ f.way.length < u.way.length

theorem encloses_of_mem_weighed (hu : u ∈ f.weighed) : f.Encloses u := by
  obtain ⟨body, hbody, hu⟩ := Site.mem_weighed.mp hu
  obtain ⟨j, hway, -⟩ := Site.mem_children.mp (Site.mem_children_of_child? hbody)
  have hbelow := Traversal.way_prefix_of_mem_reached hu
  have hlength := hbelow.length_le
  rw [hway] at hbelow hlength
  rw [List.length_append, List.length_singleton] at hlength
  exact ⟨(List.prefix_append _ _).trans hbelow, hlength⟩

/-- The innermost function around a site: it encloses the site, and every function that does is at or
above it. -/
structure Node.IsInnermost (root : Node) (f u : Site) : Prop where
  mem : f ∈ root.functionSites
  encloses : f.Encloses u
  innermost : ∀ g ∈ root.functionSites, g.Encloses u → g.way <+: f.way

theorem Node.IsInnermost.unique (hf : root.IsInnermost f u) (hg : root.IsInnermost g u) : f = g := by
  refine Site.eq_of_way_eq (at?_of_mem_functionSites hf.mem) (at?_of_mem_functionSites hg.mem) ?_
  have hfg := hg.innermost f hf.mem hf.encloses
  have hgf := hf.innermost g hg.mem hg.encloses
  exact hfg.eq_of_length (Nat.le_antisymm hfg.length_le hgf.length_le)

/-- Functions and methods are declared directly below the root only. -/
def Node.DeclaresAtTop (root : Node) : Prop :=
  ∀ s ∈ root.sites, s.node.kind.isFunctionDeclaration → s.way.length = 1

/-- If functions are declared at the top only, then what a function weighs has that function as the
innermost one around it. -/
theorem isInnermost_of_mem_weighed (htop : root.DeclaresAtTop) (hf : f ∈ root.functionSites)
    (hu : u ∈ f.weighed) : root.IsInnermost f u := by
  have hat := Node.at?_of_mem_functionSites hf
  refine ⟨hf, encloses_of_mem_weighed hu, fun g hg hencloses => ?_⟩
  have hatg := Node.at?_of_mem_functionSites hg
  have hkind : g.node.kind.isFunctionDeclaration ∨ g.node.kind = .funcLiteral := by
    have := Node.isFunction_of_mem_functionSites hg
    simp only [Node.isFunction, Bool.or_eq_true, Bool.and_eq_true, decide_eq_true_eq] at this
    exact this.imp_left And.left
  rcases hkind with hdeclared | hliteral
  · -- The way to a declaration has length one, so it cannot lead through another function.
    have hone := htop g (Node.mem_sites.mpr hatg) hdeclared
    have hpos := Node.length_way_of_mem_functionSites hf
    exact List.prefix_of_prefix_length_le hencloses.1 (encloses_of_mem_weighed hu).1 (by omega)
  · refine way_prefix_of_weighed_inside hat hatg hliteral hu hencloses.1 ?_
    rintro rfl
    exact Nat.lt_irrefl _ hencloses.2

theorem disjoint_weighed (htop : root.DeclaresAtTop) (hf : f ∈ root.functionSites)
    (hg : g ∈ root.functionSites) (hne : f ≠ g) : f.weighed.Disjoint g.weighed := by
  intro u huf hug
  exact hne ((isInnermost_of_mem_weighed htop hf huf).unique
    (isInnermost_of_mem_weighed htop hg hug))

theorem mem_sites_of_mem_weighed (hf : f ∈ root.functionSites) (hu : u ∈ f.weighed) :
    u ∈ root.sites := by
  obtain ⟨body, hbody, hu⟩ := Site.mem_weighed.mp hu
  have hat := Site.at?_of_child? (Node.at?_of_mem_functionSites hf) hbody
  exact Node.mem_sites.mpr (Traversal.at?_of_mem_reached hat hu)

end Regions

/-- Whether some function of a file weighs a site. -/
def Node.Weighs (root : Node) (u : Site) : Prop := ∃ f ∈ root.functionSites, u ∈ f.weighed

open scoped Classical in
/-- What the functions weigh, one after the other, is every weighed site of the tree once. -/
theorem flatMap_weighed_perm {root : Node} (htop : root.DeclaresAtTop) :
    (root.functionSites.flatMap Site.weighed).Perm (root.sites.filter root.Weighs) := by
  have hnodup : (root.functionSites.flatMap Site.weighed).Nodup := by
    rw [List.nodup_flatMap]
    refine ⟨fun f _ => nodup_weighed f, ?_⟩
    exact root.nodup_functionSites.imp_of_mem fun hf hg hne => disjoint_weighed htop hf hg hne
  rw [List.perm_ext_iff_of_nodup hnodup (root.nodup_sites.filter _)]
  intro u
  rw [List.mem_flatMap, List.mem_filter, decide_eq_true_eq]
  constructor
  · rintro ⟨f, hf, hu⟩
    exact ⟨mem_sites_of_mem_weighed hf hu, f, hf, hu⟩
  · rintro ⟨-, f, hf, hu⟩
    exact ⟨f, hf, hu⟩

theorem units_of_funcLiteral (root : Node) {s : Site} (h : s.node.kind = .funcLiteral) :
    s.units root = 1 := by
  simp [Site.units, Placed.units, Placed.category, Category.of, Site.placed, h]

/-- The records of a file hold the sizes of its functions. -/
theorem map_size_of_measure {src : Source} {root : Node} {records : List FunctionRecord}
    (h : measure src root = .ok records) :
    records.map FunctionRecord.size = root.functions.map countBody := by
  obtain ⟨lines, -, rfl⟩ := measure_eq_ok_iff.mp h
  rw [List.map_map]
  rfl

open scoped Classical in
/-- Let functions be declared at the top only. Then no two functions of a file weigh the same site, and
the sizes that its records report add up to the units of the sites that some function weighs, each
taken once. A site is weighed for the innermost function around it and for no other: a function literal
is one unit of the function around it, and what is inside it counts for the literal or for functions
inside it only. -/
theorem sizes_weigh_each_site_once {root : Node} (htop : root.DeclaresAtTop) :
    root.functionSites.map Site.node = root.functions ∧ root.functionSites.Nodup ∧
      (∀ f ∈ root.functionSites,
        f.weighed.Nodup ∧ countBody f.node = (f.weighed.map (Site.units root)).sum) ∧
      (∀ f ∈ root.functionSites, ∀ g ∈ root.functionSites, f ≠ g → f.weighed.Disjoint g.weighed) ∧
      (∀ src records, measure src root = .ok records → (records.map FunctionRecord.size).sum =
        ((root.sites.filter root.Weighs).map (Site.units root)).sum) ∧
      (∀ f ∈ root.functionSites, ∀ u ∈ f.weighed, root.IsInnermost f u) ∧
      ∀ u : Site, u.node.kind = .funcLiteral → u.units root = 1 := by
  have hcount : ∀ f ∈ root.functionSites,
      countBody f.node = (f.weighed.map (Site.units root)).sum :=
    fun f hf => countBody_eq_sum (Node.at?_of_mem_functionSites hf)
  refine ⟨root.map_node_functionSites, root.nodup_functionSites,
    fun f hf => ⟨nodup_weighed f, hcount f hf⟩, fun f hf g hg => disjoint_weighed htop hf hg,
    fun src records h => ?_, fun f hf u hu => isInnermost_of_mem_weighed htop hf hu,
    fun u => units_of_funcLiteral root⟩
  calc (records.map FunctionRecord.size).sum
      = (root.functionSites.map fun f => countBody f.node).sum := by
        rw [map_size_of_measure h, ← root.map_node_functionSites, List.map_map]
        rfl
    _ = (root.functionSites.map fun f => (f.weighed.map (Site.units root)).sum).sum := by
        rw [List.map_congr_left hcount]
    _ = ((root.functionSites.flatMap Site.weighed).map (Site.units root)).sum := by
        rw [List.map_flatMap, List.flatMap_def, List.sum_flatten, List.map_map]
        rfl
    _ = ((root.sites.filter root.Weighs).map (Site.units root)).sum :=
        ((flatMap_weighed_perm htop).map _).sum_eq

/-- A function that calls a literal in which a name stands. -/
def nestedLiteralSource : Source := .ofString "package p\n\nfunc f() \x7b func() \x7b x \x7d() \x7d\n"

/-- The tree of this function: the literal stands in the body and has one of its own. -/
def nestedLiteral : Node :=
  .branch .sourceFile 0 39 none
    [.branch .packageClause 0 9 none [.branch .packageIdentifier 8 9 none []],
     .branch .functionDeclaration 11 38 none
      [.branch .identifier 16 17 (some .name) [],
       .branch .parameterList 17 19 (some .parameters) [],
       .branch .block 20 38 (some .body)
        [.branch .expressionStatement 22 36 none
          [.branch .callExpression 22 36 none
            [.branch .funcLiteral 22 34 (some .callee)
              [.branch .parameterList 26 28 (some .parameters) [],
               .branch .block 29 34 (some .body)
                [.branch .expressionStatement 31 32 none [.branch .identifier 31 32 none []]]],
             .branch .argumentList 34 36 (some .arguments) []]]]]]

open scoped Classical in
theorem nestedLiteral_weighed_once :
    ∃ records, measure nestedLiteralSource nestedLiteral = .ok records ∧
      records.map FunctionRecord.size = [3, 2] ∧
      5 = ((nestedLiteral.sites.filter nestedLiteral.Weighs).map (Site.units nestedLiteral)).sum := by
  have htop : nestedLiteral.DeclaresAtTop := by
    unfold Node.DeclaresAtTop
    decide +kernel
  have hrecords : measure nestedLiteralSource nestedLiteral =
      .ok [⟨3, 3, 0, false, false⟩, ⟨3, 2, 0, false, false⟩] := by decide +kernel
  refine ⟨_, hrecords, rfl, ?_⟩
  exact (sizes_weigh_each_site_once htop).2.2.2.2.1 _ _ hrecords

end GoMeter
