import GoMeter.Proofs.Lines.Malformed
import GoMeter.Proofs.Measure
import GoMeter.Proofs.Syntax.Order

/-!
# Document order

The work list of named nodes takes the last node that was put on it and puts the children of that node
on it from the last to the first. So it meets the nodes of a tree in pre-order: the ways to them rise.
Whether offsets rise with the ways is a matter of the spans of the nodes.

* `Node.walk_eq_flatMap_preorder`: the work list lists what the recursion lists.
* `Node.RunsForward`: no node ends before it starts.
* `Node.Nested.pairwise_start_named`: if siblings do not overlap, no node starts before one that is
  listed ahead of it.
* `lineMap_of_not_hasDirective`: a file without directives is numbered from its start.
* `functions_in_document_order`: the functions of a file, their offsets and the lines of their records.
* `overlapping_out_of_order`: siblings that are ordered by their starts may overlap, and then offsets and
  lines may fall.
-/

namespace GoMeter

/-! ## Pre-order -/

namespace Node

theorem preorders_eq (ns : List Node) : preorders ns = (ns.filter isNamed).flatMap preorder := by
  induction ns with
  | nil => rfl
  | cons n rest ih => by_cases hn : n.isNamed <;> simp [preorders, hn, ih]

theorem preorder_eq (n : Node) : n.preorder = n :: preorders n.children := by
  cases n with
  | mk label below => rfl

/-- The work list meets the trees on it one after the other, each in pre-order. -/
theorem walk_eq_flatMap_preorder (pending : List Node) : walk pending = pending.flatMap preorder := by
  fun_induction walk pending with
  | case1 => rfl
  | case2 n pending ih =>
    rw [ih, List.flatMap_append, List.flatMap_cons, preorder_eq, preorders_eq]
    rfl

theorem named_eq_preorders (n : Node) : n.named = preorders n.children := by
  rw [named, walk_eq_flatMap_preorder, preorders_eq]
  rfl

end Node

/-! ## Offsets -/

namespace Node

/-- No named node below a node ends before it starts. -/
def RunsForward (root : Node) : Prop := ∀ n ∈ preorders root.children, n.start ≤ n.stop

instance (root : Node) : Decidable root.RunsForward :=
  inferInstanceAs (Decidable (∀ n ∈ preorders root.children, n.start ≤ n.stop))

theorem mem_preorders_of_mem_preorder {n child : Node} {ns : List Node}
    (hchild : child ∈ ns.filter isNamed) (hn : n ∈ child.preorder) : n ∈ preorders ns :=
  preorders_eq ns ▸ List.mem_flatMap.mpr ⟨child, hchild, hn⟩

theorem RunsForward.of_mem {root child : Node} (h : root.RunsForward)
    (hchild : child ∈ root.namedChildren) : child.RunsForward := fun n hn =>
  h n (mem_preorders_of_mem_preorder hchild (preorder_eq child ▸ List.mem_cons_of_mem child hn))

namespace Nested

variable {apart : Node → Node → Prop} {root : Node}

/-- What is named below a node lies inside it. -/
theorem inside_of_mem_preorders (h : root.Nested apart) :
    ∀ n ∈ preorders root.children, root.start ≤ n.start ∧ n.stop ≤ root.stop := by
  induction h with
  | @mk label below inside _ _ ih =>
    intro n hn
    rw [preorders_eq] at hn
    obtain ⟨child, hchild, hn⟩ := List.mem_flatMap.mp hn
    have hbelow : child ∈ below := (List.mem_filter.mp hchild).1
    obtain ⟨hstart, hstop⟩ := inside child hbelow
    rw [preorder_eq] at hn
    rcases List.mem_cons.mp hn with rfl | hn
    · exact ⟨hstart, hstop⟩
    · obtain ⟨hstart', hstop'⟩ := ih child hbelow n hn
      exact ⟨hstart.trans hstart', hstop'.trans hstop⟩

/-- If siblings do not overlap, no node starts before one that pre-order lists ahead of it. -/
theorem pairwise_start_preorders (h : root.Nested EndsFirst) (hforward : root.RunsForward) :
    (preorders root.children).Pairwise fun a b => a.start ≤ b.start := by
  induction h with
  | @mk label below inside siblings nested ih =>
    have hinside : ∀ child ∈ below, ∀ n ∈ child.preorder,
        child.start ≤ n.start ∧ n.stop ≤ child.stop := by
      intro child hchild n hn
      rw [preorder_eq] at hn
      rcases List.mem_cons.mp hn with rfl | hn
      · exact ⟨Nat.le_refl _, Nat.le_refl _⟩
      · exact (nested child hchild).inside_of_mem_preorders n hn
    rw [preorders_eq, List.pairwise_flatMap]
    constructor
    · intro child hchild
      have hbelow : child ∈ below := (List.mem_filter.mp hchild).1
      rw [preorder_eq]
      exact .cons (fun n hn => ((nested child hbelow).inside_of_mem_preorders n hn).1)
        (ih child hbelow (hforward.of_mem hchild))
    · refine (siblings.filter isNamed).imp_of_mem fun {a b} ha hb hab x hx y hy => ?_
      have hab : a.stop ≤ b.start := hab
      have hspan : x.start ≤ x.stop := hforward x (mem_preorders_of_mem_preorder ha hx)
      obtain ⟨-, hstop⟩ := hinside a (List.mem_filter.mp ha).1 x hx
      obtain ⟨hstart, -⟩ := hinside b (List.mem_filter.mp hb).1 y hy
      omega

/-- If siblings do not overlap, the work list meets the named nodes by rising offsets. -/
theorem pairwise_start_named (h : root.Nested EndsFirst) (hforward : root.RunsForward) :
    root.named.Pairwise fun a b => a.start ≤ b.start := by
  rw [named_eq_preorders]
  exact h.pairwise_start_preorders hforward

end Nested

end Node

/-! ## Lines -/

/-- Some comment of a file stands where a line directive counts and is one, well formed or not. -/
def HasDirective (src : Source) (root : Node) : Prop :=
  ∃ c, root.Reaches c ∧ c.kind = .comment ∧ InEffect src c ∧
    Directive.named? (String.ofList (commentText src c)) ≠ .ok none

variable {src : Source} {root : Node}

/-- A file without directives is numbered from its start. -/
theorem lineMap_of_not_hasDirective (h : ¬ HasDirective src root) :
    lineMap src root = .ok (.ofList []) := by
  have hnone : ∀ c ∈ root.comments, restartOf? src c = .ok none := by
    intro c hc
    rw [root.comments_eq, List.mem_reverse] at hc
    obtain ⟨hreached, hkind⟩ := Node.mem_commentsWithin.mp hc
    unfold restartOf?
    split_ifs with heffective
    · have hnamed : Directive.named? (String.ofList (commentText src c)) = .ok none := by
        by_contra hnamed
        exact h ⟨c, hreached, hkind, isEffective_iff.mp heffective, hnamed⟩
      rw [hnamed]
    · rfl
  rw [lineMap_eq_scan, restartsOf_eq_nil hnone]
  rfl

theorem not_hasDirective_of_no_comments (h : root.commentsWithin = []) : ¬ HasDirective src root := by
  rintro ⟨c, hreached, hkind, -⟩
  have hmem := Node.mem_commentsWithin.mpr ⟨hreached, hkind⟩
  rw [h] at hmem
  cases hmem

theorem LineMap.startLine_ofList_nil (src : Source) (n : Node) :
    (LineMap.ofList []).startLine src n = src.row n.start + 1 := by
  have hnone : (LineMap.ofList []).governing? n.start = none :=
    governing?_ofList_eq_none_iff.mpr (by simp)
  rw [startLine, line, hnone]

/-- Without directives lines rise with offsets. -/
theorem LineMap.startLine_ofList_nil_le {a b : Node} (h : a.start ≤ b.start) :
    (LineMap.ofList []).startLine src a ≤ (LineMap.ofList []).startLine src b := by
  rw [startLine_ofList_nil, startLine_ofList_nil]
  have hrow := src.row_mono h
  omega

/-! ## Functions -/

theorem Node.pairwise_way_functionSites (root : Node) :
    root.functionSites.Pairwise fun f g => f.way < g.way :=
  (Site.pairwise_way_named (Site.root root)).filter _

theorem Node.Nested.pairwise_start_functions (h : root.Nested EndsFirst) (hforward : root.RunsForward) :
    root.functions.Pairwise fun f g => f.start ≤ g.start :=
  (h.pairwise_start_named hforward).filter _

/-- A file without directives in which siblings do not overlap has its records by rising lines. -/
theorem exists_records_by_lines (h : root.Nested Node.EndsFirst) (hforward : root.RunsForward)
    (hnone : ¬ HasDirective src root) :
    ∃ records, measure src root = .ok records ∧
      records.Pairwise fun r r' => r.line ≤ r'.line := by
  refine ⟨_, measure_eq_ok_iff.mpr ⟨_, lineMap_of_not_hasDirective hnone, rfl⟩, ?_⟩
  rw [List.pairwise_map]
  exact (h.pairwise_start_functions hforward).imp fun hle => LineMap.startLine_ofList_nil_le hle

/-- The functions of a file, and the calls below a node, are listed as they come in pre-order. No
function is listed twice, and one that encloses another comes before it; every record is that of the
function in its place. If the children of every node lie inside it and siblings do not overlap,
where no node ends before it starts, then no function starts before one that is listed ahead of it,
and if there are no line directives either, no line of a record is less than one before it. -/
theorem functions_in_document_order (src : Source) (root : Node) :
    root.functions = (Node.preorders root.children).filter Node.isFunction ∧
    (∀ n : Node, n.calls = (Node.preorders n.children).filter fun c => c.kind = .callExpression) ∧
    (root.functionSites.map Site.node = root.functions ∧ root.functionSites.Nodup ∧
      ∀ f ∈ root.functionSites, ∀ g ∈ root.functionSites, f.way <+: g.way → f ≠ g →
        [f, g].Sublist root.functionSites) ∧
    (∀ records, measure src root = .ok records →
      ∃ facts : FileFacts, records = root.functions.map facts.record) ∧
    (root.Nested Node.EndsFirst → root.RunsForward →
      root.functions.Pairwise (fun f g => f.start ≤ g.start) ∧
      (¬ HasDirective src root → ∃ records, measure src root = .ok records ∧
        (checkTree src root = .ok () → measureTree src root = .ok records) ∧
        records.Pairwise fun r r' => r.line ≤ r'.line)) := by
  refine ⟨?_, fun n => ?_, ⟨root.map_node_functionSites, root.nodup_functionSites, ?_⟩, ?_, ?_⟩
  · rw [Node.functions, Node.named_eq_preorders]
  · rw [Node.calls, Node.named_eq_preorders]
  · intro f hf g hg habove hne
    exact Site.pair_sublist_of_prefix root.pairwise_way_functionSites hf hg habove hne
  · intro records hrecords
    obtain ⟨lines, -, rfl⟩ := measure_eq_ok_iff.mp hrecords
    exact ⟨_, rfl⟩
  · intro hnested hforward
    refine ⟨hnested.pairwise_start_functions hforward, fun hnone => ?_⟩
    obtain ⟨records, hrecords, hlines⟩ := exists_records_by_lines hnested hforward hnone
    refine ⟨records, hrecords, fun hcheck => ?_, hlines⟩
    rw [measureTree, hcheck]
    exact hrecords

/-! ## Literals side by side -/

/-- The source of the two files below. -/
def literalsSource : Source := .ofString "package p\nfunc f() \x7b\n\n\n\x7d\n"

/-- A file with one function, in whose body stand two literals, the first with a literal inside it. Each
literal is given by its span. -/
def literalsAt (first inner second : Nat × Nat) : Node :=
  .branch .sourceFile 0 25 none
    [.branch .packageClause 0 9 none [],
     .branch .functionDeclaration 10 24 none
      [.branch .block 19 24 (some .body)
        [.branch .funcLiteral first.1 first.2 none [.branch .funcLiteral inner.1 inner.2 none []],
         .branch .funcLiteral second.1 second.2 none []]]]

/-- The second literal starts where the first ends. -/
def literalsApart : Node := literalsAt (20, 22) (21, 22) (22, 23)

theorem literalsApart_in_order :
    literalsApart.Nested Node.EndsFirst ∧ literalsApart.RunsForward ∧
      ¬ HasDirective literalsSource literalsApart ∧
      literalsApart.functions.map Node.start = [10, 20, 21, 22] ∧
      ∃ records, measureTree literalsSource literalsApart = .ok records ∧
        records.map FunctionRecord.line = [2, 2, 3, 4] ∧
        records.Pairwise fun r r' => r.line ≤ r'.line := by
  have hnested : literalsApart.Nested Node.EndsFirst := by decide
  have hforward : literalsApart.RunsForward := by decide
  have hnone : ¬ HasDirective literalsSource literalsApart := not_hasDirective_of_no_comments rfl
  obtain ⟨hlisted, -, -, -, hordered⟩ := functions_in_document_order literalsSource literalsApart
  obtain ⟨records, hrecords, hchecked, hlines⟩ := (hordered hnested hforward).2 hnone
  have hmeasured : measure literalsSource literalsApart =
      .ok [⟨2, 2, 0, false, false⟩, ⟨2, 0, 0, false, false⟩, ⟨3, 0, 0, false, false⟩,
        ⟨4, 0, 0, false, false⟩] := by decide +kernel
  cases hmeasured.symm.trans hrecords
  exact ⟨hnested, hforward, hnone, by rw [hlisted]; rfl, _, hchecked rfl, rfl, hlines⟩

/-- The second literal starts after the first and before the literal inside the first. -/
def overlapping : Node := literalsAt (20, 24) (22, 23) (21, 23)

/-- It is not enough that siblings are ordered by their starts. -/
theorem overlapping_out_of_order :
    overlapping.Nested Node.StartsFirst ∧ overlapping.RunsForward ∧
      ¬ HasDirective literalsSource overlapping ∧
      ¬ overlapping.functions.Pairwise (fun f g => f.start ≤ g.start) ∧
      ∃ records, measureTree literalsSource overlapping = .ok records ∧
        ¬ records.Pairwise fun r r' => r.line ≤ r'.line := by
  have hnested : overlapping.Nested Node.StartsFirst := by decide
  have hstarts : overlapping.functions.map Node.start = [10, 20, 22, 21] := by
    rw [Node.functions, Node.named_eq_preorders]
    rfl
  have hmeasured : measureTree literalsSource overlapping =
      .ok [⟨2, 2, 0, false, false⟩, ⟨2, 0, 0, false, false⟩, ⟨4, 0, 0, false, false⟩,
        ⟨3, 0, 0, false, false⟩] := by decide +kernel
  refine ⟨hnested, by decide, not_hasDirective_of_no_comments rfl, fun hrising => ?_, _, hmeasured,
    by decide⟩
  have hmap := List.pairwise_map.mpr hrising
  rw [hstarts] at hmap
  exact absurd hmap (by decide)

end GoMeter
