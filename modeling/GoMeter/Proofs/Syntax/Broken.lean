import GoMeter.Measure
import GoMeter.Proofs.Syntax.Order

/-!
# The broken node that is reported

A tree with a broken node is refused for the first one in pre-order. The search for it enters only trees
that have a broken node; the trees that it leaves out hold none, so it finds what a search of the whole
tree finds. Tokens that the grammar does not name are searched like all other nodes: what is missing is
mostly one of them.

* `Node.everyNode`: all nodes of a tree in pre-order; `Node.map_node_sites`: they stand at its sites.
* `Node.hasError_eq_any`: which trees have a broken node.
* `Node.searchBroken_eq_find?`: the search that leaves trees out finds what the full search finds.
* `Node.FirstBroken`: the site of the first broken node, told by the ways to broken nodes.
* `broken_search_finds_first`: what is found, and what is said of the file.
-/

namespace GoMeter

namespace Node

/-! ## All nodes in pre-order -/

mutual

/-- The nodes of a tree in pre-order, named or not. -/
def everyNode : Node → List Node
  | .mk label below => .mk label below :: everyNodeAmong below

/-- The nodes of several trees, tree after tree. -/
def everyNodeAmong : List Node → List Node
  | [] => []
  | n :: rest => everyNode n ++ everyNodeAmong rest

end

theorem everyNodeAmong_eq (ns : List Node) : everyNodeAmong ns = ns.flatMap everyNode := by
  induction ns with
  | nil => rfl
  | cons n rest ih => rw [everyNodeAmong, ih, List.flatMap_cons]

theorem everyNode_eq (n : Node) : n.everyNode = n :: n.children.flatMap everyNode := by
  cases n with
  | mk label below =>
    rw [everyNode, everyNodeAmong_eq]
    rfl

mutual

theorem map_node_sitesFrom (way : Way) (n : Node) :
    (n.sitesFrom way).map Site.node = n.everyNode := by
  cases n with
  | mk label below => rw [sitesFrom, List.map_cons, map_node_sitesAmong, everyNode]

theorem map_node_sitesAmong (way : Way) (i : Nat) (ns : List Node) :
    (sitesAmong way i ns).map Site.node = everyNodeAmong ns := by
  cases ns with
  | nil => rfl
  | cons n rest =>
    rw [sitesAmong, List.map_append, map_node_sitesFrom, map_node_sitesAmong, everyNodeAmong]

end

/-- The nodes of a tree are what stands at its sites. -/
theorem map_node_sites (root : Node) : root.sites.map Site.node = root.everyNode :=
  map_node_sitesFrom [] root

/-! ## The search -/

mutual

/-- A tree has an error if one of its nodes is broken. -/
theorem hasError_eq_any (n : Node) : n.hasError = n.everyNode.any isBroken := by
  cases n with
  | mk label below =>
    rw [hasError, everyNode, List.any_cons, haveError_eq_any]
    rfl

theorem haveError_eq_any (ns : List Node) : haveError ns = (everyNodeAmong ns).any isBroken := by
  cases ns with
  | nil => rfl
  | cons n rest =>
    rw [haveError, everyNodeAmong, List.any_append, hasError_eq_any, haveError_eq_any]

end

theorem hasError_iff {n : Node} : n.hasError = true ↔ ∃ m ∈ n.everyNode, m.isBroken = true := by
  rw [hasError_eq_any, List.any_eq_true]

theorem isBroken_iff {n : Node} : n.isBroken = true ↔ n.kind = .error ∨ n.label.missing = true := by
  simp [isBroken]

/-- A tree that the search leaves out holds no broken node. -/
theorem find?_isBroken_eq_none {n : Node} (h : n.hasError = false) :
    n.everyNode.find? isBroken = none := by
  rw [List.find?_eq_none]
  intro m hm hbroken
  rw [hasError_iff.mpr ⟨m, hm, hbroken⟩] at h
  cases h

/-- Leaving out trees without broken nodes does not change which broken node comes first. -/
theorem find?_flatMap_filter_hasError (ns : List Node) :
    ((ns.filter hasError).flatMap everyNode).find? isBroken =
      (ns.flatMap everyNode).find? isBroken := by
  induction ns with
  | nil => rfl
  | cons n rest ih =>
    rw [List.flatMap_cons, List.find?_append]
    cases hn : n.hasError with
    | true => rw [List.filter_cons_of_pos hn, List.flatMap_cons, List.find?_append, ih]
    | false =>
      rw [List.filter_cons_of_neg (by simp [hn]), ih, find?_isBroken_eq_none hn, Option.none_or]

/-- The search finds the first broken node of the trees on the work list, one after the other. -/
theorem searchBroken_eq_find? (pending : List Node) :
    searchBroken pending = (pending.flatMap everyNode).find? isBroken := by
  fun_induction searchBroken pending with
  | case1 => rfl
  | case2 n pending hbroken =>
    rw [List.flatMap_cons, everyNode_eq, List.cons_append, List.find?_cons_of_pos hbroken]
  | case3 n pending hsound ih =>
    rw [ih, List.flatMap_cons, everyNode_eq, List.cons_append, List.find?_cons_of_neg hsound,
      List.flatMap_append, List.find?_append, find?_flatMap_filter_hasError, List.find?_append]

theorem firstBroken?_eq_find? (root : Node) :
    root.firstBroken? = root.everyNode.find? isBroken := by
  rw [firstBroken?, searchBroken_eq_find?, List.flatMap_singleton]

theorem firstBroken?_eq_none_iff {root : Node} :
    root.firstBroken? = none ↔ root.hasError = false := by
  rw [firstBroken?_eq_find?, List.find?_eq_none, ← Bool.not_eq_true, hasError_iff]
  simp

/-! ## Where the first broken node stands -/

/-- The site of the first broken node of a tree: the ways to all other broken nodes come later. -/
structure FirstBroken (root : Node) (s : Site) : Prop where
  stands : root.at? s.way = some s.node
  broken : s.node.kind = .error ∨ s.node.label.missing = true
  first : ∀ u : Site, root.at? u.way = some u.node →
    u.node.kind = .error ∨ u.node.label.missing = true → s.way ≤ u.way

/-- The first broken node in pre-order stands at the site that the least way leads to. -/
theorem exists_firstBroken {root bad : Node} (h : root.firstBroken? = some bad) :
    ∃ s, root.FirstBroken s ∧ s.node = bad := by
  rw [firstBroken?_eq_find?, ← map_node_sites, List.find?_map, Option.map_eq_some_iff] at h
  obtain ⟨s, hfound, rfl⟩ := h
  refine ⟨s, ⟨?_, ?_, fun u hu hbroken => ?_⟩, rfl⟩
  · exact mem_sites.mp (List.mem_of_find?_eq_some hfound)
  · exact isBroken_iff.mp (List.find?_some (p := isBroken ∘ Site.node) hfound)
  · exact Site.way_le_of_find?_eq_some root.pairwise_way_sites hfound (mem_sites.mpr hu)
      (isBroken_iff.mpr hbroken)

end Node

/-! ## What is reported -/

variable (src : Source) {root : Node}

theorem checkTree_of_hasError {bad : Node} (herror : root.hasError = true)
    (hbad : root.firstBroken? = some bad) :
    checkTree src root = .error ⟨bad.physicalLine src, bad.breakage⟩ := by
  rw [checkTree, if_pos herror, hbad]
  rfl

theorem checkTree_of_not_hasError (hsound : root.hasError = false) :
    checkTree src root = checkLayout src root := by
  rw [checkTree, hsound]
  rfl

/-- The wording of a broken node's refusal. -/
theorem Node.breakage_message (n : Node) :
    n.breakage.message =
      if n.label.missing then "missing " ++ n.kind.spelling else "syntax error" := by
  unfold Node.breakage
  split_ifs <;> rfl

/-- A tree has an error if one of its nodes, named or not, is broken. The search for the node that is
reported finds the first broken one in pre-order, as a search of all nodes does. So if the tree has an
error then it is refused for the broken node that comes before all others, on the line on which that
node starts and with a text that says what it is; otherwise no node is found, and the layout decides. -/
theorem broken_search_finds_first (src : Source) (root : Node) :
    (∀ n : Node, n.hasError = true ↔
        ∃ m ∈ n.everyNode, m.kind = .error ∨ m.label.missing = true) ∧
      root.firstBroken? = root.everyNode.find? Node.isBroken ∧
      (root.hasError = true → ∃ s, root.FirstBroken s ∧ root.firstBroken? = some s.node ∧
        ∃ r, checkTree src root = .error r ∧ measureTree src root = .error r ∧
          r.line = s.node.physicalLine src ∧
          r.message = "line " ++ toString (s.node.physicalLine src) ++ ": " ++
            if s.node.label.missing then "missing " ++ s.node.kind.spelling else "syntax error") ∧
      (root.hasError = false → root.firstBroken? = none ∧
        checkTree src root = checkLayout src root) := by
  refine ⟨fun n => ?_, root.firstBroken?_eq_find?, fun herror => ?_, fun hsound => ?_⟩
  · simp only [Node.hasError_iff, Node.isBroken_iff]
  · cases hfound : root.firstBroken? with
    | none =>
      rw [Node.firstBroken?_eq_none_iff.mp hfound] at herror
      cases herror
    | some bad =>
      obtain ⟨s, hs, rfl⟩ := Node.exists_firstBroken hfound
      have hcheck := checkTree_of_hasError src herror hfound
      refine ⟨s, hs, rfl, _, hcheck, ?_, rfl, ?_⟩
      · rw [measureTree, hcheck]
        rfl
      · rw [Refusal.message, Node.breakage_message]
  · exact ⟨Node.firstBroken?_eq_none_iff.mpr hsound, checkTree_of_not_hasError src hsound⟩

/-- A file in which a parenthesis is not closed and a value is left out. -/
def unclosedSource : Source := .ofString "package p\nfunc f( \x7b\n\tx := \n\x7d\n"

/-- The parenthesis that the parser made up. -/
def madeUpToken : Node := .mk ⟨.other ")", 17, 17, false, none, true⟩ []

/-- The tree of this file, which the parser could make in spite of the errors. -/
def unclosed : Node :=
  .branch .sourceFile 0 29 none
    [.branch .packageClause 0 9 none [.branch .packageIdentifier 8 9 none []],
     .branch .functionDeclaration 10 28 none
      [.branch .identifier 15 16 (some .name) [],
       .branch .parameterList 16 17 (some .parameters)
        [.mk ⟨.other "(", 16, 17, false, none, false⟩ [], madeUpToken],
       .branch .block 18 28 (some .body) [.branch .error 21 24 none []]]]

theorem unclosed_refused :
    unclosed.hasError = true ∧
      (∃ s, unclosed.FirstBroken s ∧ s.node = madeUpToken ∧
        ∃ r, checkTree unclosedSource unclosed = .error r ∧ r.message = "line 2: missing )") ∧
      madeUpToken.isNamed = false ∧
      (Node.branch .packageClause 0 9 none []).hasError = false ∧
      (Node.branch .packageClause 0 9 none []).firstBroken? = none := by
  have herror : unclosed.hasError = true := by decide
  have hsound : (Node.branch .packageClause 0 9 none []).hasError = false := by decide
  obtain ⟨-, hfind, hreported, -⟩ := broken_search_finds_first unclosedSource unclosed
  obtain ⟨s, hs, hfound, r, hcheck, -, -, hmessage⟩ := hreported herror
  have hnode : s.node = madeUpToken := by
    rw [hfind] at hfound
    exact (Option.some.inj hfound).symm
  rw [hnode] at hmessage
  exact ⟨herror, ⟨s, hs, hnode, r, hcheck, hmessage.trans (by decide +kernel)⟩, rfl, hsound,
    ((broken_search_finds_first unclosedSource _).2.2.2 hsound).1⟩

end GoMeter
