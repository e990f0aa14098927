import GoMeter.Proofs.Scope.Refinement

/-!
# The sites that are visited

A visit of a node passes on to its parts only, and some children are no part: the head of a
function, the left side of a binding, the type in a declaration. So not every site of a file is
visited, and calls are looked up only where a visit comes along.

* `Node.visitedSites`: the sites of a file that are visited.
* `Node.mem_parts_of_visited_child`: where a visited child comes from.
* `nodesVisited_initial`: these are the nodes that the work list visits, in the same order.
* `map_question_fileLookups`: one lookup is made for each visited call of a name, and no other.
-/

namespace GoMeter

namespace Site

/-- The sites visited by a visit of `s`. -/
def visited (s : Site) : List Site :=
  s :: s.parts.attach.flatMap fun t => visited t.val
termination_by s.node.size
decreasing_by exact size_lt_of_mem_parts t.property

theorem visited_eq (s : Site) : s.visited = s :: s.parts.flatMap visited := by
  rw [visited]
  simp only [List.flatMap_def, List.map_attach_eq_pmap, List.pmap_eq_map]

theorem mem_visited {s t : Site} : t ∈ s.visited ↔ t = s ∨ ∃ p ∈ s.parts, t ∈ p.visited := by
  rw [visited_eq, List.mem_cons, List.mem_flatMap]

theorem self_mem_visited (s : Site) : s ∈ s.visited := mem_visited.mpr (.inl rfl)

/-- What passes on from a site to its children holds of the sites visited from it. -/
theorem of_mem_visited {motive : Site → Prop} {s t : Site} (hs : motive s)
    (hstep : ∀ a, motive a → ∀ b ∈ a.children, motive b) (h : t ∈ s.visited) : motive t := by
  induction s using parts_induction with
  | h s ih =>
    rcases mem_visited.mp h with rfl | ⟨p, hp, ht⟩
    · exact hs
    · exact ih p hp (of_mem_parts (hstep s hs) hstep hp) ht

end Site

/-- The sites of a file that are visited, in order. -/
def Node.visitedSites (root : Node) : List Site :=
  (Site.root root).namedChildren.flatMap Site.visited

theorem Node.mem_visitedSites {root : Node} {s : Site} :
    s ∈ root.visitedSites ↔ ∃ top ∈ (Site.root root).namedChildren, s ∈ top.visited :=
  List.mem_flatMap

theorem Node.at?_of_mem_visitedSites {root : Node} {s : Site} (h : s ∈ root.visitedSites) :
    root.at? s.way = some s.node := by
  obtain ⟨top, htop, hs⟩ := Node.mem_visitedSites.mp h
  refine Site.of_mem_visited (motive := fun s => root.at? s.way = some s.node) ?_ ?_ hs
  · exact Site.at?_of_mem_namedChildren (s := Site.root root) rfl htop
  · exact fun a ha b hb => Site.at?_of_mem_children ha hb

/-- Since the way determines the site, it decides whether the site is visited. -/
theorem Node.mem_visitedSites_iff_way {root : Node} {s : Site} (hs : s ∈ root.sites) :
    s ∈ root.visitedSites ↔ s.way ∈ root.visitedSites.map Site.way := by
  refine ⟨List.mem_map_of_mem, fun h => ?_⟩
  obtain ⟨t, ht, hway⟩ := List.mem_map.mp h
  rwa [← Site.eq_of_way_eq (Node.at?_of_mem_visitedSites ht) (Node.mem_sites.mp hs) hway]

/-! ## Where a visit comes from -/

namespace Site

theorem exists_mem_parts {s t : Site} (h : t ∈ s.visited) :
    t = s ∨ ∃ u ∈ s.visited, t ∈ u.parts := by
  induction s using parts_induction with
  | h s ih =>
    rcases mem_visited.mp h with rfl | ⟨p, hp, ht⟩
    · exact .inl rfl
    · rcases ih p hp ht with rfl | ⟨u, hu, htu⟩
      · exact .inr ⟨s, s.self_mem_visited, hp⟩
      · exact .inr ⟨u, mem_visited.mpr (.inr ⟨p, hp, hu⟩), htu⟩

theorem isSpec_of_mem_specs {what : ObjectKind} {s spec : Site} (h : spec ∈ s.specs what) :
    what.isSpec spec.node.kind := by
  induction hsize : s.node.size using Nat.strongRecOn generalizing s with
  | ind size ih =>
    subst hsize
    rw [specs_eq, List.mem_flatMap] at h
    obtain ⟨c, hc, hspec⟩ := h
    split_ifs at hspec with hkind
    · rwa [List.mem_singleton.mp hspec]
    · exact ih _ (size_lt_of_mem_children (mem_children_of_mem_namedChildren hc)) hspec rfl
    · cases hspec

/-- What the parent `u` of a part of `s` can be: the site itself, its body if it is a function, a
specification or a clause. -/
def Hosts (s u : Site) : Prop :=
  u = s ∨ (Visit.of s.node = .function ∧ s.child? .body = some u) ∨
    (∃ what : ObjectKind, what.isSpec u.node.kind) ∨ Task.isClause u.node

theorem exists_host {root : Node} {s t : Site} (hs : root.at? s.way = some s.node)
    (h : t ∈ s.parts) : ∃ u, root.at? u.way = some u.node ∧ t ∈ u.children ∧ s.Hosts u := by
  have hself : t ∈ s.children → ∃ u, root.at? u.way = some u.node ∧ t ∈ u.children ∧ s.Hosts u :=
    fun ht => ⟨s, hs, ht, .inl rfl⟩
  have hfield : ∀ f, t ∈ (s.child? f).toList → t ∈ s.children :=
    fun f ht => mem_children_of_child? (Option.mem_toList.mp ht)
  unfold parts at h
  split at h
  · exact hself (mem_children_of_mem_namedChildren h)
  · exact hself (mem_children_of_mem_namedChildren h)
  · exact hself (mem_children_of_mem_namedChildren h)
  · next hv =>
    obtain ⟨body, hbody, ht⟩ := mem_bodyChildren.mp h
    exact ⟨body, at?_of_child? hs hbody, mem_children_of_mem_namedChildren ht,
      .inr (.inl ⟨hv, hbody⟩)⟩
  · exact hself (hfield .right h)
  · cases h
  · next what _ _ =>
    obtain ⟨spec, hspec, ht⟩ := List.mem_flatMap.mp h
    exact ⟨spec, at?_of_mem_specs hs hspec, mem_children_of_child? (Option.mem_toList.mp ht),
      .inr (.inr (.inl ⟨what, isSpec_of_mem_specs hspec⟩))⟩
  · rcases List.mem_append.mp h with h | h
    · rcases List.mem_append.mp h with h | h
      · exact hself (hfield .initializer h)
      · exact hself (hfield .value h)
    · obtain ⟨clause, hclause, ht⟩ := List.mem_flatMap.mp h
      obtain ⟨hmem, hkind⟩ := mem_clauses.mp hclause
      exact ⟨clause, at?_of_mem_namedChildren hs hmem, mem_children_of_mem_namedChildren ht,
        .inr (.inr (.inr hkind))⟩

end Site

theorem Site.mem_visited_of_mem_parts {s t u : Site} (ht : t ∈ s.visited) (hu : u ∈ t.parts) :
    u ∈ s.visited := by
  induction s using Site.parts_induction with
  | h s ih =>
    rcases mem_visited.mp ht with rfl | ⟨p, hp, htp⟩
    · exact mem_visited.mpr (.inr ⟨u, hu, u.self_mem_visited⟩)
    · exact mem_visited.mpr (.inr ⟨p, hp, ih p hp htp⟩)

/-- The parts of a function are not its children but those of its body. -/
theorem Site.not_mem_parts_of_function {s c : Site} (hs : Visit.of s.node = .function)
    (hc : c ∈ s.children) : c ∉ s.parts := by
  intro h
  simp only [Site.parts, hs] at h
  obtain ⟨body, hbody, hcbody⟩ := Site.mem_bodyChildren.mp h
  have h₁ := Site.length_way_of_mem_children hc
  have h₂ := Site.length_way_of_mem_children (Site.mem_children_of_mem_namedChildren hcbody)
  have h₃ := Site.length_way_of_mem_children (Site.mem_children_of_child? hbody)
  omega

theorem Visit.of_isSpec {what : ObjectKind} {n : Node} (h : what.isSpec n.kind) :
    Visit.of n = .plain := by
  unfold ObjectKind.isSpec at h
  unfold Visit.of
  split at h <;> simp_all

theorem Visit.of_isClause {n : Node} (h : Task.isClause n) :
    Visit.of n = .plain ∨ Visit.of n = .scoped := by
  unfold Task.isClause at h
  unfold Visit.of
  grind

namespace Node

variable {root : Node} {s t c : Site}

theorem mem_visitedSites_of_mem_parts (hs : s ∈ root.visitedSites) (ht : t ∈ s.parts) :
    t ∈ root.visitedSites := by
  obtain ⟨top, htop, hstop⟩ := mem_visitedSites.mp hs
  exact mem_visitedSites.mpr ⟨top, htop, Site.mem_visited_of_mem_parts hstop ht⟩

theorem way_ne_nil_of_mem_visitedSites (h : s ∈ root.visitedSites) : s.way ≠ [] := by
  obtain ⟨top, htop, hs⟩ := mem_visitedSites.mp h
  exact Site.of_mem_visited (motive := fun s => s.way ≠ [])
    (Site.way_ne_nil_of_mem_children (Site.mem_children_of_mem_namedChildren htop))
    (fun _ _ _ hb => Site.way_ne_nil_of_mem_children hb) hs

/-- A site below the top level is visited because of a visited site that hosts it. -/
theorem exists_host_of_visited (hs : root.at? s.way = some s.node) (hway : s.way ≠ [])
    (hc : c ∈ s.children) (hvisited : c ∈ root.visitedSites) :
    ∃ t ∈ root.visitedSites, c ∈ t.parts ∧ t.Hosts s := by
  obtain ⟨top, htop, hctop⟩ := mem_visitedSites.mp hvisited
  rcases Site.exists_mem_parts hctop with rfl | ⟨t, ht, hct⟩
  · have hroot := Site.parent_unique hs (t := Site.root root) rfl hc
      (Site.mem_children_of_mem_namedChildren htop)
    exact absurd (congrArg Site.way hroot) hway
  · have ht := mem_visitedSites.mpr ⟨top, htop, ht⟩
    obtain ⟨u, hu, hcu, hhost⟩ := Site.exists_host (at?_of_mem_visitedSites ht) hct
    rw [Site.parent_unique hu hs hcu hc] at hhost
    exact ⟨t, ht, hct, hhost⟩

/-- If the children of a visited site are not simply all walked, then a child is visited only as a
part of it. -/
theorem mem_parts_of_visited_child (hs : s ∈ root.visitedSites) (hplain : Visit.of s.node ≠ .plain)
    (hscoped : Visit.of s.node ≠ .scoped) (hc : c ∈ s.children) (hvisited : c ∈ root.visitedSites) :
    c ∈ s.parts := by
  induction hlength : s.way.length using Nat.strongRecOn generalizing s c with
  | ind length ih =>
    subst hlength
    have hat := at?_of_mem_visitedSites hs
    obtain ⟨t, ht, hct, rfl | ⟨hfunction, hbody⟩ | ⟨what, hspec⟩ | hclause⟩ :=
      exists_host_of_visited hat (way_ne_nil_of_mem_visitedSites hs) hc hvisited
    · exact hct
    · -- Otherwise the body of a function were visited, which its own visit passes over.
      have hchild := Site.mem_children_of_child? hbody
      have hlt := Site.length_way_of_mem_children hchild
      have hpart := ih t.way.length (by omega) ht (by simp [hfunction]) (by simp [hfunction])
        hchild hs rfl
      exact absurd hpart (Site.not_mem_parts_of_function hfunction hchild)
    · exact absurd (Visit.of_isSpec hspec) hplain
    · rcases Visit.of_isClause hclause with h | h
      · exact absurd h hplain
      · exact absurd h hscoped

/-- No child of a visited function is visited itself. -/
theorem not_visited_of_function (hs : s ∈ root.visitedSites) (hv : Visit.of s.node = .function)
    (hc : c ∈ s.children) : c ∉ root.visitedSites := fun h =>
  Site.not_mem_parts_of_function hv hc
    (mem_parts_of_visited_child hs (by simp [hv]) (by simp [hv]) hc h)

end Node

/-! ## The work list visits them -/

theorem nodesVisited_cons (src : Source) (r : Resolution) (t : Task) (pending : List Task) :
    nodesVisited src r (t :: pending) = t.node?.toList ++
      nodesVisited src (t.perform src r).2 ((t.perform src r).1 ++ pending) := by
  rw [nodesVisited, history, List.filterMap_cons]
  cases h : t.node? <;> simp [h, nodesVisited]

theorem nodesVisited_append (src : Source) (r : Resolution) (ts us : List Task) :
    nodesVisited src r (ts ++ us) =
      nodesVisited src r ts ++ nodesVisited src (performAll src r ts) us := by
  rw [nodesVisited, history_append, List.filterMap_append]
  rfl

namespace Task

/-- The nodes that some tasks are about. -/
def nodes (ts : List Task) : List Node := ts.filterMap node?

@[simp] theorem nodes_append (ts us : List Task) : nodes (ts ++ us) = nodes ts ++ nodes us :=
  List.filterMap_append

@[simp] theorem nodes_visits (ns : List Node) (scope : Nat) : nodes (visits ns scope) = ns := by
  simp [nodes, visits, List.filterMap_map, Function.comp_def, node?]

@[simp] theorem nodes_visit? (n : Option Node) (scope : Nat) : nodes (visit? n scope) = n.toList :=
  nodes_visits _ _

@[simp] theorem nodes_declare (scope : Nat) (names : List String) (what : ObjectKind) :
    nodes [.declare scope names what] = [] := rfl

theorem nodes_flatMap {α : Type} (f : α → List Task) (l : List α) :
    nodes (l.flatMap f) = l.flatMap fun x => nodes (f x) := by
  rw [nodes, List.filterMap_flatMap]
  rfl

theorem nodes_clauseTasks (base : Nat) (ns : List Node) :
    nodes (clauseTasks base ns) = ns.flatMap Node.namedChildren := by
  induction ns with
  | nil => rfl
  | cons n rest ih => simp [clauseTasks, ih]

/-- Visiting a node gives rise to visits of its parts. -/
theorem nodes_visitNode (src : Source) (s : Site) (scope : Nat) (r : Resolution) :
    nodes (visitNode src s.node scope r).1 = s.parts.map Site.node := by
  unfold Site.parts
  split
  · next hv => simp [visitNode, hv]
  · next hv => simp [visitNode, hv]
  · next hv => simp [visitNode, hv]
  · next hv => simp [visitNode_function hv]
  · next hv => simp [visitNode, hv, ← Option.toList_map]
  · next hv => simp [visitNode, hv, nodes]
  · next what hwhat hv =>
    rw [List.map_flatMap]
    cases what <;> first | contradiction | skip
    all_goals
      simp only [visitNode, hv, ← Site.map_node_specs, nodes_flatMap, List.flatMap_map,
        nodes_append, nodes_visit?, nodes_declare, List.append_nil, ← Site.map_node_child?,
        Option.toList_map]
  · next hv =>
    simp [visitNode_typeSwitch hv, nodes_clauseTasks, List.flatMap_map, List.map_flatMap,
      ← Option.toList_map]

end Task

theorem nodesVisited_of_nodes {src : Source} {ss : List Site}
    (hss : ∀ s ∈ ss, ∀ i r, nodesVisited src r [.visit s.node i] = s.visited.map Site.node)
    {ts : List Task} (hts : Task.nodes ts = ss.map Site.node) (r : Resolution) :
    nodesVisited src r ts = (ss.flatMap Site.visited).map Site.node := by
  induction ts generalizing ss r with
  | nil =>
    rw [List.map_eq_nil_iff.mp hts.symm]
    simp [nodesVisited, history]
  | cons t rest ih =>
    rw [← List.singleton_append, nodesVisited_append]
    cases t with
    | declare scope names what =>
      rw [ih hss hts, nodesVisited_cons]
      simp [Task.node?, Task.perform, nodesVisited, history]
    | visit n scope =>
      cases ss with
      | nil => cases hts
      | cons s ss =>
        rw [List.forall_mem_cons] at hss
        obtain ⟨rfl, hrest⟩ := List.cons_eq_cons.mp hts
        rw [ih hss.2 hrest, hss.1, List.flatMap_cons, List.map_append]

theorem nodesVisited_visit (src : Source) (s : Site) (i : Nat) (r : Resolution) :
    nodesVisited src r [.visit s.node i] = s.visited.map Site.node := by
  induction s using Site.parts_induction generalizing i r with
  | h s ih =>
    rw [nodesVisited_cons, List.append_nil, Site.visited_eq]
    exact congrArg (s.node :: ·)
      (nodesVisited_of_nodes (fun t ht i r => ih t ht i r) (Task.nodes_visitNode src s i r) _)

/-- The work list visits the nodes at the visited sites, in the same order. -/
theorem nodesVisited_initial (src : Source) (root : Node) :
    nodesVisited src (.initial src root) (Task.initial root) =
      root.visitedSites.map Site.node := by
  refine nodesVisited_of_nodes (fun s _ i r => nodesVisited_visit src s i r) ?_ _
  rw [Task.initial, Task.nodes_visits, Site.map_node_namedChildren]
  rfl

/-! ## Lookups are made at visited calls -/

/-- The question that a call puts: where it is asked, where the name stands, and the name. -/
def Site.question? (src : Source) (s : Site) : Option (Way × Nat × String) :=
  s.node.calledName?.map fun callee => (s.way, callee.start, callee.text src)

/-- The question that a lookup answers. -/
def Lookup.question (l : Way × Lookup) : Way × Nat × String := (l.1, l.2.offset, l.2.name)

theorem Site.question?_eq_none {src : Source} {s : Site} (h : Visit.of s.node ≠ .call) :
    s.question? src = none := by
  rw [ne_eq, Visit.of_eq_call_iff] at h
  simp [Site.question?, Node.calledName?, h]

/-- A script without lookups puts the questions of the sites that it visits. -/
theorem map_question_runScript {src : Source} {moves : List Move}
    (hnone : ∀ call, .lookup call ∉ moves)
    (ht : ∀ t ∈ Move.targets moves, ∀ c,
      (walk src c t).2.map Lookup.question = t.visited.filterMap (Site.question? src))
    (c : ScopeChain) :
    (runScript src c moves).2.map Lookup.question =
      (Move.targets moves).flatMap fun t => t.visited.filterMap (Site.question? src) := by
  induction moves generalizing c with
  | nil => simp [runScript, Move.targets]
  | cons move rest ih =>
    have hrest : ∀ call, .lookup call ∉ rest := fun call h => hnone call (.tail _ h)
    cases move with
    | push => rw [runScript, ih hrest ht, Move.targets]; simp
    | pop => rw [runScript, ih hrest ht, Move.targets]; simp
    | declare names what => rw [runScript, ih hrest ht, Move.targets]; simp
    | lookup call => exact absurd (.head _) (hnone call)
    | visit t =>
      simp only [Move.targets, List.forall_mem_cons] at ht
      rw [runScript, List.map_append, ht.1, ih hrest ht.2, Move.targets, List.flatMap_cons]

theorem Site.lookup_not_mem_script {src : Source} {s : Site} (h : Visit.of s.node ≠ .call)
    (call : Site) : .lookup call ∉ s.script src := by
  unfold Site.script
  split
  · simp [Move.visits]
  · contradiction
  · simp [Move.visits, Move.enclosed]
  · simp [Move.visits, Move.enclosed]
  · simp [Move.visits]
  · simp
  · simp [Move.visits]
  · simp [Move.visits, Move.enclosed]

theorem map_question_walk (src : Source) (c : ScopeChain) (s : Site) :
    (walk src c s).2.map Lookup.question = s.visited.filterMap (Site.question? src) := by
  induction s using Site.parts_induction generalizing c with
  | h s ih =>
    rw [walk_eq, Site.visited_eq, List.filterMap_cons]
    by_cases hcall : Visit.of s.node = .call
    · have hscript : s.script src = .lookup s :: Move.visits s.namedChildren := by
        simp [Site.script, hcall]
      have hparts : s.parts = s.namedChildren := by simp [Site.parts, hcall]
      rw [hparts] at ih ⊢
      rw [hscript, runScript, List.map_append,
        map_question_runScript (by simp [Move.visits]) (by simpa using ih)]
      cases hname : s.node.calledName? <;>
        simp [Node.lookup?, Site.question?, hname, Lookup.question, List.filterMap_flatMap]
    · rw [Site.question?_eq_none hcall,
        map_question_runScript (Site.lookup_not_mem_script hcall)]
      · rw [Site.targets_script, List.filterMap_flatMap]
      · rw [Site.targets_script]
        exact fun t ht c => ih t ht c

/-- A visit makes its lookups at or below the visited site. -/
theorem way_le_of_mem_walk {src : Source} {c : ScopeChain} {s : Site} {l : Way × Lookup}
    (hl : l ∈ (walk src c s).2) : s.way <+: l.1 := by
  have hasked := List.mem_map_of_mem (f := Lookup.question) hl
  rw [map_question_walk, List.mem_filterMap] at hasked
  obtain ⟨t, ht, hquestion⟩ := hasked
  obtain ⟨callee, -, heq⟩ := Option.map_eq_some_iff.mp hquestion
  rw [← show t.way = l.1 from congrArg Prod.fst heq]
  refine Site.of_mem_visited (motive := fun t => s.way <+: t.way) (List.prefix_refl _) ?_ ht
  intro a ha b hb
  obtain ⟨j, hway, -⟩ := Site.mem_children.mp hb
  rw [hway]
  exact ha.trans (List.prefix_append _ _)

/-- One lookup is made for each visited call of a name, and no other. -/
theorem map_question_fileLookups (src : Source) (root : Node) :
    (fileLookups src root).map Lookup.question =
      root.visitedSites.filterMap (Site.question? src) := by
  rw [fileLookups, map_question_runScript (by simp [Move.visits])
    fun t _ c => map_question_walk src c t]
  rw [Move.targets_visits, Node.visitedSites, List.filterMap_flatMap]

/-- The lookup made at a visited call. -/
theorem exists_lookup_of_visited (src : Source) {root : Node} {s : Site} {callee : Node}
    (hs : s ∈ root.visitedSites) (hcall : s.node.calledName? = some callee) :
    ∃ l ∈ fileLookups src root, l.2.offset = callee.start ∧ l.2.name = callee.text src := by
  have hasked : (s.way, callee.start, callee.text src) ∈
      root.visitedSites.filterMap (Site.question? src) :=
    List.mem_filterMap.mpr ⟨s, hs, by rw [Site.question?, hcall]; rfl⟩
  rw [← map_question_fileLookups, List.mem_map] at hasked
  obtain ⟨l, hl, heq⟩ := hasked
  simp only [Lookup.question, Prod.mk.injEq] at heq
  exact ⟨l, hl, heq.2⟩

/-- The visited call at which a lookup is made. -/
theorem exists_visited_of_lookup {src : Source} {root : Node} {l : Way × Lookup}
    (hl : l ∈ fileLookups src root) :
    ∃ s ∈ root.visitedSites, s.way = l.1 ∧
      ∃ callee, s.node.calledName? = some callee ∧ callee.start = l.2.offset := by
  have hasked := List.mem_map_of_mem (f := Lookup.question) hl
  rw [map_question_fileLookups, List.mem_filterMap] at hasked
  obtain ⟨s, hs, hquestion⟩ := hasked
  obtain ⟨callee, hcallee, heq⟩ := Option.map_eq_some_iff.mp hquestion
  simp only [Lookup.question, Prod.mk.injEq] at heq
  exact ⟨s, hs, heq.1, callee, hcallee, heq.2.1⟩

end GoMeter
