import GoMeter.Proofs.Scope.Visited
import GoMeter.Proofs.Syntax.Edit

/-!
# Scopes do not leak

What is declared inside a block, a statement with a scope or a function literal is of no concern to
anything outside. Said with two runs: put any content in place of what such a node has, and every
lookup outside the node is made as before, with the same answer.

* `Kind.encloses`: the kinds in question.
* `Edit.script_apply`: visiting any other visited node does the same before and after the edit.
* `walk_apply`: one visit before and after the edit.
* `lookups_outside_unchanged`: the lookups of the file outside the node, and the callees noted.
-/

namespace GoMeter

/-! ## Nodes that enclose what they declare -/

/-- Statements that have a scope of their own, and function literals. -/
def Kind.encloses : Kind → Bool
  | .block | .ifStatement | .forStatement | .expressionSwitchStatement | .typeSwitchStatement
  | .selectStatement | .funcLiteral => true
  | _ => false

namespace Kind

variable {k : Kind}

theorem not_isSpecList_of_encloses (h : k.encloses) : ¬ k.isSpecList := by
  unfold encloses at h
  split at h
  all_goals first | contradiction | decide

theorem not_isSpec_of_encloses (h : k.encloses) (what : ObjectKind) : ¬ what.isSpec k := by
  unfold encloses at h
  split at h
  all_goals first | contradiction | cases what <;> decide

theorem declared?_of_encloses (h : k.encloses) : k.declared? = none := by
  unfold encloses at h
  split at h
  all_goals first | contradiction | rfl

end Kind

theorem Visit.opensScope_of_encloses {n : Node} (h : n.kind.encloses) :
    (Visit.of n).opensScope := by
  unfold Kind.encloses at h
  unfold Visit.of
  split at h
  all_goals simp_all [Visit.opensScope]

theorem Task.not_isClause_of_encloses {n : Node} (h : n.kind.encloses) : ¬ isClause n := by
  intro hclause
  unfold isClause at hclause
  unfold Kind.encloses at h
  grind

/-! ## What is read without a visit -/

namespace Edit

variable {root : Node} (e : Edit root)

theorem way_ne_of_kind {s : Site} (hs : root.at? s.way = some s.node)
    (hold : e.old.node.kind.encloses) (hkind : ¬ s.node.kind.encloses) : s.way ≠ e.old.way := by
  intro hway
  rw [Site.eq_of_way_eq hs e.at_old hway] at hkind
  exact hkind hold

theorem map_text_apply (src : Source) {ss : List Site}
    (hss : ∀ s ∈ ss, root.at? s.way = some s.node) :
    (ss.map e.apply).map (fun s => s.node.text src) = ss.map fun s => s.node.text src := by
  rw [List.map_map]
  exact List.map_congr_left fun s hs => ((e.alike_apply (hss s hs)).text src).symm

variable {src : Source} {s : Site} (hs : root.at? s.way = some s.node)

include hs

theorem declaredNames_apply (hne : s.way ≠ e.old.way) :
    (e.apply s).node.declaredNames src = s.node.declaredNames src := by
  have hnames : ∀ t : Site, t.node.declaredNames src =
      (t.children.filter fun c => c.node.field = some .name).map fun c => c.node.text src := by
    intro t
    rw [Node.declaredNames, Node.childrenAt, ← Site.map_node_children, List.filter_map,
      List.map_map]
    rfl
  have hfilter := e.filter_children_apply hs hne (p := fun n => n.field = some .name)
    fun a b h => by rw [h.field]
  rw [hnames, hnames, hfilter, e.map_text_apply src]
  exact fun c hc => Site.at?_of_mem_children hs (List.mem_filter.mp hc).1

theorem map_kind_children_apply (hne : s.way ≠ e.old.way) :
    (e.apply s).node.children.map Node.kind = s.node.children.map Node.kind := by
  rw [← Site.map_node_children, ← Site.map_node_children, e.children_apply hne, List.map_map,
    List.map_map, List.map_map]
  refine List.map_congr_left fun c hc => ?_
  exact (e.alike_apply (Site.at?_of_mem_children hs hc)).kind.symm

theorem visit_apply (hne : s.way ≠ e.old.way) : Visit.of (e.apply s).node = Visit.of s.node := by
  have hany : ∀ n : Node, n.children.any (·.kind = .define) =
      (n.children.map Node.kind).any (· = .define) := by
    intro n
    rw [List.any_map]
    rfl
  unfold Visit.of
  rw [hany, hany, e.map_kind_children_apply hs hne, ← (e.alike_apply hs).kind]

/-- The identifiers of a left side or an alias, unless it is the replaced node. -/
theorem boundNames_apply (hne : s.way ≠ e.old.way) :
    boundNames src (some (e.apply s).node) = boundNames src (some s.node) := by
  have hkind := (e.alike_apply hs).kind
  have hbelow : ∀ t : Site, (t.node.namedChildren.filter fun c => c.kind = .identifier).map
      (·.text src) = (t.children.filter fun c =>
        c.node.kind = .identifier ∧ c.node.isNamed).map fun c => c.node.text src := by
    intro t
    rw [Node.namedChildren, ← Site.map_node_children, List.filter_map, List.filter_map,
      List.map_map, List.filter_filter]
    simp [Function.comp_def]
  have hfilter := e.filter_children_apply hs hne (p := fun n => n.kind = .identifier ∧ n.isNamed)
    fun a b h => by rw [h.kind, h.isNamed]
  simp only [boundNames, boundIdentifiers, ← hkind]
  split_ifs
  · simp [(e.alike_apply hs).text src]
  · rw [hbelow, hbelow, hfilter, e.map_text_apply src]
    exact fun c hc => Site.at?_of_mem_children hs (List.mem_filter.mp hc).1

/-- The names in a list of parameters, unless it or one of the parameters is the replaced node. -/
theorem parameterNames_apply (hne : s.way ≠ e.old.way)
    (hbelow : s.node.kind = .parameterList ∨ s.node.kind = .typeParameterList →
      ∀ c ∈ s.namedChildren, c.way ≠ e.old.way) :
    parameterNames src (some (e.apply s).node) = parameterNames src (some s.node) := by
  have hnames : ∀ what : ObjectKind,
      s.node.kind = .parameterList ∨ s.node.kind = .typeParameterList →
      (e.apply s).node.namedChildren.map (fun p => (p.declaredNames src, what)) =
        s.node.namedChildren.map fun p => (p.declaredNames src, what) := by
    intro what hkind
    rw [← Site.map_node_namedChildren, ← Site.map_node_namedChildren, e.namedChildren_apply hs hne,
      List.map_map, List.map_map, List.map_map]
    refine List.map_congr_left fun c hc => ?_
    have hat := Site.at?_of_mem_namedChildren hs hc
    simp [e.declaredNames_apply hat (hbelow hkind c hc)]
  simp only [parameterNames, ← (e.alike_apply hs).kind]
  split
  · next hkind => exact hnames _ (.inl hkind)
  · next hkind => exact hnames _ (.inr hkind)
  · rfl

theorem specs_apply (hold : e.old.node.kind.encloses) (hne : s.way ≠ e.old.way)
    (what : ObjectKind) : (e.apply s).specs what = (s.specs what).map e.apply := by
  induction hsize : s.node.size using Nat.strongRecOn generalizing s with
  | ind size ih =>
    subst hsize
    rw [Site.specs_eq, Site.specs_eq, e.namedChildren_apply hs hne, List.flatMap_map,
      List.map_flatMap]
    refine List.flatMap_congr fun c hc => ?_
    have hchild := Site.mem_children_of_mem_namedChildren hc
    have hat := Site.at?_of_mem_children hs hchild
    rw [← (e.alike_apply hat).kind]
    split_ifs with hspec hlist
    · rfl
    · -- The replaced node is not a list of specifications, so the search does not enter it.
      have hother := e.way_ne_of_kind hat hold fun h => Kind.not_isSpecList_of_encloses h hlist
      exact ih _ (Site.size_lt_of_mem_children hchild) hat hother rfl
    · rfl

theorem spec_ne_old (hold : e.old.node.kind.encloses) {what : ObjectKind} {spec : Site}
    (hspec : spec ∈ s.specs what) :
    root.at? spec.way = some spec.node ∧ spec.way ≠ e.old.way := by
  have hat := Site.at?_of_mem_specs hs hspec
  refine ⟨hat, e.way_ne_of_kind hat hold fun h => ?_⟩
  exact Kind.not_isSpec_of_encloses h what (Site.isSpec_of_mem_specs hspec)

theorem clauses_apply (hne : s.way ≠ e.old.way) : (e.apply s).clauses = s.clauses.map e.apply := by
  rw [Site.clauses, Site.clauses, e.namedChildren_apply hs hne, List.filter_map]
  congr 1
  refine List.filter_congr fun c hc => ?_
  have hat := Site.at?_of_mem_namedChildren hs hc
  simp [Task.isClause, (e.alike_apply hat).kind]

theorem clause_children_apply (hold : e.old.node.kind.encloses) {clause : Site}
    (hclause : clause ∈ s.clauses) :
    (e.apply clause).namedChildren = clause.namedChildren.map e.apply := by
  obtain ⟨hmem, hkind⟩ := Site.mem_clauses.mp hclause
  have hat := Site.at?_of_mem_namedChildren hs hmem
  exact e.namedChildren_apply hat
    (e.way_ne_of_kind hat hold fun h => Task.not_isClause_of_encloses h hkind)

end Edit

/-! ## What is read is not visited

Some visits read names from children that they do not visit: a left side, an alias, the head of a
function. A visited node is none of these. -/

namespace Node

variable {root : Node} {s c x : Site}

theorem left_not_visited (hs : s ∈ root.visitedSites) (hv : Visit.of s.node = .binding)
    (hleft : s.child? .left = some x) : x ∉ root.visitedSites := by
  intro hx
  have hpart := mem_parts_of_visited_child hs (by simp [hv]) (by simp [hv])
    (Site.mem_children_of_child? hleft) hx
  simp only [Site.parts, hv, Option.mem_toList] at hpart
  have hfield := (Site.field_of_child? hleft).symm.trans (Site.field_of_child? hpart)
  simp at hfield

theorem alias_not_visited (hs : s ∈ root.visitedSites) (hv : Visit.of s.node = .typeSwitch)
    (halias : s.child? .alias = some x) : x ∉ root.visitedSites := by
  intro hx
  have hchild := Site.mem_children_of_child? halias
  have hpart := mem_parts_of_visited_child hs (by simp [hv]) (by simp [hv]) hchild hx
  simp only [Site.parts, hv, List.mem_append, Option.mem_toList, List.mem_flatMap] at hpart
  rcases hpart with (hother | hother) | ⟨clause, hclause, hbelow⟩
  · have hfield := (Site.field_of_child? halias).symm.trans (Site.field_of_child? hother)
    simp at hfield
  · have hfield := (Site.field_of_child? halias).symm.trans (Site.field_of_child? hother)
    simp at hfield
  · have h₁ := Site.length_way_of_mem_children hchild
    have h₂ := Site.length_way_of_mem_children (Site.mem_children_of_mem_namedChildren hbelow)
    have h₃ := Site.length_way_of_mem_children
      (Site.mem_children_of_mem_namedChildren (Site.mem_clauses.mp hclause).1)
    omega

theorem parameter_not_visited (hs : s ∈ root.visitedSites) (hv : Visit.of s.node = .function)
    {f : Field} (hf : f ∈ parameterFields) (hc : s.child? f = some c)
    (hkind : c.node.kind = .parameterList ∨ c.node.kind = .typeParameterList)
    (hbelow : x ∈ c.children) : x ∉ root.visitedSites := by
  intro hx
  have hchild := Site.mem_children_of_child? hc
  have hat := at?_of_mem_visitedSites hs
  obtain ⟨t, ht, -, rfl | ⟨-, hbody⟩ | ⟨what, hspec⟩ | hclause⟩ :=
    exists_host_of_visited (Site.at?_of_mem_children hat hchild) (Site.way_ne_nil_of_mem_children hchild)
      hbelow hx
  · exact not_visited_of_function hs hv hchild ht
  · rw [Site.parent_unique (at?_of_mem_visitedSites ht) hat (Site.mem_children_of_child? hbody)
      hchild] at hbody
    have hfield := (Site.field_of_child? hc).symm.trans (Site.field_of_child? hbody)
    rw [Option.some.inj hfield] at hf
    exact absurd hf (by decide)
  · rcases hkind with h | h <;> cases what <;> simp [h, ObjectKind.isSpec] at hspec
  · rcases hkind with h | h <;> simp [h, Task.isClause] at hclause

end Node

/-! ## Scripts after the edit -/

namespace Edit

variable {root : Node} (e : Edit root)

/-- What an move turns into. -/
def act : Move → Move
  | .push => .push
  | .pop => .pop
  | .declare names what => .declare names what
  | .lookup call => .lookup (e.apply call)
  | .visit s => .visit (e.apply s)

theorem map_act_visits (ss : List Site) :
    (Move.visits ss).map e.act = Move.visits (ss.map e.apply) := by
  rw [Move.visits, Move.visits, List.map_map, List.map_map]
  rfl

theorem map_act_enclosed (moves : List Move) :
    (Move.enclosed moves).map e.act = Move.enclosed (moves.map e.act) := by
  simp [Move.enclosed, act]

theorem map_act_visits_toList (o : Option Site) :
    (Move.visits o.toList).map e.act = Move.visits (o.map e.apply).toList := by
  rw [map_act_visits, Option.toList_map]

variable {src : Source} {s : Site} (hs : s ∈ root.visitedSites) (hne : s.way ≠ e.old.way)
  (hvisited : e.old ∈ root.visitedSites)

theorem way_ne_of_not_visited {c : Site} (hat : root.at? c.way = some c.node)
    (hvisited : e.old ∈ root.visitedSites) (hc : c ∉ root.visitedSites) : c.way ≠ e.old.way := by
  intro hway
  rw [Site.eq_of_way_eq hat e.at_old hway] at hc
  exact hc hvisited

include hs hne hvisited

theorem headNames_apply (hv : Visit.of s.node = .function) :
    headNames src (e.apply s).node = headNames src s.node := by
  have hat := Node.at?_of_mem_visitedSites hs
  unfold headNames
  refine List.flatMap_congr fun f hf => ?_
  rw [← Site.map_node_child?, ← Site.map_node_child?, e.child?_apply hat hne]
  cases hc : s.child? f with
  | none => rfl
  | some c =>
    have hchild := Site.mem_children_of_child? hc
    have hcat := Site.at?_of_mem_children hat hchild
    refine e.parameterNames_apply hcat ?_ ?_
    · exact e.way_ne_of_not_visited hcat hvisited (Node.not_visited_of_function hs hv hchild)
    · intro hkind p hp
      have hp := Site.mem_children_of_mem_namedChildren hp
      exact e.way_ne_of_not_visited (Site.at?_of_mem_children hcat hp) hvisited
        (Node.parameter_not_visited hs hv hf hc hkind hp)

theorem bodyChildren_apply (hv : Visit.of s.node = .function) :
    (e.apply s).bodyChildren = s.bodyChildren.map e.apply := by
  have hat := Node.at?_of_mem_visitedSites hs
  rw [Site.bodyChildren, Site.bodyChildren, e.child?_apply hat hne]
  cases hbody : s.child? .body with
  | none => rfl
  | some body =>
    have hchild := Site.mem_children_of_child? hbody
    have hbat := Site.at?_of_mem_children hat hchild
    exact e.namedChildren_apply hbat
      (e.way_ne_of_not_visited hbat hvisited (Node.not_visited_of_function hs hv hchild))

/-- The names that a left side or an alias declares. -/
theorem readNames_apply {f : Field} (hread : ∀ c, s.child? f = some c → c ∉ root.visitedSites) :
    boundNames src ((e.apply s).node.child? f) = boundNames src (s.node.child? f) := by
  have hat := Node.at?_of_mem_visitedSites hs
  rw [← Site.map_node_child?, ← Site.map_node_child?, e.child?_apply hat hne]
  cases hc : s.child? f with
  | none => rfl
  | some c =>
    have hcat := Site.at?_of_child? hat hc
    exact e.boundNames_apply hcat (e.way_ne_of_not_visited hcat hvisited (hread c hc))

/-- Visiting any other visited node does the same after the edit, at the edited sites. -/
theorem script_apply (hold : e.old.node.kind.encloses) :
    (e.apply s).script src = (s.script src).map e.act := by
  have hat := Node.at?_of_mem_visitedSites hs
  have hchildren := e.namedChildren_apply hat hne
  unfold Site.script
  rw [e.visit_apply hat hne]
  split
  · rw [hchildren, map_act_visits]
  · rw [hchildren, List.map_cons, map_act_visits, act]
  · rw [hchildren, map_act_enclosed, map_act_visits]
  · next hv =>
    rw [e.headNames_apply hs hne hvisited hv, e.bodyChildren_apply hs hne hvisited hv,
      map_act_enclosed, List.map_append, map_act_visits, List.map_map]
    rfl
  · next hv =>
    have hread := fun c => Node.left_not_visited (x := c) hs hv
    rw [e.readNames_apply hs hne hvisited hread, e.child?_apply hat hne, List.map_append,
      map_act_visits_toList]
    rfl
  · rw [e.specs_apply hat hold hne, List.map_map, List.map_map]
    refine List.map_congr_left fun spec hspec => ?_
    obtain ⟨hsat, hsne⟩ := e.spec_ne_old hat hold hspec
    simp [e.declaredNames_apply hsat hsne, act]
  · rw [e.specs_apply hat hold hne, List.flatMap_map, List.map_flatMap]
    refine List.flatMap_congr fun spec hspec => ?_
    obtain ⟨hsat, hsne⟩ := e.spec_ne_old hat hold hspec
    rw [e.declaredNames_apply hsat hsne, e.child?_apply hsat hsne, List.map_append,
      map_act_visits_toList]
    rfl
  · next hv =>
    have hread := fun c => Node.alias_not_visited (x := c) hs hv
    rw [e.readNames_apply hs hne hvisited hread, e.child?_apply hat hne, e.child?_apply hat hne,
      e.clauses_apply hat hne, map_act_enclosed, List.map_append, List.map_append,
      map_act_visits_toList, map_act_visits_toList, List.flatMap_map, List.map_flatMap]
    congr 2
    refine List.flatMap_congr fun clause hclause => ?_
    rw [e.clause_children_apply hat hold hclause, map_act_enclosed, List.map_cons, map_act_visits]
    rfl

end Edit

/-! ## The names of the file after the edit -/

namespace Edit

variable {root : Node} (e : Edit root)

theorem addDeclaration_apply (src : Source) (scope : Scope) {s : Site}
    (hs : root.at? s.way = some s.node) (hold : e.old.node.kind.encloses) :
    Scope.addDeclaration src scope (e.apply s).node = Scope.addDeclaration src scope s.node := by
  unfold Scope.addDeclaration
  rw [← (e.alike_apply hs).kind]
  split_ifs with hfunction
  · have hne := e.way_ne_of_kind hs hold fun h => by simp [hfunction, Kind.encloses] at h
    rw [← Site.map_node_child?, ← Site.map_node_child?, e.child?_apply hs hne]
    cases hname : s.child? .name with
    | none => rfl
    | some c =>
      have hat := Site.at?_of_child? hs hname
      simp [(e.alike_apply hat).text src]
  · cases hdeclared : s.node.kind.declared? with
    | none => rfl
    | some what =>
      have hne := e.way_ne_of_kind hs hold fun h => by
        simp [Kind.declared?_of_encloses h] at hdeclared
      simp only [← Site.map_node_specs, e.specs_apply hs hold hne, List.foldl_map]
      refine List.foldl_ext _ _ _ fun scope spec hspec => ?_
      obtain ⟨hat, hsne⟩ := e.spec_ne_old hs hold hspec
      rw [e.declaredNames_apply hat hsne]

theorem fileScope_result (src : Source) (hold : e.old.node.kind.encloses)
    (hvisited : e.old ∈ root.visitedSites) : fileScope src e.result = fileScope src root := by
  have hne : (Site.root root).way ≠ e.old.way :=
    (Node.way_ne_nil_of_mem_visitedSites hvisited).symm
  have hnamed : e.result.namedChildren =
      ((Site.root root).namedChildren.map e.apply).map Site.node := by
    rw [← e.namedChildren_apply rfl hne, e.apply_root, Site.map_node_namedChildren]
    rfl
  have hroot : root.namedChildren = (Site.root root).namedChildren.map Site.node := by
    rw [Site.map_node_namedChildren]
    rfl
  rw [fileScope, fileScope, hnamed, hroot, List.foldl_map, List.foldl_map, List.foldl_map]
  refine List.foldl_ext _ _ _ fun scope s hs => ?_
  exact e.addDeclaration_apply src scope (Site.at?_of_mem_namedChildren rfl hs) hold

end Edit

/-! ## Two runs -/

/-- Two walks leave the same scopes and differ in lookups at or below `way` at most. -/
structure SameOutside (way : Way) (w w' : ScopeChain × List (Way × Lookup)) : Prop where
  scopes : w'.1 = w.1
  lookups : w'.2.filter (fun l => ¬ way <+: l.1) = w.2.filter fun l => ¬ way <+: l.1

section TwoRuns

variable {src : Source} {root : Node} (e : Edit root)

theorem lookup?_apply {s : Site} (hs : root.at? s.way = some s.node) (hne : s.way ≠ e.old.way)
    (ask : String → Option ObjectKind) :
    (e.apply s).node.lookup? src ask = s.node.lookup? src ask := by
  unfold Node.lookup? Node.calledName?
  rw [← (e.alike_apply hs).kind]
  split_ifs
  · rw [← Site.map_node_child?, ← Site.map_node_child?, e.child?_apply hs hne]
    cases hcallee : s.child? .callee with
    | none => rfl
    | some callee =>
      have halike := e.alike_apply (Site.at?_of_child? hs hcallee)
      by_cases hid : callee.node.kind = .identifier
      · simp [Option.filter, ← halike.kind, hid, ← halike.start, ← halike.text src]
      · simp [Option.filter, ← halike.kind, hid]
  · rfl

theorem runScript_apply {moves : List Move}
    (hlookup : ∀ call, .lookup call ∈ moves →
      ∀ ask, (e.apply call).node.lookup? src ask = call.node.lookup? src ask)
    (ht : ∀ t ∈ Move.targets moves, ∀ c,
      SameOutside e.old.way (walk src c t) (walk src c (e.apply t))) (c : ScopeChain) :
    SameOutside e.old.way (runScript src c moves) (runScript src c (moves.map e.act)) := by
  induction moves generalizing c with
  | nil => exact ⟨rfl, rfl⟩
  | cons move rest ih =>
    have hrest := fun call h => hlookup call (List.mem_cons_of_mem move h)
    rw [List.map_cons]
    cases move with
    | push =>
      rw [Edit.act, runScript, runScript]
      exact ih hrest ht _
    | pop =>
      rw [Edit.act, runScript, runScript]
      exact ih hrest ht _
    | declare names what =>
      rw [Edit.act, runScript, runScript]
      exact ih hrest ht _
    | lookup call =>
      have hlater := ih hrest ht c
      rw [Edit.act, runScript, runScript, hlookup call List.mem_cons_self]
      refine ⟨hlater.scopes, ?_⟩
      simp only [List.filter_append, hlater.lookups, Edit.way_apply]
    | visit t =>
      simp only [Move.targets, List.forall_mem_cons] at ht
      have hhere := ht.1 c
      have hlater := ih hrest ht.2 (walk src c t).1
      rw [Edit.act, runScript, runScript]
      refine ⟨?_, ?_⟩
      · simp only [hhere.scopes, hlater.scopes]
      · simp only [hhere.scopes, List.filter_append, hhere.lookups, hlater.lookups]

theorem Site.eq_of_lookup_mem_script {s call : Site} (h : .lookup call ∈ s.script src) :
    call = s := by
  by_cases hcall : Visit.of s.node = .call
  · simpa [Site.script, hcall, Move.visits] using h
  · exact absurd h (Site.lookup_not_mem_script hcall call)

/-- One visit before and after the edit. -/
theorem walk_apply (hold : e.old.node.kind.encloses) (hvisited : e.old ∈ root.visitedSites)
    {s : Site} (hs : s ∈ root.visitedSites) (c : ScopeChain) :
    SameOutside e.old.way (walk src c s) (walk src c (e.apply s)) := by
  induction s using Site.parts_induction generalizing c with
  | h s ih =>
    have hat := Node.at?_of_mem_visitedSites hs
    by_cases hway : s.way = e.old.way
    · -- The replaced node: it declares nothing outside, whatever is in it.
      have hencloses : s.node.kind.encloses := by rwa [Site.eq_of_way_eq hat e.at_old hway]
      have hencloses' : (e.apply s).node.kind.encloses := by rwa [← (e.alike_apply hat).kind]
      refine ⟨?_, ?_⟩
      · rw [walk_of_enclosed src c (Visit.opensScope_of_encloses hencloses),
          walk_of_enclosed src c (Visit.opensScope_of_encloses hencloses')]
      · rw [← hway, List.filter_eq_nil_iff.mpr, List.filter_eq_nil_iff.mpr]
        · exact fun l hl => by simpa using way_le_of_mem_walk hl
        · exact fun l hl => by simpa using way_le_of_mem_walk hl
    · rw [walk_eq, walk_eq, e.script_apply hs hway hvisited hold]
      refine runScript_apply e ?_ ?_ c
      · intro call hcall ask
        rw [Site.eq_of_lookup_mem_script hcall]
        exact lookup?_apply e hat hway ask
      · intro t ht c
        rw [Site.targets_script] at ht
        exact ih t ht (Node.mem_visitedSites_of_mem_parts hs ht) c

/-- The lookups outside the replaced node. -/
theorem fileLookups_result (src : Source) (hold : e.old.node.kind.encloses)
    (hvisited : e.old ∈ root.visitedSites) :
    (fileLookups src e.result).filter (fun l => ¬ e.old.way <+: l.1) =
      (fileLookups src root).filter fun l => ¬ e.old.way <+: l.1 := by
  have hne : (Site.root root).way ≠ e.old.way :=
    (Node.way_ne_nil_of_mem_visitedSites hvisited).symm
  rw [fileLookups, fileLookups, e.fileScope_result src hold hvisited, ← e.apply_root,
    e.namedChildren_apply rfl hne, ← e.map_act_visits]
  refine (runScript_apply e ?_ ?_ _).lookups
  · simp [Move.visits]
  · intro t ht c
    rw [Move.targets_visits] at ht
    exact walk_apply e hold hvisited
      (Node.mem_visitedSites.mpr ⟨t, ht, t.self_mem_visited⟩) c

end TwoRuns

/-- The offsets of the names that visited calls at or below `way` call. -/
def Node.calledWithin (root : Node) (way : Way) : List Nat :=
  (root.visitedSites.filter fun s => way <+: s.way).filterMap fun s =>
    s.node.calledName?.map Node.start

/-- For an offset that no call at or below `way` is about, the lookups elsewhere decide whether the
callee there is noted. -/
theorem mem_resolve_iff_outside {src : Source} {root : Node} {way : Way} {offset : Nat}
    (h : offset ∉ root.calledWithin way) :
    offset ∈ resolve src root ↔ ∃ l ∈ (fileLookups src root).filter (fun l => ¬ way <+: l.1),
      l.2.answer = some .function ∧ l.2.offset = offset := by
  rw [mem_resolve]
  constructor
  · rintro ⟨l, hl, hanswer, hoffset⟩
    refine ⟨l, List.mem_filter.mpr ⟨hl, decide_eq_true fun hbelow => h ?_⟩, hanswer, hoffset⟩
    obtain ⟨s, hs, hway, callee, hcallee, hstart⟩ := exists_visited_of_lookup hl
    refine List.mem_filterMap.mpr ⟨s, List.mem_filter.mpr ⟨hs, ?_⟩, ?_⟩
    · rw [hway]
      exact decide_eq_true hbelow
    · rw [hcallee, Option.map_some, hstart, hoffset]
  · rintro ⟨l, hl, hfound⟩
    exact ⟨l, (List.mem_filter.mp hl).1, hfound⟩

/-- Whatever is put into a visited node that encloses its declarations, every lookup outside it is
made as before and has the same answer. So a callee is noted as before, unless a call inside the
node, the old or the new one, has its callee at the same offset. -/
theorem lookups_outside_unchanged (src : Source) {root : Node} {x : Site}
    (hx : x ∈ root.visitedSites) (hkind : x.node.kind.encloses) {new : Node}
    (halike : x.node.Alike new) :
    (fileLookups src (root.replaceAt x.way new)).filter (fun l => ¬ x.way <+: l.1) =
        (fileLookups src root).filter (fun l => ¬ x.way <+: l.1) ∧
      ∀ offset, offset ∉ root.calledWithin x.way →
        offset ∉ (root.replaceAt x.way new).calledWithin x.way →
        (offset ∈ resolve src (root.replaceAt x.way new) ↔ offset ∈ resolve src root) := by
  have hfilter := fileLookups_result ⟨x, new, Node.at?_of_mem_visitedSites hx, halike⟩ src hkind hx
  simp only [Edit.result] at hfilter
  refine ⟨hfilter, fun offset hold hnew => ?_⟩
  rw [mem_resolve_iff_outside hold, mem_resolve_iff_outside hnew, hfilter]

/-- A file with a block in which `f` is a variable, and a call of the function `f` after it. -/
def shadowedInBlockSource : Source :=
  .ofString "func f()\x7b\x7d\nfunc g()\x7b\x7bf:=0\x7d\nf()\x7d"

/-- The block that declares the variable. -/
def shadowingBlock : Node :=
  .branch .block 20 26 none
    [.branch .statementList 21 25 none
      [.branch .shortVarDeclaration 21 25 none
        [.branch .expressionList 21 22 (some .left) [.branch .identifier 21 22 none []],
         .branch .expressionList 24 25 (some .right) [.branch .intLiteral 24 25 none []]]]]

/-- The file with this block in front of the call. -/
def shadowedInBlock : Node :=
  .branch .sourceFile 0 31 none
    [.branch .functionDeclaration 0 10 none
      [.branch .identifier 5 6 (some .name) [], .branch .parameterList 6 8 (some .parameters) [],
       .branch .block 8 10 (some .body) []],
     .branch .functionDeclaration 11 31 none
      [.branch .identifier 16 17 (some .name) [],
       .branch .parameterList 17 19 (some .parameters) [],
       .branch .block 19 31 (some .body)
        [.branch .statementList 20 30 none
          [shadowingBlock,
           .branch .expressionStatement 27 30 none
            [.branch .callExpression 27 30 none
              [.branch .identifier 27 28 (some .callee) [],
               .branch .argumentList 28 30 (some .arguments) []]]]]]]

theorem shadowedInBlock_unchanged :
    27 ∈ resolve shadowedInBlockSource
        (shadowedInBlock.replaceAt [1, 2, 0, 0] (.branch .block 20 26 none [])) ↔
      27 ∈ resolve shadowedInBlockSource shadowedInBlock := by
  have hsite : ⟨[1, 2, 0, 0], shadowingBlock⟩ ∈ shadowedInBlock.sites := Node.mem_sites.mpr rfl
  have hvisited : ⟨[1, 2, 0, 0], shadowingBlock⟩ ∈ shadowedInBlock.visitedSites :=
    (Node.mem_visitedSites_iff_way hsite).mpr (by decide +kernel)
  have halike : shadowingBlock.Alike (.branch .block 20 26 none []) := ⟨rfl, rfl, rfl, rfl, rfl⟩
  exact (lookups_outside_unchanged shadowedInBlockSource hvisited rfl halike).2 27
    (by decide +kernel) (by decide +kernel)

end GoMeter
