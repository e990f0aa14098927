import GoMeter.Proofs.Scope.Tasks
import GoMeter.Proofs.Size.Weighed
import GoMeter.Proofs.Syntax.Strip

/-!
# Trivia does not count

Several rules look at the children of a node one by one or count them: the operands of a union, the
label of a statement, the target of a keyed element, the names in a list. None of them is misled by a
comment or by punctuation in between, so the functions of a file, their sizes and calls, and what its
names stand for are those of the tree without trivia.

* `functions_strip`, `calls_strip`: the same functions and the same calls.
* `countBody_strip`: the same sizes; `tally_kept` carries it through the work list.
* `fileScope_strip`: the same names at file level.
* `visitNode_strip`, `performAll_kept`: a visit of a stripped node declares and notes the same, and it
  leaves the same to do but for visits of comments.
* `metrics_strip`: all of it together.
-/

namespace GoMeter

open Node (kept)

variable {n : Node}

/-! ## Functions and calls -/

theorem Node.isFunction_strip (h : n.PlainComments) : n.strip.isFunction = n.isFunction := by
  rw [isFunction, child?_strip h, kind_strip, Option.isSome_map, isFunction]

theorem Node.functions_strip (h : n.PlainComments) : n.strip.functions = n.functions.map strip := by
  rw [functions, named_strip h]
  refine filter_kept (fun m _ hfunction hkind => ?_) fun m hm => isFunction_strip (h.of_mem_named hm)
  simp [isFunction, hkind, Kind.isFunctionDeclaration] at hfunction

theorem Node.calls_strip (h : n.PlainComments) : n.strip.calls = n.calls.map strip := by
  rw [calls, named_strip h]
  refine filter_kept (fun m _ hcall hkind => ?_) fun m _ => by rw [kind_strip]
  simp [hkind] at hcall

theorem classify_strip {call : Node} (h : call.PlainComments) (src : Source) (callees : List Nat) :
    classify src callees call.strip = classify src callees call := by
  unfold classify
  rw [Node.child?_strip h, Node.child?_strip h, Option.isSome_map]
  cases call.child? .callee with
  | none => rfl
  | some callee => simp only [Option.map_some, Node.kind_strip, Node.text_strip, Node.start_strip]

theorem countCalls_strip (h : n.PlainComments) (src : Source) (callees : List Nat) :
    countCalls src callees (n.strip.child? .body) = countCalls src callees (n.child? .body) := by
  rw [Node.child?_strip h]
  cases hbody : n.child? .body with
  | none => rfl
  | some body =>
    have hplain := h.of_child? hbody
    simp only [countCalls, Option.map_some]
    rw [Node.calls_strip hplain, List.filter_map, List.length_map]
    congr 1
    refine List.filter_congr fun call hcall => ?_
    rw [Function.comp_apply, classify_strip (hplain.of_mem_named (List.mem_filter.mp hcall).1)]

theorem hasCalls_strip (h : n.PlainComments) (src : Source) (callees : List Nat) :
    hasCalls src callees (n.strip.child? .body) = hasCalls src callees (n.child? .body) := by
  rw [Node.child?_strip h]
  cases hbody : n.child? .body with
  | none => rfl
  | some body =>
    have hplain := h.of_child? hbody
    simp only [hasCalls, Option.map_some]
    rw [Node.calls_strip hplain, List.any_map, Bool.eq_iff_iff, List.any_eq_true, List.any_eq_true]
    refine exists_congr fun call => and_congr_right fun hcall => ?_
    rw [Function.comp_apply, classify_strip (hplain.of_mem_named (List.mem_filter.mp hcall).1)]

/-! ## Sizes -/

theorem unionOperands_strip (n : Node) : unionOperands n.strip = unionOperands n := by
  rw [unionOperands, Node.namedChildren_strip, Node.filter_ne_comment_kept, kept, List.length_map,
    unionOperands]

theorem isBareLabel_strip (n : Node) : isBareLabel n.strip = isBareLabel n := by
  rw [isBareLabel, Node.namedChildren_strip, kept, List.all_map, List.all_filter, isBareLabel]
  refine List.all_congr rfl fun c => ?_
  by_cases hkind : c.kind = .comment <;> simp [hkind]

theorem weight_strip (n : Node) : weight n.strip = weight n := by
  rw [weight, Node.kind_strip, unionOperands_strip, isBareLabel_strip, weight]

theorem embeddedPointer_strip (h : n.PlainComments) :
    embeddedPointer n.strip = embeddedPointer n := by
  rw [embeddedPointer, Node.child?_strip h, n.any_children_strip (.inr rfl), Node.kind_strip,
    Option.isNone_map, embeddedPointer]

theorem category_strip (parent : Option Kind) (n : Node) :
    Category.of parent n.strip = Category.of parent n := by
  rw [Category.of, Node.kind_strip, unionOperands_strip, Category.of]

theorem keyedTarget?_strip (h : n.PlainComments) :
    keyedTarget? n.strip = (keyedTarget? n).map Node.strip := by
  rw [keyedTarget?, Node.child?_strip h, keyedTarget?]
  cases n.child? .value with
  | some value => rfl
  | none =>
    simp only [Option.map_none]
    rw [Node.namedChildren_strip, Node.filter_ne_comment_kept, kept, List.getLast?_map]

theorem kind_ne_comment_of_keyedTarget? (h : n.PlainComments) {target : Node}
    (htarget : keyedTarget? n = some target) : target.kind ≠ .comment := by
  unfold keyedTarget? at htarget
  cases hvalue : n.child? .value with
  | some value =>
    rw [hvalue] at htarget
    cases htarget
    exact h.kind_ne_comment_of_child? hvalue
  | none =>
    rw [hvalue] at htarget
    simpa using (List.mem_filter.mp (List.mem_of_getLast? htarget)).2

theorem onward_strip (h : n.PlainComments) : n.strip.onward = kept n.onward := by
  unfold Node.onward
  rw [Node.kind_strip]
  split
  · rfl
  · rfl
  · rw [keyedTarget?_strip h]
    cases htarget : keyedTarget? n with
    | none => rfl
    | some target =>
      have hkind := kind_ne_comment_of_keyedTarget? h htarget
      simp [Node.kept_cons hkind]
  · rw [Node.namedChildren_strip, Node.kept_reverse]

theorem Node.PlainComments.of_mem_onward {c : Node} (h : n.PlainComments) (hc : c ∈ n.onward) :
    c.PlainComments := by
  have hsites : (⟨[], n⟩ : Site).onward.map Site.node = n.onward := Site.map_node_onward _
  rw [← hsites] at hc
  obtain ⟨u, hu, rfl⟩ := List.mem_map.mp hc
  exact h.of_mem_children (Site.node_mem_children (Traversal.counting.subset_children _ hu))

namespace Placed

/-- What is left of a work list of the count. -/
def kept (ps : List Placed) : List Placed :=
  (ps.filter fun p => p.node.kind ≠ .comment).map fun p => ⟨p.parent, p.node.strip⟩

theorem kept_map (parent : Option Kind) (ns : List Node) :
    kept (ns.map fun n => ⟨parent, n⟩) = (Node.kept ns).map fun n => ⟨parent, n⟩ := by
  rw [kept, List.filter_map, List.map_map, Node.kept, List.map_map]
  rfl

theorem units_strip {p : Placed} (h : p.node.PlainComments) :
    units ⟨p.parent, p.node.strip⟩ = p.units := by
  rw [units, category, category_strip, weight_strip, embeddedPointer_strip h, units, category]

end Placed

/-- The count of a work list is the count of what is left of it. -/
theorem tally_kept (total : Int) (ps : List Placed) (hps : ∀ p ∈ ps, p.node.PlainComments) :
    tally total (Placed.kept ps) = tally total ps := by
  induction h : Placed.sizes ps using Nat.strongRecOn generalizing total ps with
  | ind size ih =>
    subst h
    cases ps with
    | nil => rfl
    | cons p rest =>
      have hp := hps p List.mem_cons_self
      have hsmaller : Placed.sizes (p.onward ++ rest) < Placed.sizes (p :: rest) := by
        have := p.sizes_onward_lt
        rw [Placed.sizes_append, Placed.sizes_cons]
        omega
      have hplain : ∀ q ∈ p.onward ++ rest, q.node.PlainComments := by
        intro q hq
        rcases List.mem_append.mp hq with hq | hq
        · obtain ⟨c, hc, rfl⟩ := List.mem_map.mp hq
          exact hp.of_mem_onward hc
        · exact hps q (List.mem_cons_of_mem _ hq)
      have hrest := ih _ hsmaller (total + p.units) _ hplain rfl
      rw [tally_cons, ← hrest]
      by_cases hkind : p.node.kind = .comment
      · -- A comment adds nothing and leads nowhere.
        simp [Placed.kept, Placed.onward, Node.onward, Placed.units, Placed.category, Category.of,
          hkind]
      · have honward : Placed.onward ⟨p.parent, p.node.strip⟩ = Placed.kept p.onward := by
          rw [Placed.onward, onward_strip hp, Placed.onward, Placed.kept_map, Node.kind_strip]
        have hkept : Placed.kept (p :: rest) = ⟨p.parent, p.node.strip⟩ :: Placed.kept rest := by
          simp [Placed.kept, hkind]
        rw [hkept, tally_cons, Placed.units_strip hp, honward]
        simp [Placed.kept]

theorem countBody_strip (h : n.PlainComments) : countBody n.strip = countBody n := by
  rw [countBody, Node.child?_strip h, Node.kind_strip, countBody]
  cases hbody : n.child? .body with
  | none => rfl
  | some body =>
    have hplain : ∀ p ∈ [(⟨some n.kind, body⟩ : Placed)], p.node.PlainComments := by
      simpa using h.of_child? hbody
    have hkept := tally_kept 0 _ hplain
    simpa [Placed.kept, h.kind_ne_comment_of_child? hbody] using hkept

/-! ## The names of a file -/

theorem Node.PlainComments.of_mem_specs {what : ObjectKind} {spec : Node} (h : n.PlainComments)
    (hspec : spec ∈ n.specs what) : spec.PlainComments := by
  have hsites : ((Site.root n).specs what).map Site.node = n.specs what := Site.map_node_specs _ _
  rw [← hsites] at hspec
  obtain ⟨u, hu, rfl⟩ := List.mem_map.mp hspec
  exact h.of_at? (Site.at?_of_mem_specs (s := Site.root n) rfl hu)

theorem Scope.addDeclaration_strip (h : n.PlainComments) (src : Source) (scope : Scope) :
    scope.addDeclaration src n.strip = scope.addDeclaration src n := by
  have hname : (n.strip.child? .name).map (·.text src) = (n.child? .name).map (·.text src) := by
    rw [Node.child?_strip h, Option.map_map]
    congr 1
    funext name
    exact name.text_strip src
  have hspecs : ∀ what, (n.strip.specs what).foldl
        (fun s spec => s.declareAll (spec.declaredNames src) what) scope =
      (n.specs what).foldl (fun s spec => s.declareAll (spec.declaredNames src) what) scope := by
    intro what
    rw [Node.specs_strip, List.foldl_map]
    refine List.foldl_ext _ _ _ fun s spec hspec => ?_
    rw [Node.declaredNames_strip (h.of_mem_specs hspec)]
  simp only [Scope.addDeclaration, Node.kind_strip, hname, hspecs]

theorem fileScope_strip (h : n.PlainComments) (src : Source) :
    fileScope src n.strip = fileScope src n := by
  rw [fileScope, Node.namedChildren_strip, fileScope]
  refine Node.foldl_kept _ (fun scope c _ hkind => ?_) (fun scope c hc => ?_) _
  · simp [Scope.addDeclaration, hkind, Kind.declared?]
  · exact Scope.addDeclaration_strip (h.of_mem_namedChildren hc) src scope

/-! ## The tasks of the resolver -/

theorem Visit.of_strip (n : Node) : Visit.of n.strip = Visit.of n := by
  rw [Visit.of, Node.kind_strip, n.any_children_strip (.inl rfl), Visit.of]

theorem boundNames_strip (src : Source) (m : Option Node) :
    boundNames src (m.map Node.strip) = boundNames src m := by
  cases m with
  | none => rfl
  | some n =>
    rw [Option.map_some, boundNames, boundNames, boundIdentifiers, boundIdentifiers,
      Node.kind_strip]
    split_ifs with hkind
    · simp
    · rw [Node.namedChildren_strip, Node.filter_kept (fun c _ hc hcomment => by simp [hcomment] at hc)
        (fun c _ => by rw [Node.kind_strip]), List.map_map]
      simp

theorem Resolution.declare_nil (r : Resolution) (scope : Nat) (what : ObjectKind) :
    r.declare scope [] what = r := by
  have hframes : r.arena.frames.modify scope
      (fun f => { f with scope := f.scope.declareAll [] what }) = r.arena.frames := by
    refine Array.ext (Array.size_modify ..) fun i hi hi' => ?_
    rw [Array.getElem_modify]
    split_ifs <;> rfl
  rw [Resolution.declare, Arena.declareAll, hframes]

theorem Resolution.noteCallee_strip (h : n.PlainComments) (src : Source) (r : Resolution)
    (scope : Nat) : r.noteCallee src n.strip scope = r.noteCallee src n scope := by
  rw [noteCallee, Node.child?_strip h, noteCallee]
  cases n.child? .callee with
  | none => rfl
  | some callee => simp only [Option.map_some, Node.kind_strip, Node.text_strip, Node.start_strip]

/-- Declares groups of names in a scope, as the head of a function does. -/
def Resolution.declareGroups (r : Resolution) (scope : Nat)
    (groups : List (List String × ObjectKind)) : Resolution :=
  groups.foldl (fun r (names, what) => r.declare scope names what) r

theorem declareGroups_parameterNames_strip {params : Node} (h : params.PlainComments)
    (src : Source) (scope : Nat) (r : Resolution) :
    r.declareGroups scope (parameterNames src (some params.strip)) =
      r.declareGroups scope (parameterNames src (some params)) := by
  -- A comment between parameters declares no names.
  have hlist : ∀ what, r.declareGroups scope ((kept params.namedChildren).map fun p =>
        (p.declaredNames src, what)) =
      r.declareGroups scope (params.namedChildren.map fun p => (p.declaredNames src, what)) := by
    intro what
    rw [Resolution.declareGroups, Resolution.declareGroups, List.foldl_map, List.foldl_map]
    refine Node.foldl_kept _ (fun r p hp hkind => ?_) (fun r p hp => ?_) r
    · have hnames : p.declaredNames src = [] := by
        simp [Node.declaredNames, Node.childrenAt, ((h.of_mem_namedChildren hp).here hkind).1]
      simp only [hnames, Resolution.declare_nil]
    · simp only [Node.declaredNames_strip (h.of_mem_namedChildren hp)]
  simp only [parameterNames, Node.kind_strip, Node.namedChildren_strip]
  split
  · exact hlist .variable
  · exact hlist .type
  · rfl

/-- The head of a stripped function declares the same. -/
theorem declareGroups_headNames_strip (h : n.PlainComments) (src : Source) (scope : Nat)
    (r : Resolution) :
    r.declareGroups scope (headNames src n.strip) = r.declareGroups scope (headNames src n) := by
  unfold headNames Resolution.declareGroups
  induction parameterFields generalizing r with
  | nil => rfl
  | cons f rest ih =>
    rw [List.flatMap_cons, List.foldl_append, ih, List.flatMap_cons, List.foldl_append,
      Node.child?_strip h]
    congr 1
    cases hparams : n.child? f with
    | none => rfl
    | some params => exact declareGroups_parameterNames_strip (h.of_child? hparams) src scope r

namespace Task

/-- What is left of a task: nothing, if it is to visit a comment. -/
def strip? : Task → Option Task
  | .visit n scope => if n.kind = .comment then none else some (.visit n.strip scope)
  | .declare scope names what => some (.declare scope names what)

/-- What is left of a list of tasks. -/
def kept (ts : List Task) : List Task := ts.filterMap strip?

theorem kept_append (ts us : List Task) : kept (ts ++ us) = kept ts ++ kept us := by
  simp [kept]

@[simp] theorem kept_declare (scope : Nat) (names : List String) (what : ObjectKind) :
    kept [.declare scope names what] = [.declare scope names what] := rfl

theorem kept_visits (ns : List Node) (scope : Nat) :
    kept (visits ns scope) = visits (Node.kept ns) scope := by
  have hcons : ∀ m ms, visits (m :: ms) scope = .visit m scope :: visits ms scope := fun _ _ => rfl
  induction ns with
  | nil => rfl
  | cons n rest ih =>
    by_cases hkind : n.kind = .comment
    · rw [Node.kept_cons_of_comment hkind, ← ih, hcons]
      simp [kept, strip?, hkind]
    · rw [Node.kept_cons hkind, hcons, hcons, ← ih]
      simp [kept, strip?, hkind]

theorem kept_visit? (h : n.PlainComments) (f : Field) (scope : Nat) :
    kept (visit? (n.child? f) scope) = visit? (n.strip.child? f) scope := by
  rw [visit?, kept_visits, visit?, Node.child?_strip h]
  cases hc : n.child? f with
  | none => rfl
  | some c => simp [Node.kept_cons (h.kind_ne_comment_of_child? hc)]

theorem clauses_strip (aliases : List String) (outer : Nat) (r : Resolution) (ns : List Node) :
    clauses aliases outer r (ns.map Node.strip) =
      (kept (clauses aliases outer r ns).1, (clauses aliases outer r ns).2) := by
  induction ns with
  | nil => rfl
  | cons n rest ih =>
    rw [List.map_cons, clauses, ih, clauses]
    simp [clause, Node.namedChildren_strip, kept_append, kept_visits]

/-- A visit of a stripped node declares and notes what a visit of the node does, and it leaves the same
to do but for visits of comments. -/
theorem visitNode_strip (h : n.PlainComments) (src : Source) (scope : Nat) (r : Resolution) :
    visitNode src n.strip scope r =
      (kept (visitNode src n scope r).1, (visitNode src n scope r).2) := by
  unfold visitNode
  rw [Visit.of_strip]
  split
  · rw [Node.namedChildren_strip, kept_visits]
  · rw [Node.namedChildren_strip, kept_visits]
  · rw [Node.namedChildren_strip, kept_visits, Resolution.noteCallee_strip h]
  · have hhead := declareGroups_headNames_strip h src (r.openScope scope).1 (r.openScope scope).2
    rw [Node.child?_strip h]
    refine Prod.ext ?_ hhead
    cases n.child? .body with
    | none => rfl
    | some body => simp [Node.namedChildren_strip, kept_visits]
  · rw [kept_append, kept_visit? h, kept_declare, Node.child?_strip h .left, boundNames_strip]
  · rw [Node.specs_strip, ← List.map_reverse, List.foldl_map]
    refine Prod.ext rfl (List.foldl_ext _ _ _ fun r spec hspec => ?_)
    rw [Node.declaredNames_strip (h.of_mem_specs (List.mem_reverse.mp hspec))]
  · next what _ _ =>
    rw [Node.specs_strip, List.flatMap_map]
    refine Prod.ext ?_ rfl
    simp only [kept, List.filterMap_flatMap]
    refine List.flatMap_congr fun spec hspec => ?_
    have hplain := h.of_mem_specs hspec
    rw [Node.declaredNames_strip hplain, ← kept, kept_append, kept_visit? hplain, kept_declare]
  · have hclauses : n.strip.namedChildren.filter isClause =
        (n.namedChildren.filter isClause).map Node.strip := by
      rw [Node.namedChildren_strip]
      refine Node.filter_kept (fun c _ hc hkind => ?_) fun c _ => ?_
      · simp [isClause, hkind] at hc
      · rw [isClause, Node.kind_strip, isClause]
    simp only [hclauses, clauses_strip, Node.child?_strip h .alias, boundNames_strip, kept_append,
      kept_visit? h]

/-- Whether the comments in what a task visits are leaves without a field. -/
def Plain : Task → Prop
  | .visit n _ => n.PlainComments
  | .declare _ _ _ => True

theorem plain_visits {ns : List Node} (h : ∀ n ∈ ns, n.PlainComments) (scope : Nat) :
    ∀ t ∈ visits ns scope, t.Plain := by
  intro t ht
  obtain ⟨n, hn, rfl⟩ := List.mem_map.mp ht
  exact h n hn

theorem plain_visit? (h : n.PlainComments) (f : Field) (scope : Nat) :
    ∀ t ∈ visit? (n.child? f) scope, t.Plain :=
  plain_visits (fun _ hc => h.of_child? (Option.mem_toList.mp hc)) scope

theorem plain_clauses (aliases : List String) (outer : Nat) (r : Resolution) {ns : List Node}
    (h : ∀ n ∈ ns, n.PlainComments) : ∀ t ∈ (clauses aliases outer r ns).1, t.Plain := by
  induction ns with
  | nil => simp [clauses]
  | cons n rest ih =>
    have hn := h n List.mem_cons_self
    exact List.forall_mem_append.mpr ⟨plain_visits (fun _ => hn.of_mem_namedChildren) _,
      ih fun m hm => h m (List.mem_cons_of_mem _ hm)⟩

theorem plain_visitNode (h : n.PlainComments) (src : Source) (scope : Nat) (r : Resolution) :
    ∀ t ∈ (visitNode src n scope r).1, t.Plain := by
  have hnamed : ∀ scope, ∀ t ∈ visits n.namedChildren scope, t.Plain :=
    plain_visits fun _ => h.of_mem_namedChildren
  unfold visitNode
  split
  · exact hnamed scope
  · exact hnamed _
  · exact hnamed scope
  · cases hbody : n.child? .body with
    | none => simp
    | some body => exact plain_visits (fun _ => (h.of_child? hbody).of_mem_namedChildren) _
  · exact List.forall_mem_append.mpr
      ⟨plain_visit? h .right scope, List.forall_mem_singleton.mpr trivial⟩
  · simp
  · intro t ht
    obtain ⟨spec, hspec, ht⟩ := List.mem_flatMap.mp ht
    rcases List.mem_append.mp ht with ht | ht
    · exact plain_visit? (h.of_mem_specs hspec) .value scope t ht
    · rw [List.mem_singleton.mp ht]
      trivial
  · have hclauses : ∀ c ∈ n.namedChildren.filter isClause, c.PlainComments :=
      fun c hc => h.of_mem_namedChildren (List.mem_filter.mp hc).1
    have hhead := List.forall_mem_append.mpr
      ⟨plain_visit? h .initializer (r.openScope scope).1, plain_visit? h .value (r.openScope scope).1⟩
    exact List.forall_mem_append.mpr ⟨hhead, plain_clauses _ _ _ hclauses⟩

theorem plain_perform {t : Task} (h : t.Plain) (src : Source) (r : Resolution) :
    ∀ u ∈ (t.perform src r).1, u.Plain := by
  cases t with
  | visit n scope => exact plain_visitNode h src scope r
  | declare scope names what => simp [perform]

/-- A visit of a comment does nothing. -/
theorem perform_comment (h : n.PlainComments) (hkind : n.kind = .comment) (src : Source)
    (scope : Nat) (r : Resolution) : (visit n scope).perform src r = ([], r) := by
  have hvisit : Visit.of n = .plain := by simp [Visit.of, hkind]
  rw [perform, visitNode, hvisit]
  simp [h.namedChildren_eq_nil hkind, visits]

/-- What is left of a task does the same, and leaves the same to do but for visits of comments. -/
theorem perform_strip? {t u : Task} (h : t.Plain) (hu : t.strip? = some u) (src : Source)
    (r : Resolution) : u.perform src r = (kept (t.perform src r).1, (t.perform src r).2) := by
  cases t with
  | visit n scope =>
    simp only [strip?] at hu
    split_ifs at hu
    cases hu
    exact visitNode_strip h src scope r
  | declare scope names what =>
    cases hu
    rfl

/-- Performing what is left of a list of tasks comes to the same. -/
theorem performAll_kept (src : Source) (r : Resolution) (ts : List Task) (hts : ∀ t ∈ ts, t.Plain) :
    performAll src r (kept ts) = performAll src r ts := by
  induction h : charges ts using Nat.strongRecOn generalizing r ts with
  | ind charge ih =>
    subst h
    cases ts with
    | nil => rfl
    | cons t pending =>
      have ht := hts t List.mem_cons_self
      have hsmaller : charges ((t.perform src r).1 ++ pending) < charges (t :: pending) := by
        have := charges_perform_lt src r t
        simp only [charges_append, charges_cons]
        omega
      have hplain : ∀ u ∈ (t.perform src r).1 ++ pending, u.Plain :=
        List.forall_mem_append.mpr
          ⟨plain_perform ht src r, fun u hu => hts u (List.mem_cons_of_mem _ hu)⟩
      have hrest := ih _ hsmaller (t.perform src r).2 _ hplain rfl
      rw [performAll_cons, ← hrest, kept_append]
      cases hstrip : t.strip? with
      | some u =>
        have hkept : kept (t :: pending) = u :: kept pending := by simp [kept, hstrip]
        rw [hkept, performAll_cons, perform_strip? ht hstrip]
      | none =>
        have hkept : kept (t :: pending) = kept pending := by simp [kept, hstrip]
        cases t with
        | declare scope names what => cases hstrip
        | visit n scope =>
          have hkind : n.kind = .comment := by
            by_contra hne
            simp [strip?, hne] at hstrip
          rw [hkept, perform_comment ht hkind]
          rfl

end Task

theorem resolve_strip (h : n.PlainComments) (src : Source) : resolve src n.strip = resolve src n := by
  rw [resolve, fileScope_strip h, Node.namedChildren_strip, ← Task.kept_visits,
    Task.performAll_kept _ _ _ (Task.plain_visits (fun _ => h.of_mem_namedChildren) 0), resolve]

/-! ## All together -/

/-- Let the comments of a file be leaves that fill no field. Without the comments and without the
tokens that fill no field, except `:=` and `*`, the file has the same functions, each of the same size
and with the same calls; it declares the same names, and the same callees name a function. -/
theorem metrics_strip (src : Source) {root : Node} (h : root.PlainComments) :
    root.strip.functions.map Node.start = root.functions.map Node.start ∧
      root.strip.functions.map countBody = root.functions.map countBody ∧
      (root.strip.functions.map fun f =>
          countCalls src (resolve src root.strip) (f.child? .body)) =
        root.functions.map (fun f => countCalls src (resolve src root) (f.child? .body)) ∧
      (root.strip.functions.map fun f => hasCalls src (resolve src root.strip) (f.child? .body)) =
        root.functions.map (fun f => hasCalls src (resolve src root) (f.child? .body)) ∧
      fileScope src root.strip = fileScope src root ∧
      resolve src root.strip = resolve src root := by
  have hplain : ∀ f ∈ root.functions, f.PlainComments :=
    fun f hf => h.of_mem_named (List.mem_filter.mp hf).1
  rw [Node.functions_strip h, resolve_strip h]
  refine ⟨?_, ?_, ?_, ?_, fileScope_strip h src, rfl⟩
  all_goals rw [List.map_map]
  · exact List.map_congr_left fun f _ => f.start_strip
  · exact List.map_congr_left fun f hf => countBody_strip (hplain f hf)
  · exact List.map_congr_left fun f hf => countCalls_strip (hplain f hf) src _
  · exact List.map_congr_left fun f hf => hasCalls_strip (hplain f hf) src _

/-- A token of the grammar that fills no field. -/
def Node.token (spelling : String) (start stop : Nat) : Node :=
  .mk ⟨.other spelling, start, stop, false, none, false⟩ []

/-- A file in which a comment stands between the arguments of a call. -/
def commentedCallSource : Source :=
  .ofString "package p\n\nfunc g(a int) \x7b\x7d\n\nfunc f() \x7b g(/* one */ 1) \x7d\n"

/-- The tree of this file, with the tokens and line feeds that a parser keeps. -/
def commentedCall : Node :=
  .branch .sourceFile 0 57 none
    [.branch .packageClause 0 9 none [.token "package" 0 7, .branch .packageIdentifier 8 9 none []],
     .token "\n" 9 11,
     .branch .functionDeclaration 11 27 none
      [.token "func" 11 15, .branch .identifier 16 17 (some .name) [],
       .branch .parameterList 17 24 (some .parameters)
        [.token "(" 17 18,
         .branch .parameterDeclaration 18 23 none
          [.branch .identifier 18 19 (some .name) [], .branch .typeIdentifier 20 23 (some .type) []],
         .token ")" 23 24],
       .branch .block 25 27 (some .body) [.token "\x7b" 25 26, .token "\x7d" 26 27]],
     .token "\n" 27 29,
     .branch .functionDeclaration 29 56 none
      [.token "func" 29 33, .branch .identifier 34 35 (some .name) [],
       .branch .parameterList 35 37 (some .parameters) [.token "(" 35 36, .token ")" 36 37],
       .branch .block 38 56 (some .body)
        [.token "\x7b" 38 39,
         .branch .expressionStatement 40 54 none
          [.branch .callExpression 40 54 none
            [.branch .identifier 40 41 (some .callee) [],
             .branch .argumentList 41 54 (some .arguments)
              [.token "(" 41 42, .branch .comment 42 51 none [], .branch .intLiteral 52 53 none [],
               .token ")" 53 54]]],
         .token "\x7d" 55 56]],
     .token "\n" 56 57]

theorem commentedCall_metrics :
    commentedCall.size = 36 ∧ commentedCall.strip.size = 19 ∧
      resolve commentedCallSource commentedCall = [40] ∧
      resolve commentedCallSource commentedCall.strip = [40] ∧
      commentedCall.functions.map countBody = [0, 4] ∧
      commentedCall.strip.functions.map countBody = [0, 4] := by
  have hplain : commentedCall.PlainComments := by
    unfold Node.PlainComments
    decide +kernel
  have hcallees : resolve commentedCallSource commentedCall = [40] := by decide +kernel
  have hsizes : commentedCall.functions.map countBody = [0, 4] := by decide +kernel
  obtain ⟨-, hbody, -, -, -, hresolve⟩ := metrics_strip commentedCallSource hplain
  exact ⟨by decide +kernel, by decide +kernel, hcallees, hresolve.trans hcallees, hsizes,
    hbody.trans hsizes⟩

end GoMeter
