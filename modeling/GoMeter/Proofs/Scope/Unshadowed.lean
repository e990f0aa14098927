import GoMeter.Calls
import GoMeter.Proofs.Scope.Visited
import Mathlib.Data.List.Pairwise

/-!
# Calls of functions that nothing shadows

If a name stands for a function at file level and no parameter, local declaration, binding or alias
declares it anew, then every lookup of it finds the function. A call of it is therefore recognised
exactly if it is visited, and a call that is missed stands in a part of a node that a visit leaves
out: in the type of a local variable, say, or in a local type definition.

* `ScopeChain.Unshadowed`: the invariant; only the outermost scope says anything about the name.
* `walk_unshadowed`: a visit keeps the invariant and finds the function at every lookup of the name.
* `classify_unshadowed_iff_visited`: which calls of such a name are recognised.
-/

namespace GoMeter

/-- The names that visiting a node declares. -/
def Node.binds (src : Source) (n : Node) : List String :=
  match Visit.of n with
  | .function => (headNames src n).flatMap Prod.fst
  | .binding => boundNames src (n.child? .left)
  | .declaration what => (n.specs what).flatMap fun spec => spec.declaredNames src
  | .typeSwitch => boundNames src (n.child? .alias)
  | _ => []

theorem Site.mem_binds_of_declare {src : Source} {s : Site} {names : List String}
    {what : ObjectKind} (h : .declare names what ∈ s.script src) {x : String} (hx : x ∈ names) :
    x ∈ s.node.binds src := by
  have hspecs : ∀ {what : ObjectKind} {spec : Site}, spec ∈ s.specs what →
      names = spec.node.declaredNames src →
      x ∈ (s.node.specs what).flatMap fun spec => spec.declaredNames src := by
    intro what spec hspec hnames
    rw [← Site.map_node_specs, List.flatMap_map]
    exact List.mem_flatMap.mpr ⟨spec, hspec, hnames ▸ hx⟩
  unfold Site.script at h
  unfold Node.binds
  split at h
  · simp [Move.visits] at h
  · simp [Move.visits] at h
  · simp [Move.visits, Move.enclosed] at h
  · next hv =>
    have hhead : (names, what) ∈ headNames src s.node := by
      simpa [Move.visits, Move.enclosed] using h
    simp only [hv]
    exact List.mem_flatMap.mpr ⟨_, hhead, hx⟩
  · next hv =>
    have hnames : names = boundNames src (s.node.child? .left) ∧ what = .variable := by
      simpa [Move.visits] using h
    simp only [hv]
    rwa [← hnames.1]
  · next hv =>
    simp only [hv]
    obtain ⟨spec, hspec, heq⟩ := List.mem_map.mp h
    exact hspecs hspec (Move.declare.inj heq).1.symm
  · next kind _ hv =>
    simp only [hv]
    obtain ⟨spec, hspec, hmem⟩ := List.mem_flatMap.mp h
    have hnames : names = spec.node.declaredNames src ∧ what = kind := by
      simpa [Move.visits] using hmem
    exact hspecs hspec hnames.1
  · next hv =>
    have hnames : (∃ clause, clause ∈ s.clauses) ∧
        names = boundNames src (s.node.child? .alias) ∧ what = .variable := by
      simpa [Move.visits, Move.enclosed] using h
    simp only [hv]
    rwa [← hnames.2.1]

/-! ## The invariant -/

namespace ScopeChain

/-- The outermost scope declares `name` as a function, and no other scope declares it. -/
def Unshadowed (name : String) (c : ScopeChain) : Prop :=
  ∃ inner file, c.inner :: c.outer = inner ++ [file] ∧ (∀ s ∈ inner, s.get? name = none) ∧
    file.get? name = some .function

namespace Unshadowed

variable {name : String} {c : ScopeChain}

theorem lookup_eq (h : c.Unshadowed name) : c.lookup name = some .function := by
  obtain ⟨inner, file, hscopes, hinner, hfile⟩ := h
  rw [lookup, hscopes, List.findSome?_append, List.findSome?_eq_none_iff.mpr hinner]
  simp [hfile]

theorem push (h : c.Unshadowed name) : c.push.Unshadowed name := by
  obtain ⟨inner, file, hscopes, hinner, hfile⟩ := h
  refine ⟨.empty :: inner, file, ?_, List.forall_mem_cons.mpr ⟨rfl, hinner⟩, hfile⟩
  rw [ScopeChain.push, hscopes, List.cons_append]

theorem pop (h : c.Unshadowed name) : c.pop.Unshadowed name := by
  unfold ScopeChain.pop
  split
  · exact h
  · next s rest houter =>
    obtain ⟨inner, file, hscopes, hinner, hfile⟩ := h
    rw [houter] at hscopes
    cases inner with
    | nil => cases hscopes
    | cons first inner =>
      rw [List.forall_mem_cons] at hinner
      exact ⟨inner, file, (List.cons_eq_cons.mp hscopes).2, hinner.2, hfile⟩

theorem declareAll (h : c.Unshadowed name) {names : List String} (hnames : name ∉ names)
    (what : ObjectKind) : (c.declareAll names what).Unshadowed name := by
  have hget : ∀ s : Scope, (s.declareAll names what).get? name = s.get? name := by
    intro s
    simp [Scope.get?_declareAll, hnames]
  obtain ⟨inner, file, hscopes, hinner, hfile⟩ := h
  rw [declareAll_eq]
  cases inner with
  | nil =>
    obtain ⟨hfirst, hrest⟩ := List.cons_eq_cons.mp hscopes
    refine ⟨[], c.inner.declareAll names what, ?_, List.forall_mem_nil _, ?_⟩
    · simp [hrest]
    · rw [hget, hfirst, hfile]
  | cons first inner =>
    obtain ⟨hfirst, hrest⟩ := List.cons_eq_cons.mp hscopes
    rw [List.forall_mem_cons] at hinner
    refine ⟨c.inner.declareAll names what :: inner, file, ?_,
      List.forall_mem_cons.mpr ⟨?_, hinner.2⟩, hfile⟩
    · simp [hrest]
    · rw [hget, hfirst, hinner.1]

end Unshadowed

end ScopeChain

/-- What a walk with result `w` does for an unshadowed name. -/
def FindsFunction (name : String) (w : ScopeChain × List (Way × Lookup)) : Prop :=
  w.1.Unshadowed name ∧ ∀ l ∈ w.2, l.2.name = name → l.2.answer = some .function

theorem runScript_unshadowed {src : Source} {name : String} {moves : List Move}
    (hdeclare : ∀ names what, .declare names what ∈ moves → name ∉ names)
    (ht : ∀ t ∈ Move.targets moves, ∀ c, c.Unshadowed name → FindsFunction name (walk src c t))
    {c : ScopeChain} (hc : c.Unshadowed name) :
    FindsFunction name (runScript src c moves) := by
  induction moves generalizing c with
  | nil =>
    rw [runScript]
    exact ⟨hc, List.forall_mem_nil _⟩
  | cons move rest ih =>
    have hrest := fun names what h => hdeclare names what (List.mem_cons_of_mem move h)
    cases move with
    | push =>
      rw [runScript]
      exact ih hrest ht hc.push
    | pop =>
      rw [runScript]
      exact ih hrest ht hc.pop
    | declare names what =>
      rw [runScript]
      exact ih hrest ht (hc.declareAll (hdeclare names what List.mem_cons_self) what)
    | lookup call =>
      rw [runScript]
      obtain ⟨hlater, hanswers⟩ := ih hrest ht hc
      refine ⟨hlater, List.forall_mem_append.mpr ⟨?_, hanswers⟩⟩
      simp only [Node.lookup?, Option.mem_toList, Option.map_map, Option.map_eq_some_iff]
      rintro _ ⟨callee, _, rfl⟩ hname
      have hname : callee.text src = name := hname
      simp [hname, hc.lookup_eq]
    | visit t =>
      simp only [Move.targets, List.forall_mem_cons] at ht
      rw [runScript]
      obtain ⟨hthere, hanswers⟩ := ht.1 c hc
      obtain ⟨hlater, hmore⟩ := ih hrest ht.2 hthere
      exact ⟨hlater, List.forall_mem_append.mpr ⟨hanswers, hmore⟩⟩

/-- If no visited node declares a name, then a visit finds the function at every lookup of it. -/
theorem walk_unshadowed {src : Source} {name : String} {s : Site}
    (hbinds : ∀ t ∈ s.visited, name ∉ t.node.binds src) {c : ScopeChain} (hc : c.Unshadowed name) :
    FindsFunction name (walk src c s) := by
  induction s using Site.parts_induction generalizing c with
  | h s ih =>
    rw [walk_eq]
    refine runScript_unshadowed ?_ ?_ hc
    · intro names what hmem hname
      exact hbinds s s.self_mem_visited (Site.mem_binds_of_declare hmem hname)
    · intro t ht c hc
      rw [Site.targets_script] at ht
      exact ih t ht (fun u hu => hbinds u (Site.mem_visited.mpr (.inr ⟨t, ht, hu⟩))) hc

theorem fileLookups_unshadowed {src : Source} {root : Node} {name : String}
    (hfile : (fileScope src root).get? name = some .function)
    (hbinds : ∀ s ∈ root.visitedSites, name ∉ s.node.binds src) :
    ∀ l ∈ fileLookups src root, l.2.name = name → l.2.answer = some .function := by
  refine (runScript_unshadowed ?_ ?_ ?_).2
  · simp [Move.visits]
  · intro t ht c hc
    rw [Move.targets_visits] at ht
    exact walk_unshadowed (fun u hu => hbinds u (Node.mem_visitedSites.mpr ⟨t, ht, hu⟩)) hc
  · exact ⟨[], fileScope src root, rfl, List.forall_mem_nil _, hfile⟩

/-! ## Which calls are recognised -/

theorem Node.calledName?_eq_some_iff {n callee : Node} :
    n.calledName? = some callee ↔
      n.kind = .callExpression ∧ n.child? .callee = some callee ∧ callee.kind = .identifier := by
  unfold Node.calledName?
  by_cases hkind : n.kind = .callExpression
  · simp [hkind]
  · simp [hkind]

theorem classify_eq_function_iff (src : Source) (callees : List Nat) {call callee : Node}
    (hcall : call.calledName? = some callee) (hplain : call.child? .typeArguments = none) :
    (classify src callees call).1 = .function ↔ callee.start ∈ callees := by
  obtain ⟨_, hcallee, hid⟩ := Node.calledName?_eq_some_iff.mp hcall
  by_cases hmem : callee.start ∈ callees
  · simp [classify, hcallee, hplain, hid, hmem]
  · by_cases hbuiltin : callee.text src ∈ builtins
    · simp [classify, hcallee, hplain, hid, hmem, hbuiltin]
    · simp [classify, hcallee, hplain, hid, hmem, hbuiltin]

/-- Where the names of the called functions start, call by call. -/
def Node.calleeStarts (root : Node) : List Nat :=
  root.sites.filterMap fun s => s.node.calledName?.map Node.start

theorem Node.eq_of_calleeStarts {root : Node} (h : root.calleeStarts.Nodup) {s t : Site}
    (hs : s ∈ root.sites) (ht : t ∈ root.sites) {a b : Node} (ha : s.node.calledName? = some a)
    (hb : t.node.calledName? = some b) (hab : a.start = b.start) : s = t := by
  by_contra hne
  have hpair := List.pairwise_filterMap.mp h
  have hsymm : Std.Symm fun s t : Site =>
      ∀ a, s.node.calledName?.map Node.start = some a →
        ∀ b, t.node.calledName?.map Node.start = some b → a ≠ b :=
    ⟨fun _ _ h a ha b hb hab => h b hb a ha hab.symm⟩
  exact hpair.forall hs ht hne a.start (by rw [ha]; rfl) b.start (by rw [hb]; rfl) hab

/-- A site stands below `t`, but in none of the parts to which a visit of `t` passes on. -/
def Site.Skips (t s : Site) : Prop :=
  t.way <+: s.way ∧ t.way ≠ s.way ∧ ∀ p ∈ t.parts, ¬ p.way <+: s.way

/-- A site below a visited one is visited, unless something visited skips it. -/
theorem Site.mem_visited_or_skips {root : Node} {top s : Site} (hs : root.at? s.way = some s.node)
    (htop : root.at? top.way = some top.node) (hbelow : top.way <+: s.way) :
    s ∈ top.visited ∨ ∃ t ∈ top.visited, t.Skips s := by
  induction top using parts_induction with
  | h top ih =>
    by_cases hway : top.way = s.way
    · rw [eq_of_way_eq htop hs hway]
      exact .inl s.self_mem_visited
    · by_cases hpart : ∃ p ∈ top.parts, p.way <+: s.way
      · obtain ⟨p, hp, hps⟩ := hpart
        have hat := at?_of_mem_parts htop hp
        have hincl : ∀ t ∈ p.visited, t ∈ top.visited :=
          fun t ht => mem_visited.mpr (.inr ⟨p, hp, ht⟩)
        rcases ih p hp hat hps with hvisited | ⟨t, ht, hskips⟩
        · exact .inl (hincl s hvisited)
        · exact .inr ⟨t, hincl t ht, hskips⟩
      · refine .inr ⟨top, top.self_mem_visited, hbelow, hway, fun p hp hps => hpart ⟨p, hp, hps⟩⟩

/-- A call of a function that nothing shadows is recognised if it is visited. If no two calls have
their callees at one offset, then only visited calls are. A call that is missed is skipped by
something that is visited. -/
theorem classify_unshadowed_iff_visited {src : Source} {root : Node} {name : String}
    (hfile : (fileScope src root).get? name = some .function)
    (hbinds : ∀ t ∈ root.sites, name ∉ t.node.binds src) {s : Site} (hs : s ∈ root.sites)
    {callee : Node} (hcall : s.node.calledName? = some callee) (hname : callee.text src = name)
    (hplain : s.node.child? .typeArguments = none) :
    (s ∈ root.visitedSites → (classify src (resolve src root) s.node).1 = .function) ∧
      (root.calleeStarts.Nodup →
        ((classify src (resolve src root) s.node).1 = .function ↔ s ∈ root.visitedSites)) ∧
      ∀ top ∈ (Site.root root).namedChildren, top.way <+: s.way →
        (classify src (resolve src root) s.node).1 ≠ .function →
          ∃ t ∈ root.visitedSites, t.Skips s := by
  have hsites : ∀ t ∈ root.visitedSites, t ∈ root.sites :=
    fun t ht => Node.mem_sites.mpr (Node.at?_of_mem_visitedSites ht)
  have hfound : s ∈ root.visitedSites → callee.start ∈ resolve src root := by
    intro hvisited
    obtain ⟨l, hl, hoffset, hasked⟩ := exists_lookup_of_visited src hvisited hcall
    have hanswer := fileLookups_unshadowed hfile (fun t ht => hbinds t (hsites t ht)) l hl
      (hasked.trans hname)
    exact mem_resolve.mpr ⟨l, hl, hanswer, hoffset⟩
  have hrecognised := classify_eq_function_iff src (resolve src root) hcall hplain
  refine ⟨fun hvisited => hrecognised.mpr (hfound hvisited), ?_, ?_⟩
  · intro hstarts
    refine ⟨fun hmem => ?_, fun hvisited => hrecognised.mpr (hfound hvisited)⟩
    obtain ⟨l, hl, -, hoffset⟩ := mem_resolve.mp (hrecognised.mp hmem)
    obtain ⟨t, ht, -, other, hother, hstart⟩ := exists_visited_of_lookup hl
    have heq := Node.eq_of_calleeStarts hstarts hs (hsites t ht) hcall hother
      (hoffset.symm.trans hstart.symm)
    rwa [heq]
  · intro top htop hbelow hmissed
    have hat := Site.at?_of_mem_namedChildren (s := Site.root root) rfl htop
    have hincl : ∀ t ∈ top.visited, t ∈ root.visitedSites :=
      fun t ht => Node.mem_visitedSites.mpr ⟨top, htop, ht⟩
    rcases Site.mem_visited_or_skips (Node.mem_sites.mp hs) hat hbelow with
      hvisited | ⟨t, ht, hskips⟩
    · exact absurd (hrecognised.mpr (hfound (hincl s hvisited))) hmissed
    · exact ⟨t, hincl t ht, hskips⟩

/-- A file in which `f` is called in the type of a local variable and in a statement. -/
def twoCallsSource : Source :=
  .ofString "func f()\x7b\x7d\nfunc g()\x7bvar x[f()]int\nf()\x7d"

/-- The call that gives the length of an array. -/
def callInType : Node :=
  .branch .callExpression 26 29 (some .length)
    [.branch .identifier 26 27 (some .callee) [], .branch .argumentList 27 29 (some .arguments) []]

/-- The same call as a statement. -/
def callInStatement : Node :=
  .branch .callExpression 34 37 none
    [.branch .identifier 34 35 (some .callee) [], .branch .argumentList 35 37 (some .arguments) []]

/-- The file with both calls in the body of `g`. -/
def twoCalls : Node :=
  .branch .sourceFile 0 38 none
    [.branch .functionDeclaration 0 10 none
      [.branch .identifier 5 6 (some .name) [], .branch .parameterList 6 8 (some .parameters) [],
       .branch .block 8 10 (some .body) []],
     .branch .functionDeclaration 11 38 none
      [.branch .identifier 16 17 (some .name) [],
       .branch .parameterList 17 19 (some .parameters) [],
       .branch .block 19 38 (some .body)
        [.branch .statementList 20 37 none
          [.branch .varDeclaration 20 33 none
            [.branch .varSpec 24 33 none
              [.branch .identifier 24 25 (some .name) [],
               .branch .arrayType 25 33 (some .type)
                [callInType, .branch .typeIdentifier 30 33 (some .element) []]]],
           .branch .expressionStatement 34 37 none [callInStatement]]]]]

theorem twoCalls_recognised :
    (classify twoCallsSource (resolve twoCallsSource twoCalls) callInStatement).1 = .function ∧
      (classify twoCallsSource (resolve twoCallsSource twoCalls) callInType).1 ≠ .function := by
  have hfile : (fileScope twoCallsSource twoCalls).get? "f" = some .function := by decide +kernel
  have hbinds : ∀ t ∈ twoCalls.sites, "f" ∉ t.node.binds twoCallsSource := by decide +kernel
  have hstarts : twoCalls.calleeStarts.Nodup := by decide +kernel
  have hstatement : ⟨[1, 2, 0, 1, 0], callInStatement⟩ ∈ twoCalls.sites := Node.mem_sites.mpr rfl
  have htype : ⟨[1, 2, 0, 0, 0, 1, 0], callInType⟩ ∈ twoCalls.sites := Node.mem_sites.mpr rfl
  have hone := classify_unshadowed_iff_visited hfile hbinds hstatement rfl (by decide +kernel) rfl
  have htwo := classify_unshadowed_iff_visited hfile hbinds htype rfl (by decide +kernel) rfl
  refine ⟨hone.1 ?_, ?_⟩
  · exact (Node.mem_visitedSites_iff_way hstatement).mpr (by decide +kernel)
  · rw [ne_eq, htwo.2.1 hstarts, Node.mem_visitedSites_iff_way htype]
    decide +kernel

end GoMeter
