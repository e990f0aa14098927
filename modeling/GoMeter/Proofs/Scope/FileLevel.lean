import GoMeter.Proofs.Scope.Visited
import Mathlib.Data.List.Perm.Basic

/-!
# The order of declarations at file level

The walk declares the variables, constants and types of the file a second time, in the scope that
already holds all names of the file. If nothing else is declared in that scope, then the walk leaves
it as it was, and the order in which the declarations of the file stand does not matter.

* `get?_fileScope`: what a name stands for at file level, from the list of declarations.
* `Node.EnclosesBindings`: what is declared below a node is declared inside a scope below it.
* `walk_top`: a visit of a node at file level leaves the scope of the file unchanged.
* `resolve_perm`: the file may be put in any order.
-/

namespace GoMeter

/-! ## The declarations of a file -/

/-- What a node at file level declares. The function `init` is never declared. -/
def Node.fileDeclarations (src : Source) (n : Node) : List (String × ObjectKind) :=
  if n.kind = .functionDeclaration then
    match (n.child? .name).map (·.text src) with
    | none => []
    | some name => if name = "init" then [] else [(name, .function)]
  else
    match n.kind.declared? with
    | none => []
    | some what =>
      (n.specs what).flatMap fun spec => (spec.declaredNames src).map fun name => (name, what)

/-- All declarations of a file, in order. -/
def Node.allDeclarations (src : Source) (root : Node) : List (String × ObjectKind) :=
  root.namedChildren.flatMap (Node.fileDeclarations src)

/-- No name is declared at file level with two different kinds. -/
def Node.DeclaresConsistently (src : Source) (root : Node) : Prop :=
  ∀ a ∈ root.allDeclarations src, ∀ b ∈ root.allDeclarations src,
    Scope.isDeclarable a.1 → a.1 = b.1 → a.2 = b.2

instance (src : Source) (root : Node) : Decidable (root.DeclaresConsistently src) :=
  inferInstanceAs (Decidable (∀ a ∈ root.allDeclarations src, ∀ b ∈ root.allDeclarations src, _))

namespace Scope

/-- Declares one name after the other, each as what it is paired with. -/
def declareEach (s : Scope) (l : List (String × ObjectKind)) : Scope :=
  l.foldl (fun s d => s.declare d.1 d.2) s

theorem declareEach_append (s : Scope) (l m : List (String × ObjectKind)) :
    s.declareEach (l ++ m) = (s.declareEach l).declareEach m :=
  List.foldl_append

theorem declareEach_map (s : Scope) (names : List String) (what : ObjectKind) :
    s.declareEach (names.map fun name => (name, what)) = s.declareAll names what :=
  List.foldl_map

theorem get?_declareEach (s : Scope) (l : List (String × ObjectKind)) (x : String) :
    (s.declareEach l).get? x = (s.get? x).or (if isDeclarable x then l.lookup x else none) := by
  induction l generalizing s with
  | nil => simp [declareEach]
  | cons d rest ih =>
    obtain ⟨name, what⟩ := d
    have hstep : s.declareEach ((name, what) :: rest) =
        (s.declare name what).declareEach rest := rfl
    rw [hstep, ih, get?_declare, Option.or_assoc]
    congr 1
    by_cases hx : x = name
    · subst hx
      by_cases hd : isDeclarable x
      · simp [hd]
      · simp [hd]
    · have hb : (x == name) = false := by simpa using hx
      simp [List.lookup_cons, hx, hb]

theorem addDeclaration_eq (src : Source) (scope : Scope) (n : Node) :
    scope.addDeclaration src n = scope.declareEach (n.fileDeclarations src) := by
  unfold addDeclaration Node.fileDeclarations
  split_ifs
  · cases (n.child? .name).map (·.text src) with
    | none => rfl
    | some name =>
      by_cases hinit : name = "init"
      · simp only [hinit, if_true]
        rfl
      · simp only [hinit, if_false]
        rfl
  · cases n.kind.declared? with
    | none => rfl
    | some what =>
      simp only
      generalize n.specs what = specs
      induction specs generalizing scope with
      | nil => rfl
      | cons spec rest ih =>
        rw [List.foldl_cons, ih, List.flatMap_cons, declareEach_append, declareEach_map]

end Scope

theorem fileScope_eq (src : Source) (root : Node) :
    fileScope src root = Scope.empty.declareEach (root.allDeclarations src) := by
  unfold fileScope Node.allDeclarations
  generalize Scope.empty = scope
  induction root.namedChildren generalizing scope with
  | nil => rfl
  | cons n rest ih =>
    rw [List.foldl_cons, ih, List.flatMap_cons, Scope.declareEach_append, Scope.addDeclaration_eq]

/-- At file level a name stands for what its first declaration says. -/
theorem get?_fileScope (src : Source) (root : Node) (x : String) :
    (fileScope src root).get? x =
      if Scope.isDeclarable x then (root.allDeclarations src).lookup x else none := by
  rw [fileScope_eq, Scope.get?_declareEach, Scope.get?_empty, Option.none_or]

theorem isSome_get?_fileScope {src : Source} {root n : Node} (hn : n ∈ root.namedChildren)
    {what : ObjectKind} (hwhat : n.kind.declared? = some what) {spec : Node}
    (hspec : spec ∈ n.specs what) {x : String} (hx : x ∈ spec.declaredNames src)
    (hd : Scope.isDeclarable x) : ((fileScope src root).get? x).isSome := by
  have hkind : n.kind ≠ .functionDeclaration := by
    intro h
    simp [h, Kind.declared?] at hwhat
  have hmem : (x, what) ∈ root.allDeclarations src := by
    refine List.mem_flatMap.mpr ⟨n, hn, ?_⟩
    simp only [Node.fileDeclarations, hkind, hwhat, if_false]
    exact List.mem_flatMap.mpr ⟨spec, hspec, List.mem_map.mpr ⟨x, hx, rfl⟩⟩
  rw [get?_fileScope, if_pos hd, List.lookup_isSome_iff]
  exact ⟨_, hmem, beq_self_eq_true x⟩

/-- If no name is declared with two different kinds, then the order of the declarations does not
matter. -/
theorem get?_fileScope_perm {src : Source} {root root' : Node}
    (hperm : root'.children.Perm root.children) (h : root.DeclaresConsistently src) (x : String) :
    (fileScope src root').get? x = (fileScope src root).get? x := by
  have hdecls : (root'.allDeclarations src).Perm (root.allDeclarations src) :=
    (hperm.filter _).flatMap_right _
  have hmem : ∀ {l : List (String × ObjectKind)} {k : ObjectKind},
      l.lookup x = some k → (x, k) ∈ l := by
    intro l k hk
    obtain ⟨before, after, rfl, -⟩ := List.lookup_eq_some_iff.mp hk
    exact List.mem_append_right _ List.mem_cons_self
  rw [get?_fileScope, get?_fileScope]
  split_ifs with hd
  · cases hk : (root.allDeclarations src).lookup x with
    | none =>
      rw [List.lookup_eq_none_iff] at hk ⊢
      exact fun d hd => hk d (hdecls.mem_iff.mp hd)
    | some k =>
      have hsome : ((root'.allDeclarations src).lookup x).isSome :=
        List.lookup_isSome_iff.mpr
          ⟨(x, k), hdecls.mem_iff.mpr (hmem hk), beq_self_eq_true x⟩
      obtain ⟨k', hk'⟩ := Option.isSome_iff_exists.mp hsome
      have hsame := h _ (hdecls.mem_iff.mp (hmem hk')) _ (hmem hk) hd rfl
      rw [hk', show k' = k from hsame]
  · rfl

/-! ## What is declared below a node -/

/-- Whether a visit declares names in the scope in force. -/
def Visit.declares : Visit → Bool
  | .binding | .declaration _ => true
  | _ => false

namespace Node

/-- Everything strictly below the top node that declares names in the scope in force lies inside a
node of the tree that opens a scope. -/
def EnclosesBindings (n : Node) : Prop :=
  ∀ s ∈ n.sites, s.way ≠ [] → (Visit.of s.node).declares →
    ∃ t ∈ n.sites, t.way <+: s.way ∧ t.way ≠ s.way ∧ (Visit.of t.node).opensScope

instance (n : Node) : Decidable n.EnclosesBindings :=
  inferInstanceAs (Decidable (∀ s ∈ n.sites, s.way ≠ [] → (Visit.of s.node).declares → _))

/-- Nothing in the tree declares names in the scope in force at its top. -/
structure Quiet (n : Node) : Prop where
  below : n.EnclosesBindings
  here : ¬ (Visit.of n).declares

/-- A node that opens no scope passes on to its children what it owes. -/
theorem EnclosesBindings.quiet_child {n m : Node} (h : n.EnclosesBindings)
    (hopen : ¬ (Visit.of n).opensScope) (hm : m ∈ n.children) : m.Quiet := by
  obtain ⟨j, hj⟩ := List.mem_iff_getElem?.mp hm
  -- The node that encloses a binding below `m` is not `n`, so it is `m` or below it.
  have hstep : ∀ s ∈ m.sites, (Visit.of s.node).declares →
      ∃ t ∈ m.sites, t.way <+: s.way ∧ t.way ≠ s.way ∧ (Visit.of t.node).opensScope := by
    intro s hs hdeclares
    obtain ⟨t, ht, habove, hne, hscope⟩ := h ⟨j :: s.way, s.node⟩ ((mem_sites_cons hj).mpr hs)
      (List.cons_ne_nil _ _) hdeclares
    cases hway : t.way with
    | nil =>
      rw [mem_sites, hway, at?, Option.some.injEq] at ht
      rw [← ht] at hscope
      exact absurd hscope hopen
    | cons i q =>
      rw [hway] at habove hne
      obtain ⟨rfl, hq⟩ := List.cons_prefix_cons.mp habove
      refine ⟨⟨q, t.node⟩, (mem_sites_cons hj).mp ?_, hq, fun heq => hne ?_, hscope⟩
      · rwa [← hway]
      · exact congrArg (i :: ·) heq
  refine ⟨fun s hs _ hdeclares => hstep s hs hdeclares, fun hdeclares => ?_⟩
  obtain ⟨t, -, habove, hne, -⟩ := hstep ⟨[], m⟩ (mem_sites.mpr rfl) hdeclares
  exact hne (List.prefix_nil.mp habove)

end Node

/-! ## The scope of the file does not change -/

/-- A move that leaves the scopes `c` as they are. -/
def Move.Steady (src : Source) (c : ScopeChain) : Move → Prop
  | .push | .pop => False
  | .declare names what => c.declareAll names what = c
  | .lookup _ => True
  | .visit s => (walk src c s).1 = c

theorem runScript_steady {src : Source} {c : ScopeChain} {moves : List Move}
    (h : ∀ a ∈ moves, a.Steady src c) : (runScript src c moves).1 = c := by
  induction moves with
  | nil => simp [runScript]
  | cons move rest ih =>
    rw [List.forall_mem_cons] at h
    obtain ⟨hhere, hrest⟩ := h
    cases move with
    | push => cases hhere
    | pop => cases hhere
    | declare names what =>
      rw [runScript, show c.declareAll names what = c from hhere]
      exact ih hrest
    | lookup call =>
      rw [runScript]
      exact ih hrest
    | visit s =>
      rw [runScript, show (walk src c s).1 = c from hhere]
      exact ih hrest

/-- Visits that leave the scopes `c` as they are all start with these scopes. -/
theorem runScript_visits_steady {src : Source} {c : ScopeChain} {ss : List Site}
    (h : ∀ s ∈ ss, (walk src c s).1 = c) :
    runScript src c (Move.visits ss) = (c, ss.flatMap fun s => (walk src c s).2) := by
  induction ss with
  | nil => rw [runScript_visits_nil, List.flatMap_nil]
  | cons s rest ih =>
    rw [List.forall_mem_cons] at h
    rw [runScript_visits_cons, h.1, ih h.2, List.flatMap_cons]

theorem steady_visits {src : Source} {c : ScopeChain} {ss : List Site}
    (h : ∀ s ∈ ss, (walk src c s).1 = c) : ∀ a ∈ Move.visits ss, a.Steady src c := by
  intro a ha
  obtain ⟨s, hs, rfl⟩ := List.mem_map.mp ha
  exact h s hs

theorem walk_quiet {src : Source} {s : Site} (h : s.node.Quiet) (c : ScopeChain) :
    (walk src c s).1 = c := by
  induction s using Site.parts_induction with
  | h s ih =>
    by_cases hopen : (Visit.of s.node).opensScope
    · exact walk_of_enclosed src c hopen
    · have hchildren : ∀ t ∈ s.namedChildren, t.node.Quiet := fun t ht =>
        h.below.quiet_child hopen
          (Site.node_mem_children (Site.mem_children_of_mem_namedChildren ht))
      have hhere := h.here
      unfold Site.parts at ih
      rw [walk_eq]
      unfold Site.script
      split
      · next hv =>
        simp only [hv] at ih
        exact runScript_steady (steady_visits fun t ht => ih t ht (hchildren t ht))
      · next hv =>
        simp only [hv] at ih
        refine runScript_steady (List.forall_mem_cons.mpr ⟨trivial, ?_⟩)
        exact steady_visits fun t ht => ih t ht (hchildren t ht)
      all_goals next hv => simp [hv, Visit.opensScope, Visit.declares] at hopen hhere

theorem Visit.declared?_of_declaration {n : Node} {what : ObjectKind}
    (h : Visit.of n = .declaration what) : n.kind.declared? = some what := by
  unfold Visit.of at h
  unfold Kind.declared?
  grind

theorem Visit.not_opensScope_of_isSpecList {n : Node} (h : n.kind.isSpecList) :
    ¬ (Visit.of n).opensScope := by
  intro hopen
  unfold Visit.of at hopen
  split at hopen
  all_goals first
    | next hkind => exact absurd h (by rw [hkind]; decide)
    | cases hopen

theorem Visit.not_opensScope_of_isSpec {n : Node} {what : ObjectKind} (h : what.isSpec n.kind) :
    ¬ (Visit.of n).opensScope := by
  simp [Visit.of_isSpec h, Visit.opensScope]

/-- The values of a declaration whose bindings are enclosed declare nothing outside. -/
theorem quiet_of_value {s spec value : Site} (h : s.node.EnclosesBindings)
    (hopen : ¬ (Visit.of s.node).opensScope) {what : ObjectKind} (hspec : spec ∈ s.specs what)
    (hvalue : value ∈ (spec.child? .value).toList) : value.node.Quiet := by
  have hquiet : spec.node.Quiet := by
    refine Site.of_mem_specs (motive := fun c => c.node.Quiet) ?_ ?_ hspec
    · intro c hc
      exact h.quiet_child hopen (Site.node_mem_children (Site.mem_children_of_mem_namedChildren hc))
    · intro a hlist ha b hb
      exact ha.below.quiet_child (Visit.not_opensScope_of_isSpecList hlist)
        (Site.node_mem_children (Site.mem_children_of_mem_namedChildren hb))
  have hplain := Visit.not_opensScope_of_isSpec (Site.isSpec_of_mem_specs hspec)
  exact hquiet.below.quiet_child hplain
    (Site.node_mem_children (Site.mem_children_of_child? (Option.mem_toList.mp hvalue)))

/-- A visit of a node at file level leaves the scope of the file unchanged. -/
theorem walk_top {src : Source} {root : Node} {s : Site} (hs : s ∈ (Site.root root).namedChildren)
    (hbelow : s.node.EnclosesBindings) (htop : Visit.of s.node ≠ .binding) :
    (walk src ⟨fileScope src root, []⟩ s).1 = ⟨fileScope src root, []⟩ := by
  by_cases hdeclares : (Visit.of s.node).declares
  · obtain ⟨what, hv⟩ : ∃ what, Visit.of s.node = .declaration what := by
      cases hv : Visit.of s.node with
      | declaration what => exact ⟨what, rfl⟩
      | binding => exact absurd hv htop
      | _ => simp [hv, Visit.declares] at hdeclares
    have hopen : ¬ (Visit.of s.node).opensScope := by simp [hv, Visit.opensScope]
    have hnode : s.node ∈ root.namedChildren := Site.node_mem_namedChildren hs
    -- The names of the specifications are those that the scope was filled with.
    have hknown : ∀ spec ∈ s.specs what,
        Move.Steady src ⟨fileScope src root, []⟩ (.declare (spec.node.declaredNames src) what) := by
      intro spec hspec
      have hmem : spec.node ∈ s.node.specs what := by
        rw [← Site.map_node_specs]
        exact List.mem_map_of_mem hspec
      have hsome : ∀ x ∈ spec.node.declaredNames src, Scope.isDeclarable x →
          ((fileScope src root).get? x).isSome :=
        fun x => isSome_get?_fileScope hnode (Visit.declared?_of_declaration hv) hmem
      have hself := Scope.declareAll_eq_self hsome what
      simp only [Move.Steady, ScopeChain.declareAll_eq, hself]
    rw [walk_eq]
    refine runScript_steady ?_
    by_cases hwhat : what = .type
    · subst hwhat
      rw [Site.script_of_types src hv]
      intro a ha
      obtain ⟨spec, hspec, rfl⟩ := List.mem_map.mp ha
      exact hknown spec hspec
    · rw [Site.script_of_values src hv hwhat]
      intro a ha
      obtain ⟨spec, hspec, ha⟩ := List.mem_flatMap.mp ha
      rcases List.mem_append.mp ha with ha | ha
      · refine steady_visits (fun value hvalue => ?_) a ha
        exact walk_quiet (quiet_of_value hbelow hopen hspec hvalue) _
      · rw [List.mem_singleton.mp ha]
        exact hknown spec hspec
  · exact walk_quiet ⟨hbelow, hdeclares⟩ _

/-! ## The whole file -/

section File

variable {src : Source} {root : Node} (hbelow : ∀ n ∈ root.namedChildren, n.EnclosesBindings)
  (htop : ∀ n ∈ root.namedChildren, Visit.of n ≠ .binding)

include hbelow htop

theorem walk_top_of_file {s : Site} (hs : s ∈ (Site.root root).namedChildren) :
    (walk src ⟨fileScope src root, []⟩ s).1 = ⟨fileScope src root, []⟩ := by
  have hnode := Site.node_mem_namedChildren hs
  exact walk_top hs (hbelow _ hnode) (htop _ hnode)

/-- Each node at file level is walked with the names of the file in scope. -/
theorem runScript_file :
    runScript src ⟨fileScope src root, []⟩ (Move.visits (Site.root root).namedChildren) =
      (⟨fileScope src root, []⟩, (Site.root root).namedChildren.flatMap fun s =>
        (walk src ⟨fileScope src root, []⟩ s).2) :=
  runScript_visits_steady fun _ hs => walk_top_of_file hbelow htop hs

/-- After the whole run the scope of the file says what it said before. -/
theorem fileScope_unchanged :
    ∃ f, (performAll src (.initial src root) (Task.initial root)).arena.frames[0]? = some f ∧
      ∀ x, f.scope.get? x = (fileScope src root).get? x := by
  have hsees := (simulated_file src root).sees
  rw [runScript_file hbelow htop] at hsees
  cases hsees with
  | outermost hframe _ hscope => exact ⟨_, hframe, hscope⟩

/-- A callee is noted exactly if the visit of some node at file level would note it if it were made
first. -/
theorem mem_resolve_iff_exists_visit {offset : Nat} :
    offset ∈ resolve src root ↔ ∃ n ∈ root.namedChildren,
      ∃ l ∈ lookupsMade src (.initial src root) [.visit n 0],
        l.answer = some .function ∧ l.offset = offset := by
  have hlookups : ∀ s : Site, lookupsMade src (.initial src root) [.visit s.node 0] =
      (walk src ⟨fileScope src root, []⟩ s).2.map Prod.snd :=
    fun s => (simulated_visit src s 0 _ _ (Arena.sees_ofScope _)).lookups
  have hnamed : root.namedChildren = (Site.root root).namedChildren.map Site.node := by
    rw [Site.map_node_namedChildren]
    rfl
  rw [mem_resolve, fileLookups, runScript_file hbelow htop, hnamed]
  constructor
  · rintro ⟨l, hl, hfound⟩
    obtain ⟨s, hs, hls⟩ := List.mem_flatMap.mp hl
    refine ⟨s.node, List.mem_map_of_mem hs, l.2, ?_, hfound⟩
    rw [hlookups]
    exact List.mem_map_of_mem hls
  · rintro ⟨n, hn, l, hl, hfound⟩
    obtain ⟨s, hs, rfl⟩ := List.mem_map.mp hn
    rw [hlookups] at hl
    obtain ⟨l', hl', rfl⟩ := List.mem_map.mp hl
    exact ⟨l', List.mem_flatMap.mpr ⟨s, hs, hl'⟩, hfound⟩

end File

/-- The lookups of one visit depend on what the names of the file stand for, not on their order. -/
theorem lookupsMade_congr {src : Source} {root root' : Node}
    (h : ∀ x, (fileScope src root').get? x = (fileScope src root).get? x) (n : Node) :
    lookupsMade src (.initial src root') [.visit n 0] =
      lookupsMade src (.initial src root) [.visit n 0] := by
  have hsees := Arena.sees_ofScope (fileScope src root)
  have hsees' := (Arena.sees_ofScope (fileScope src root')).congr_inner fun x => (h x).symm
  have hlookups := (simulated_visit src (Site.root n) 0 (.initial src root) _ hsees).lookups
  have hlookups' := (simulated_visit src (Site.root n) 0 (.initial src root') _ hsees').lookups
  exact hlookups'.trans hlookups.symm

/-- If nothing but the declarations of a file declares names in its scope, and none of them gives a
name two kinds, then the run leaves that scope as it was, and putting what is at file level in any
other order leaves the noted callees as they are. -/
theorem resolve_perm {src : Source} {root : Node}
    (hbelow : ∀ n ∈ root.namedChildren, n.EnclosesBindings)
    (htop : ∀ n ∈ root.namedChildren, Visit.of n ≠ .binding)
    (hkinds : root.DeclaresConsistently src) :
    (∃ f, (performAll src (.initial src root) (Task.initial root)).arena.frames[0]? = some f ∧
        ∀ x, f.scope.get? x = (fileScope src root).get? x) ∧
      ∀ root' : Node, root'.children.Perm root.children →
        ∀ offset, offset ∈ resolve src root' ↔ offset ∈ resolve src root := by
  refine ⟨fileScope_unchanged hbelow htop, fun root' hperm offset => ?_⟩
  have hmem : ∀ n, n ∈ root'.namedChildren ↔ n ∈ root.namedChildren :=
    fun n => (hperm.filter Node.isNamed).mem_iff
  rw [mem_resolve_iff_exists_visit hbelow htop,
    mem_resolve_iff_exists_visit (fun n hn => hbelow n ((hmem n).mp hn))
      fun n hn => htop n ((hmem n).mp hn)]
  simp only [hmem, lookupsMade_congr (get?_fileScope_perm hperm hkinds)]

/-- A variable that is declared before the function whose result it gets. -/
def usedBeforeSource : Source := .ofString "var x=f()\nfunc f()int\x7by:=0\nreturn y\x7d"

/-- The tree of these two declarations. -/
def usedBefore : Node :=
  .branch .sourceFile 0 36 none
    [.branch .varDeclaration 0 9 none
      [.branch .varSpec 4 9 none
        [.branch .identifier 4 5 (some .name) [],
         .branch .expressionList 6 9 (some .value)
          [.branch .callExpression 6 9 none
            [.branch .identifier 6 7 (some .callee) [],
             .branch .argumentList 7 9 (some .arguments) []]]]],
     .branch .functionDeclaration 10 36 none
      [.branch .identifier 15 16 (some .name) [],
       .branch .parameterList 16 18 (some .parameters) [],
       .branch .typeIdentifier 18 21 (some .result) [],
       .branch .block 21 36 (some .body)
        [.branch .statementList 22 35 none
          [.branch .shortVarDeclaration 22 26 none
            [.branch .expressionList 22 23 (some .left) [.branch .identifier 22 23 none []],
             .branch .expressionList 25 26 (some .right) [.branch .intLiteral 25 26 none []]],
           .branch .returnStatement 27 35 none
            [.branch .expressionList 34 35 none [.branch .identifier 34 35 none []]]]]]]

theorem usedBefore_reversed :
    6 ∈ resolve usedBeforeSource (.mk usedBefore.label usedBefore.children.reverse) ↔
      6 ∈ resolve usedBeforeSource usedBefore := by
  have hbelow : ∀ n ∈ usedBefore.namedChildren, n.EnclosesBindings := by decide +kernel
  have htop : ∀ n ∈ usedBefore.namedChildren, Visit.of n ≠ .binding := by decide +kernel
  have hkinds : usedBefore.DeclaresConsistently usedBeforeSource := by decide +kernel
  have hperm : (Node.mk usedBefore.label usedBefore.children.reverse).children.Perm
      usedBefore.children := List.reverse_perm usedBefore.children
  exact (resolve_perm hbelow htop hkinds).2 _ hperm 6

end GoMeter
