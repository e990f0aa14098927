import GoMeter.Proofs.Measure

/-!
# The two call metrics

A record has the number of calls that are likely to cost something and a mark that says whether there
is any call. The number leaves out the builtins and the mark does not, so the two part ways exactly at
bare names that are spelled like a builtin.

* `Node.callSites`: the calls below a body, told by the ways to them; `calls_perm` says that the work
  list meets those on a way through named nodes.
* `isCostly_classify_iff`: a call of a known class is costly unless it is a bare builtin.
* `CallMetrics`: what the two metrics say about the calls of a body; `call_metrics_agree` says that they
  do so in every record.
-/

namespace GoMeter

/-! ## One call -/

/-- A call of a bare name that is spelled like a builtin. -/
def Node.IsBareBuiltin (src : Source) (call : Node) : Prop :=
  call.child? .typeArguments = none ∧ ∃ callee, call.child? .callee = some callee ∧
    callee.kind = .identifier ∧ callee.text src ∈ builtins

/-- Whether the class of a call is known, that is, not `other`. -/
def isKnown (src : Source) (callees : List Nat) (call : Node) : Bool :=
  (classify src callees call).1 != .other

variable {src : Source} {callees : List Nat} {call : Node}

/-- A call of a known class is costly unless it is a bare builtin. -/
theorem isCostly_classify_iff :
    isCostly (classify src callees call) ↔ isKnown src callees call ∧ ¬ call.IsBareBuiltin src := by
  unfold isKnown classify Node.IsBareBuiltin
  cases hcallee : call.child? .callee with
  | none => simp [isCostly]
  | some callee =>
    cases htypes : call.child? .typeArguments with
    | some types => simp [isCostly]
    | none =>
      by_cases hselector : callee.kind = .selectorExpression
      · simp [isCostly, hselector]
      by_cases hname : callee.kind = .identifier
      · -- A bare name: the file may have a function of that name, and it may be spelled like a builtin.
        by_cases hfile : callee.start ∈ callees <;> by_cases hbuiltin : callee.text src ∈ builtins <;>
          simp [isCostly, hname, hfile, hbuiltin]
      · simp [isCostly, hname]

/-! ## The calls of a body -/

namespace Node

/-- The calls strictly below a body. -/
def callSites (body : Node) : List Site :=
  body.sites.filter fun s => s.way ≠ [] ∧ s.node.kind = .callExpression

/-- The calls below a body that lie on a way through named nodes and whose class is known. -/
def knownCalls (src : Source) (callees : List Nat) (body : Node) : List Site :=
  body.callSites.filter fun s => body.namedAlong s.way && isKnown src callees s.node

/-- Whether the anonymous nodes below the top of a tree are tokens: nothing lies below them, and none of
them is a call. -/
def AnonymousAreTokens (n : Node) : Prop :=
  ∀ s ∈ n.sites, s.way ≠ [] → s.node.isNamed = false →
    s.node.children = [] ∧ s.node.kind ≠ .callExpression

theorem mem_callSites {body : Node} {s : Site} :
    s ∈ body.callSites ↔
      body.at? s.way = some s.node ∧ s.way ≠ [] ∧ s.node.kind = .callExpression := by
  rw [callSites, List.mem_filter, mem_sites, decide_eq_true_eq]

/-- The work list meets the calls on a way through named nodes, and no others. -/
theorem calls_perm (body : Node) :
    body.calls.Perm ((body.callSites.filter fun s => body.namedAlong s.way).map Site.node) := by
  have hcalls : body.calls =
      ((Site.root body).named.filter fun s => s.node.kind = .callExpression).map Site.node := by
    rw [Site.map_node_filter fun c => c.kind = .callExpression, Site.map_node_named, calls]
    rfl
  rw [hcalls]
  refine List.Perm.map _ ?_
  have hnodup : (body.callSites.filter fun s => body.namedAlong s.way).Nodup :=
    (body.nodup_sites.filter _).filter _
  rw [List.perm_ext_iff_of_nodup ((Site.nodup_named _).filter _) hnodup]
  intro s
  rw [List.mem_filter, List.mem_filter, mem_callSites, Site.mem_named_root, decide_eq_true_eq]
  constructor
  · rintro ⟨⟨hne, hat, hnamed⟩, hkind⟩
    exact ⟨⟨hat, hne, hkind⟩, hnamed⟩
  · rintro ⟨⟨hat, hne, hkind⟩, hnamed⟩
    exact ⟨⟨hne, hat, hnamed⟩, hkind⟩

theorem AnonymousAreTokens.of_child {n c : Node} {i : Nat} (h : n.AnonymousAreTokens)
    (hc : n.children[i]? = some c) : c.AnonymousAreTokens := by
  intro s hs _ hanonymous
  exact h ⟨i :: s.way, s.node⟩ ((mem_sites_cons hc).mpr hs) (List.cons_ne_nil _ _) hanonymous

/-- Where anonymous nodes are tokens, a call is at the end of a way through named nodes. -/
theorem namedAlong_of_callExpression {n call : Node} {way : Way} (htokens : n.AnonymousAreTokens)
    (hat : n.at? way = some call) (hkind : call.kind = .callExpression) : n.namedAlong way := by
  induction way generalizing n with
  | nil => rfl
  | cons i rest ih =>
    cases hchild : n.children[i]? with
    | none => simp [at?, hchild] at hat
    | some c =>
      have hrest : c.at? rest = some call := by simpa [at?, hchild] using hat
      have hnamed : c.isNamed := by
        by_contra hanonymous
        obtain ⟨hleaf, hother⟩ := htokens ⟨[i], c⟩ (mem_sites.mpr (by simp [at?, hchild])) (by simp)
          (by simpa using hanonymous)
        cases rest with
        | nil =>
          cases hrest
          exact hother hkind
        | cons j rest => simp [at?, hleaf] at hrest
      simp [namedAlong, hchild, hnamed, ih (htokens.of_child hchild) hrest]

/-- Where anonymous nodes are tokens, the known calls are all calls of a known class. -/
theorem knownCalls_of_tokens {body : Node} (htokens : body.AnonymousAreTokens) (src : Source)
    (callees : List Nat) :
    body.knownCalls src callees = body.callSites.filter fun s => isKnown src callees s.node := by
  refine List.filter_congr fun s hs => ?_
  obtain ⟨hat, -, hkind⟩ := mem_callSites.mp hs
  rw [namedAlong_of_callExpression htokens hat hkind, Bool.true_and]

end Node

/-- The calls of a function with or without a body. -/
def callSites (body : Option Node) : List Site := body.elim [] Node.callSites

/-- The calls of a known class of a function with or without a body. -/
def knownCalls (src : Source) (callees : List Nat) (body : Option Node) : List Site :=
  body.elim [] (Node.knownCalls src callees)

/-! ## The metrics -/

theorem countCalls_eq (src : Source) (callees : List Nat) (body : Option Node) :
    countCalls src callees body =
      (knownCalls src callees body).countP fun s => isCostly (classify src callees s.node) := by
  cases body with
  | none => rfl
  | some body =>
    have hperm := (body.calls_perm.filter fun c => isCostly (classify src callees c)).length_eq
    rw [countCalls, hperm, List.filter_map, List.length_map, knownCalls, Option.elim_some,
      Node.knownCalls, List.countP_eq_length_filter, List.filter_filter, List.filter_filter]
    congr 1
    refine List.filter_congr fun s _ => ?_
    rw [Bool.eq_iff_iff]
    simp only [Function.comp_apply, Bool.and_eq_true]
    constructor
    · rintro ⟨hcostly, hnamed⟩
      exact ⟨hcostly, hnamed, (isCostly_classify_iff.mp hcostly).1⟩
    · rintro ⟨hcostly, hnamed, -⟩
      exact ⟨hcostly, hnamed⟩

/-- No call is counted exactly if every known one is a bare builtin. -/
theorem countCalls_eq_zero_iff (src : Source) (callees : List Nat) (body : Option Node) :
    countCalls src callees body = 0 ↔
      ∀ s ∈ knownCalls src callees body, s.node.IsBareBuiltin src := by
  rw [countCalls_eq, List.countP_eq_zero]
  refine forall₂_congr fun s hs => ?_
  have hknown : isKnown src callees s.node := by
    cases body with
    | none => cases hs
    | some body => exact (Bool.and_eq_true_iff.mp (List.mem_filter.mp hs).2).2
  rw [isCostly_classify_iff]
  simp [hknown]

theorem hasCalls_iff (src : Source) (callees : List Nat) (body : Option Node) :
    hasCalls src callees body ↔ knownCalls src callees body ≠ [] := by
  cases body with
  | none => simp [hasCalls, knownCalls]
  | some body =>
    have hany : hasCalls src callees (some body) =
        ((body.callSites.filter fun s => body.namedAlong s.way).map Site.node).any
          (isKnown src callees) :=
      body.calls_perm.any_eq
    rw [hany, List.any_map, List.any_filter, List.any_eq_true, knownCalls, Option.elim_some,
      Node.knownCalls, ne_eq, List.filter_eq_nil_iff]
    simp

/-- What the call metrics of a body say about the calls in it: the number `count` of calls that are
likely to cost something, and the mark `any`. -/
structure CallMetrics (src : Source) (callees : List Nat) (body : Option Node) (count : Int)
    (any : Bool) : Prop where
  count_le_known : count ≤ (knownCalls src callees body).length
  known_le_calls : (knownCalls src callees body).length ≤ (callSites body).length
  any_iff : any ↔ 0 < (knownCalls src callees body).length
  any_of_count : 0 < count → any
  any_without_count_iff : any ∧ count = 0 ↔ knownCalls src callees body ≠ [] ∧
    ∀ s ∈ knownCalls src callees body, s.node.IsBareBuiltin src

theorem callMetrics (src : Source) (callees : List Nat) (body : Option Node) :
    CallMetrics src callees body (countCalls src callees body) (hasCalls src callees body) := by
  have hcount : countCalls src callees body ≤ (knownCalls src callees body).length := by
    rw [countCalls_eq]
    exact List.countP_le_length
  have hany := hasCalls_iff src callees body
  refine ⟨by exact_mod_cast hcount, ?_, ?_, ?_, ?_⟩
  · cases body with
    | none => exact Nat.le_refl _
    | some body => exact List.length_filter_le _ _
  · rw [hany, List.length_pos_iff]
  · intro hpos
    rw [hany, ← List.length_pos_iff]
    omega
  · rw [hany, ← countCalls_eq_zero_iff, Int.natCast_eq_zero]

/-- The call metrics agree with each other and with the calls of the body, for every body, source and
choice of callees, and so they do in every record of a file. Where anonymous nodes are tokens, the
calls that they speak of are all calls of a known class strictly below the body. -/
theorem call_metrics_agree (src : Source) :
    (∀ callees body,
      CallMetrics src callees body (countCalls src callees body) (hasCalls src callees body)) ∧
    (∀ root records, measure src root = .ok records → ∀ r ∈ records, ∃ f ∈ root.functions,
      CallMetrics src (resolve src root) (f.child? .body) r.calls r.anyCalls) ∧
    ∀ callees (body : Node), body.AnonymousAreTokens →
      knownCalls src callees (some body) =
        (callSites (some body)).filter fun s => (classify src callees s.node).1 != .other := by
  refine ⟨callMetrics src, fun root records h r hr => ?_, fun callees body htokens => ?_⟩
  · obtain ⟨lines, -, rfl⟩ := measure_eq_ok_iff.mp h
    obtain ⟨f, hf, rfl⟩ := List.mem_map.mp hr
    exact ⟨f, hf, callMetrics src (resolve src root) (f.child? .body)⟩
  · exact Node.knownCalls_of_tokens htokens src callees

/-- A function that is spelled like a builtin, and a function that calls it. -/
def shadowedBuiltinSource : Source :=
  .ofString "package p\n\nfunc len() \x7b\x7d\n\nfunc f() \x7b len() \x7d\n"

/-- The tree of these two functions; the second has the call in its body. -/
def shadowedBuiltin : Node :=
  .branch .sourceFile 0 45 none
    [.branch .packageClause 0 9 none [.branch .packageIdentifier 8 9 none []],
     .branch .functionDeclaration 11 24 none
      [.branch .identifier 16 19 (some .name) [],
       .branch .parameterList 19 21 (some .parameters) [],
       .branch .block 22 24 (some .body) []],
     .branch .functionDeclaration 26 44 none
      [.mk ⟨.other "func", 26, 30, false, none, false⟩ [],
       .branch .identifier 31 32 (some .name) [],
       .branch .parameterList 32 34 (some .parameters) [],
       .branch .block 35 44 (some .body)
        [.branch .expressionStatement 37 42 none
          [.branch .callExpression 37 42 none
            [.branch .identifier 37 40 (some .callee) [],
             .branch .argumentList 40 42 (some .arguments) []]]]]]

/-- The call resolves to the function of the file, and still it is not counted. -/
theorem shadowedBuiltin_metrics :
    resolve shadowedBuiltinSource shadowedBuiltin = [37] ∧ shadowedBuiltin.AnonymousAreTokens ∧
      ∃ records, measure shadowedBuiltinSource shadowedBuiltin = .ok records ∧
        records.map (fun r => (r.calls, r.anyCalls)) = [(0, false), (0, true)] ∧
        (∀ r ∈ records, ∃ f ∈ shadowedBuiltin.functions,
          CallMetrics shadowedBuiltinSource [37] (f.child? .body) r.calls r.anyCalls) ∧
        knownCalls shadowedBuiltinSource [37] (some shadowedBuiltin) =
          (callSites (some shadowedBuiltin)).filter fun s =>
            (classify shadowedBuiltinSource [37] s.node).1 != .other := by
  have hresolve : resolve shadowedBuiltinSource shadowedBuiltin = [37] := by decide +kernel
  have htokens : shadowedBuiltin.AnonymousAreTokens := by
    unfold Node.AnonymousAreTokens
    decide +kernel
  have hrecords : measure shadowedBuiltinSource shadowedBuiltin =
      .ok [⟨3, 0, 0, false, false⟩, ⟨5, 3, 0, false, true⟩] := by decide +kernel
  obtain ⟨-, hmetrics, hknown⟩ := call_metrics_agree shadowedBuiltinSource
  refine ⟨hresolve, htokens, _, hrecords, rfl, ?_, hknown [37] _ htokens⟩
  rw [← hresolve]
  exact hmetrics _ _ hrecords

end GoMeter
