import GoMeter.Proofs.Calls
import Mathlib.Algebra.GroupWithZero.Nat
import Mathlib.Algebra.Order.BigOperators.Group.List
import Mathlib.Algebra.Order.Group.Nat

/-!
# Calls in nested function literals

A call in a function literal counts for the literal and for every function around it. So the calls of a
body are those outside some literals in it together with those below each literal, as long as no literal
of the family stands in another.

* `Site.countedCalls`: the calls below a site that are likely to cost something.
* `LiteralsIn`: function literals below a body, none of them in another.
* `LiteralsIn.countedCalls_perm`: the counted calls of a body, parted by such a family.
* `calls_accumulate_outwards`: what follows for the two call metrics.
-/

namespace GoMeter

/-! ## Calls below a site -/

namespace Site

section

variable (src : Source) (callees : List Nat) (s : Site)

/-- The calls strictly below a site that are likely to cost something. -/
def countedCalls : List Site :=
  s.named.filter fun c =>
    c.node.kind = .callExpression ∧ isCostly (classify src callees c.node)

theorem length_countedCalls :
    (s.countedCalls src callees).length = countCalls src callees (some s.node) := by
  rw [countCalls, Node.calls, ← s.map_node_named, List.filter_filter, List.filter_map,
    List.length_map, countedCalls]
  congr 1
  refine List.filter_congr fun c _ => ?_
  simp [Bool.and_comm]

theorem nodup_countedCalls : (s.countedCalls src callees).Nodup := s.nodup_named.filter _

theorem hasCalls_iff_exists : hasCalls src callees (some s.node) ↔
    ∃ c ∈ s.named, c.node.kind = .callExpression ∧ isKnown src callees c.node := by
  rw [hasCalls, Node.calls, ← s.map_node_named, List.any_filter, List.any_map, List.any_eq_true]
  simp [isKnown]

end

variable {src : Source} {callees : List Nat} {s c g : Site}

theorem mem_countedCalls : c ∈ s.countedCalls src callees ↔
    c ∈ s.named ∧ c.node.kind = .callExpression ∧ isCostly (classify src callees c.node) := by
  rw [countedCalls, List.mem_filter, decide_eq_true_eq]

theorem mem_countedCalls_trans (hg : g ∈ s.named) (hc : c ∈ g.countedCalls src callees) :
    c ∈ s.countedCalls src callees := by
  rw [mem_countedCalls] at hc ⊢
  exact ⟨mem_named_trans hg hc.1, hc.2⟩

end Site

/-! ## Literals in a body -/

/-- Function literals below a body, reached through named nodes: no two are the same, and none contains
another. -/
structure LiteralsIn (body : Site) (gs : List Site) : Prop where
  nodup : gs.Nodup
  below : ∀ g ∈ gs, g ∈ body.named
  isLiteral : ∀ g ∈ gs, g.node.kind = .funcLiteral
  apart : ∀ g ∈ gs, ∀ h ∈ gs, g.way <+: h.way → g = h

/-- A site lies in none of some others. -/
def Site.Outside (gs : List Site) (c : Site) : Prop := ∀ g ∈ gs, ¬ g.way <+: c.way

instance (gs : List Site) (c : Site) : Decidable (c.Outside gs) :=
  inferInstanceAs (Decidable (∀ g ∈ gs, ¬ g.way <+: c.way))

namespace LiteralsIn

variable {root : Node} {src : Source} {callees : List Nat} {body : Site} {gs : List Site}

theorem nodup_flatMap (hgs : LiteralsIn body gs) :
    (gs.flatMap (Site.countedCalls src callees)).Nodup := by
  rw [List.nodup_flatMap]
  refine ⟨fun g _ => g.nodup_countedCalls src callees, ?_⟩
  refine hgs.nodup.imp_of_mem fun {g h} hg hh hne => ?_
  intro c hcg hch
  have hg' := Site.way_prefix_of_mem_named (Site.mem_countedCalls.mp hcg).1
  have hh' := Site.way_prefix_of_mem_named (Site.mem_countedCalls.mp hch).1
  -- Two literals around one call would stand in each other.
  rcases List.prefix_or_prefix_of_prefix hg' hh' with hle | hle
  · exact hne (hgs.apart g hg h hh hle)
  · exact hne (hgs.apart h hh g hg hle).symm

/-- The counted calls of a body are those outside the literals and those below each of them. -/
theorem countedCalls_perm (hgs : LiteralsIn body gs) (hbody : root.at? body.way = some body.node) :
    (body.countedCalls src callees).Perm
      (((body.countedCalls src callees).filter fun c => c.Outside gs) ++
        gs.flatMap (Site.countedCalls src callees)) := by
  have hnodup := body.nodup_countedCalls src callees
  rw [List.perm_ext_iff_of_nodup hnodup]
  · intro c
    rw [List.mem_append, List.mem_filter, decide_eq_true_eq, List.mem_flatMap]
    constructor
    · intro hc
      by_cases hout : c.Outside gs
      · exact .inl ⟨hc, hout⟩
      · right
        simp only [Site.Outside, not_forall, not_not] at hout
        obtain ⟨g, hg, hinside⟩ := hout
        obtain ⟨hnamed, hcall, hcostly⟩ := Site.mem_countedCalls.mp hc
        have hne : c ≠ g := by
          rintro rfl
          rw [hgs.isLiteral c hg] at hcall
          cases hcall
        have hbelow := Site.mem_named_of_between hbody hnamed (hgs.below g hg) hinside hne
        exact ⟨g, hg, Site.mem_countedCalls.mpr ⟨hbelow, hcall, hcostly⟩⟩
    · rintro (⟨hc, -⟩ | ⟨g, hg, hc⟩)
      · exact hc
      · exact Site.mem_countedCalls_trans (hgs.below g hg) hc
  · rw [List.nodup_append]
    refine ⟨hnodup.filter _, hgs.nodup_flatMap, ?_⟩
    rintro c hc d hd rfl
    obtain ⟨g, hg, hd⟩ := List.mem_flatMap.mp hd
    have hout : c.Outside gs := of_decide_eq_true (List.mem_filter.mp hc).2
    exact hout g hg (Site.way_prefix_of_mem_named (Site.mem_countedCalls.mp hd).1)

end LiteralsIn

/-- The bodies of the functions of a tree are named nodes. -/
def Node.NamesBodies (root : Node) : Prop :=
  ∀ f ∈ root.sites, f.node.isFunction → ∀ body, f.node.child? .body = some body → body.isNamed

section Bodies

variable {root : Node} {src : Source} {callees : List Nat} {g b : Site}

/-- The body of a function literal is one of its named children. -/
theorem mem_namedChildren_of_body (hnames : root.NamesBodies) (hg : root.at? g.way = some g.node)
    (hkind : g.node.kind = .funcLiteral) (hb : g.child? .body = some b) : b ∈ g.namedChildren := by
  have hnode : g.node.child? .body = some b.node := by
    rw [← Site.map_node_child?, hb]
    rfl
  have hnamed := hnames g (Node.mem_sites.mpr hg) (by simp [Node.isFunction, hkind]) b.node hnode
  exact List.mem_filter.mpr ⟨Site.mem_children_of_child? hb, hnamed⟩

/-- The calls of the body of a function literal are calls below the literal. -/
theorem countCalls_body_le (hnames : root.NamesBodies) (hg : root.at? g.way = some g.node)
    (hkind : g.node.kind = .funcLiteral) :
    countCalls src callees (g.node.child? .body) ≤ (g.countedCalls src callees).length := by
  rw [← Site.map_node_child?]
  cases hb : g.child? .body with
  | none => exact Nat.zero_le _
  | some b =>
    have hbelow := mem_namedChildren_of_body hnames hg hkind hb
    have hsubset : b.countedCalls src callees ⊆ g.countedCalls src callees := by
      intro c hc
      rw [Site.mem_countedCalls] at hc ⊢
      exact ⟨Site.mem_named_of_namedChildren hbelow hc.1, hc.2⟩
    rw [Option.map_some, ← Site.length_countedCalls]
    exact (List.subperm_of_subset (b.nodup_countedCalls src callees) hsubset).length_le

/-- A literal that is below a body hands the mark for any call on to the body. -/
theorem hasCalls_of_literal (hnames : root.NamesBodies) (hg : root.at? g.way = some g.node)
    (hkind : g.node.kind = .funcLiteral) {body : Site} (hbelow : g ∈ body.named)
    (h : hasCalls src callees (g.node.child? .body)) : hasCalls src callees (some body.node) := by
  rw [← Site.map_node_child?] at h
  cases hb : g.child? .body with
  | none => simp [hb, hasCalls] at h
  | some b =>
    rw [hb, Option.map_some, Site.hasCalls_iff_exists] at h
    obtain ⟨c, hc, hcall⟩ := h
    have hcg := Site.mem_named_of_namedChildren (mem_namedChildren_of_body hnames hg hkind hb) hc
    exact (body.hasCalls_iff_exists src callees).mpr ⟨c, Site.mem_named_trans hbelow hcg, hcall⟩

end Bodies

/-- Let the bodies of functions be named nodes, and take literals in the body of `f` none of which
contains another. Then the calls that count for `f` are those in none of the literals together with
those below each literal; so they are at least as many as count for the bodies of the literals, and if
there is any call in the body of a literal, there is one in the body of `f`. -/
theorem calls_accumulate_outwards {root : Node} (hnames : root.NamesBodies) (src : Source)
    (callees : List Nat) {f body : Site} (hf : root.at? f.way = some f.node)
    (hbody : f.child? .body = some body) {gs : List Site} (hgs : LiteralsIn body gs) :
    countCalls src callees (f.node.child? .body) =
        ((body.countedCalls src callees).filter fun c => c.Outside gs).length +
          (gs.map fun g => (g.countedCalls src callees).length).sum ∧
      (gs.map fun g => countCalls src callees (g.node.child? .body)).sum ≤
        countCalls src callees (f.node.child? .body) ∧
      ∀ g ∈ gs, hasCalls src callees (g.node.child? .body) →
        hasCalls src callees (f.node.child? .body) := by
  have hat := Site.at?_of_child? hf hbody
  have hatg : ∀ g ∈ gs, root.at? g.way = some g.node :=
    fun g hg => Site.at?_of_mem_named hat (hgs.below g hg)
  have hnode : f.node.child? .body = some body.node := by
    rw [← Site.map_node_child?, hbody]
    rfl
  have hparts : countCalls src callees (some body.node) =
      ((body.countedCalls src callees).filter fun c => c.Outside gs).length +
        (gs.map fun g => (g.countedCalls src callees).length).sum := by
    rw [← Site.length_countedCalls, (hgs.countedCalls_perm hat).length_eq, List.length_append,
      List.length_flatMap]
  rw [hnode]
  refine ⟨hparts, ?_, fun g hg => ?_⟩
  · have hsum : (gs.map fun g => countCalls src callees (g.node.child? .body)).sum ≤
        (gs.map fun g => (g.countedCalls src callees).length).sum :=
      List.sum_le_sum fun g hg => countCalls_body_le hnames (hatg g hg) (hgs.isLiteral g hg)
    omega
  · exact hasCalls_of_literal hnames (hatg g hg) (hgs.isLiteral g hg) (hgs.below g hg)

/-- A function that calls `g` itself and in two function literals. -/
def twoLiteralsSource : Source :=
  .ofString ("package p\n\nfunc g() \x7b\x7d\n\n" ++
    "func f() \x7b g(); func() \x7b g() \x7d(); func() \x7b g() \x7d() \x7d\n")

/-- A call of `g` from an offset on. -/
def callOfG (start : Nat) : Node :=
  .branch .callExpression start (start + 3) none
    [.branch .identifier start (start + 1) (some .callee) [],
     .branch .argumentList (start + 1) (start + 3) (some .arguments) []]

/-- A literal from an offset on, with a call of `g` in its body. -/
def literalCallingG (start : Nat) : Node :=
  .branch .funcLiteral start (start + 14) (some .callee)
    [.branch .parameterList (start + 4) (start + 6) (some .parameters) [],
     .branch .block (start + 7) (start + 14) (some .body)
      [.branch .expressionStatement (start + 9) (start + 12) none [callOfG (start + 9)]]]

/-- A statement that calls such a literal. -/
def callOfLiteral (start : Nat) : Node :=
  .branch .expressionStatement start (start + 16) none
    [.branch .callExpression start (start + 16) none
      [literalCallingG start, .branch .argumentList (start + 14) (start + 16) (some .arguments) []]]

/-- The body of `f`, with one call of `g` outside the two literals. -/
def bodyWithLiterals : Node :=
  .branch .block 33 76 (some .body)
    [.branch .expressionStatement 35 38 none [callOfG 35], callOfLiteral 40, callOfLiteral 58]

/-- The function `f`. -/
def functionWithLiterals : Node :=
  .branch .functionDeclaration 24 76 none
    [.branch .identifier 29 30 (some .name) [],
     .branch .parameterList 30 32 (some .parameters) [], bodyWithLiterals]

/-- The file with `g` and `f`. -/
def twoLiterals : Node :=
  .branch .sourceFile 0 77 none
    [.branch .packageClause 0 9 none [.branch .packageIdentifier 8 9 none []],
     .branch .functionDeclaration 11 22 none
      [.branch .identifier 16 17 (some .name) [],
       .branch .parameterList 17 19 (some .parameters) [], .branch .block 20 22 (some .body) []],
     functionWithLiterals]

theorem literalsIn_bodyWithLiterals : LiteralsIn ⟨[2, 2], bodyWithLiterals⟩
    [⟨[2, 2, 1, 0, 0], literalCallingG 40⟩, ⟨[2, 2, 2, 0, 0], literalCallingG 58⟩] where
  nodup := by simp
  below := by
    simp only [List.forall_mem_cons]
    refine ⟨?_, ?_, by simp⟩
    · exact Site.mem_named.mpr ⟨[1, 0, 0], by simp, rfl, rfl, rfl⟩
    · exact Site.mem_named.mpr ⟨[2, 0, 0], by simp, rfl, rfl, rfl⟩
  isLiteral := by decide
  apart := by simp

/-- Of the three calls that count for `f`, one is outside the literals and one in each. -/
theorem twoLiterals_accumulate :
    resolve twoLiteralsSource twoLiterals = [67, 49, 35] ∧
      countCalls twoLiteralsSource [67, 49, 35] (functionWithLiterals.child? .body) = 1 + (1 + 1) ∧
      countCalls twoLiteralsSource [67, 49, 35] ((literalCallingG 40).child? .body) +
          countCalls twoLiteralsSource [67, 49, 35] ((literalCallingG 58).child? .body) ≤
        countCalls twoLiteralsSource [67, 49, 35] (functionWithLiterals.child? .body) ∧
      hasCalls twoLiteralsSource [67, 49, 35] (functionWithLiterals.child? .body) := by
  have hnames : twoLiterals.NamesBodies := by
    unfold Node.NamesBodies
    decide +kernel
  obtain ⟨hparts, hle, hany⟩ := calls_accumulate_outwards hnames twoLiteralsSource [67, 49, 35]
    (f := ⟨[2], functionWithLiterals⟩) rfl rfl literalsIn_bodyWithLiterals
  refine ⟨by decide +kernel, hparts.trans (by decide +kernel), by simpa using hle, ?_⟩
  exact hany ⟨[2, 2, 1, 0, 0], literalCallingG 40⟩ (by simp) (by decide +kernel)

end GoMeter
