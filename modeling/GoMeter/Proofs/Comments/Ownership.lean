import GoMeter.Comments.Ownership
import GoMeter.Proofs.Comments.Runs
import GoMeter.Syntax.Soundness
import Mathlib.Algebra.Ring.Int.Defs
import Mathlib.Data.List.Pairwise

/-!
# A comment belongs to one declaration at most

The rule by which a group finds its declaration, said without the map that is built from it: a group
trails the declaration before it if it starts on the line where that declaration ends, or on the
next one with a free line after the group. A group that trails nothing belongs to the declaration
after it.

* `PlacedGroup.Trails`, `PlacedGroup.BelongsTo`: the rule.
* `CommentMap.groupsAt_ofRoot`: what the map lists under an offset.
* `Marks`: a comment that keeps a declaration from being inlined.
* `CommentMap.ofRoot_congr`: what stands below the children of the root does not count.
* `commentMap_follows_rule`: groups, marks and the map.
-/

namespace GoMeter

/-! ## The rule -/

namespace PlacedGroup

section

variable (src : Source) (lines : LineMap) (p : PlacedGroup)

/-- A group trails a declaration before it: it starts on the line where the declaration ends, or on
the next line with a free line between the group and the following declaration. The end of the file
counts as line `2 ^ 30`. -/
def Trails (d : Node) : Prop :=
  lines.endLine src d = p.group.startLine ∨
    (lines.endLine src d + 1 = p.group.startLine ∧
      p.group.endLine + 1 < (p.after.map (lines.startLine src)).getD (2 ^ 30))

/-- A group belongs to the declaration before it if it trails it, and otherwise to the one after. -/
def BelongsTo (d : Node) : Prop :=
  (p.before = some d ∧ p.Trails src lines d) ∨
    ((∀ b, p.before = some b → ¬ p.Trails src lines b) ∧ p.after = some d)

end

variable {src : Source} {lines : LineMap} {p : PlacedGroup}

theorem isClaimed_iff {d : Node} : p.isClaimed src lines d ↔ p.Trails src lines d := by
  simp only [isClaimed, Trails, Bool.or_eq_true, Bool.and_eq_true, decide_eq_true_eq]
  rfl

theorem owner?_eq_some_iff {d : Node} :
    p.owner? src lines = some d ↔ p.BelongsTo src lines d := by
  unfold owner? BelongsTo
  cases hbefore : p.before with
  | none => simp
  | some b =>
    by_cases htrails : p.Trails src lines b
    · simp only [isClaimed_iff.mpr htrails, if_true, Option.some.injEq, forall_eq']
      constructor
      · rintro rfl
        exact .inl ⟨rfl, htrails⟩
      · rintro (⟨rfl, -⟩ | ⟨hnot, -⟩)
        · rfl
        · exact absurd htrails hnot
    · simp only [mt isClaimed_iff.mp htrails, Bool.false_eq_true, if_false, Option.some.injEq,
        forall_eq']
      constructor
      · exact fun hafter => .inr ⟨htrails, hafter⟩
      · rintro (⟨rfl, h⟩ | ⟨-, hafter⟩)
        · exact absurd h htrails
        · exact hafter

theorem BelongsTo.unique {d e : Node} (hd : p.BelongsTo src lines d)
    (he : p.BelongsTo src lines e) : d = e := by
  rw [← owner?_eq_some_iff] at hd he
  exact Option.some.inj (hd.symm.trans he)

theorem BelongsTo.before_or_after {d : Node} (h : p.BelongsTo src lines d) :
    p.before = some d ∨ p.after = some d := by
  rcases h with ⟨hbefore, -⟩ | ⟨-, hafter⟩
  · exact .inl hbefore
  · exact .inr hafter

/-- A group belongs to nothing exactly if it trails nothing and no declaration follows. -/
theorem forall_not_belongsTo_iff : (∀ d, ¬ p.BelongsTo src lines d) ↔
    (∀ b, p.before = some b → ¬ p.Trails src lines b) ∧ p.after = none := by
  constructor
  · intro h
    have htrails : ∀ b, p.before = some b → ¬ p.Trails src lines b :=
      fun b hb ht => h b (.inl ⟨hb, ht⟩)
    refine ⟨htrails, ?_⟩
    cases hafter : p.after with
    | none => rfl
    | some d => exact absurd (.inr ⟨htrails, hafter⟩) (h d)
  · rintro ⟨htrails, hafter⟩ d (⟨hbefore, ht⟩ | ⟨-, hd⟩)
    · exact htrails d hbefore ht
    · rw [hafter] at hd
      cases hd

end PlacedGroup

/-! ## The map -/

namespace CommentMap

theorem groupsAt_add (m : CommentMap) (start : Nat) (group : CommentGroup) (k : Nat) :
    (m.add start group).groupsAt k =
      if start = k then m.groupsAt k ++ [group] else m.groupsAt k := by
  unfold groupsAt
  induction m with
  | nil =>
    rw [add, List.lookup_cons, List.lookup_nil]
    by_cases h : start = k
    · simp [h]
    · have hb : (k == start) = false := by simpa using Ne.symm h
      simp [h, hb]
  | cons entry rest ih =>
    obtain ⟨first, groups⟩ := entry
    rw [add]
    by_cases hstart : first = start
    · subst hstart
      rw [if_pos rfl, List.lookup_cons, List.lookup_cons]
      by_cases h : first = k
      · simp [h]
      · have hb : (k == first) = false := by simpa using Ne.symm h
        simp [h, hb]
    · rw [if_neg hstart, List.lookup_cons, List.lookup_cons]
      cases hb : k == first with
      | true =>
        have h : start ≠ k := by rw [beq_iff_eq.mp hb]; exact Ne.symm hstart
        simp [h]
      | false => exact ih

/-- Adds a group under the declaration that it belongs to. -/
def addPlaced (src : Source) (lines : LineMap) (m : CommentMap) (p : PlacedGroup) : CommentMap :=
  match p.owner? src lines with
  | some owner => m.add owner.start p.group
  | none => m

theorem ofRoot_eq (src : Source) (lines : LineMap) (root : Node) :
    ofRoot src lines root = (commentGroups src lines root).foldl (addPlaced src lines) [] := rfl

theorem groupsAt_foldl (src : Source) (lines : LineMap) (ps : List PlacedGroup) (m : CommentMap)
    (start : Nat) : (ps.foldl (addPlaced src lines) m).groupsAt start =
      m.groupsAt start ++ (ps.filter fun p =>
        (p.owner? src lines).map Node.start = some start).map PlacedGroup.group := by
  induction ps generalizing m with
  | nil => simp
  | cons p rest ih =>
    rw [List.foldl_cons, ih, addPlaced]
    cases howner : p.owner? src lines with
    | none => simp [howner]
    | some owner =>
      rw [groupsAt_add]
      by_cases hstart : owner.start = start
      · simp [howner, hstart]
      · simp [howner, hstart]

/-- What the map of a file lists under an offset, in order. -/
theorem groupsAt_ofRoot (src : Source) (lines : LineMap) (root : Node) (start : Nat) :
    (ofRoot src lines root).groupsAt start =
      ((commentGroups src lines root).filter fun p =>
        (p.owner? src lines).map Node.start = some start).map PlacedGroup.group := by
  rw [ofRoot_eq, groupsAt_foldl]
  rfl

end CommentMap

/-! ## Declarations with distinct offsets -/

/-- The declarations among the children of a root. -/
def Node.declarationSites (root : Node) : List Site :=
  (Site.root root).namedChildren.filter fun s => s.node.kind ≠ .comment

namespace Node

variable {src : Source} {lines : LineMap} {root : Node}

theorem map_node_declarationSites (root : Node) :
    root.declarationSites.map Site.node = root.declarations := by
  rw [declarationSites, Site.map_node_filter fun n : Node => decide (n.kind ≠ .comment),
    Site.map_node_namedChildren]
  rfl

theorem node_mem_declarations {d : Site} (h : d ∈ root.declarationSites) :
    d.node ∈ root.declarations := by
  rw [← map_node_declarationSites]
  exact List.mem_map_of_mem h

theorem mem_declarationSites {d : Site} :
    d ∈ root.declarationSites ↔ d ∈ (Site.root root).namedChildren ∧ d.node.kind ≠ .comment := by
  rw [declarationSites, List.mem_filter, decide_eq_true_eq]

/-- The declarations around a run of comments are declarations of the file. -/
theorem mem_declarationSites_of_run {run : Stretch} (hrun : run ∈ root.commentRuns src lines)
    {d : Site} (hd : run.before = some d ∨ run.after = some d) : d ∈ root.declarationSites := by
  obtain ⟨gap, hgap, hbefore, hafter, -⟩ := exists_gap_of_mem_commentRuns hrun
  rw [hbefore, hafter] at hd
  have hmem : d ∈ gap.sites := by
    rcases hd with hd | hd <;> simp [Stretch.sites, hd]
  refine mem_declarationSites.mpr ⟨hgap.isInfix.subset hmem, ?_⟩
  rcases hd with hd | hd
  · exact hgap.before_ne d hd
  · exact hgap.after_ne d hd

section

variable (hstarts : (root.declarations.map Node.start).Nodup)
include hstarts

/-- The first byte of a declaration determines it. -/
theorem eq_of_start_eq {d e : Node} (hd : d ∈ root.declarations) (he : e ∈ root.declarations)
    (h : d.start = e.start) : d = e :=
  List.inj_on_of_nodup_map hstarts hd he h

theorem declarationSite_eq {d e : Site} (hd : d ∈ root.declarationSites)
    (he : e ∈ root.declarationSites) (h : d.node = e.node) : d = e := by
  rw [← map_node_declarationSites, List.map_map] at hstarts
  exact List.inj_on_of_nodup_map hstarts hd he (congrArg Node.start h)

/-- The declarations before and after a run are not the same. -/
theorem before_ne_after {run : Stretch} (hrun : run ∈ root.commentRuns src lines) {d e : Site}
    (hd : run.before = some d) (he : run.after = some e) : d.node.start ≠ e.node.start := by
  obtain ⟨gap, hgap, hbefore, hafter, -⟩ := exists_gap_of_mem_commentRuns hrun
  rw [hbefore] at hd
  rw [hafter] at he
  have hpair : [d, e].Sublist root.declarationSites := by
    have hsub := (hgap.isInfix.sublist).filter fun s : Site => decide (s.node.kind ≠ .comment)
    have hcomments : gap.comments.filter (fun s : Site => decide (s.node.kind ≠ .comment)) = [] := by
      rw [List.filter_eq_nil_iff]
      intro c hc
      simp [hgap.isComment c hc]
    rw [Stretch.sites, List.filter_append, List.filter_append, hcomments, hd, he] at hsub
    simpa [Node.declarationSites, hgap.before_ne d hd, hgap.after_ne e he] using hsub
  have hnodup := (hpair.map fun s => s.node.start)
  rw [← map_node_declarationSites, List.map_map] at hstarts
  simpa using hstarts.sublist hnodup

end

end Node

/-! ## Comments that count -/

/-- The comment at `c` keeps the declaration at `d` from being inlined: it is adjacent to `d`,
mentions the directive, and is in a run whose group belongs to `d`. -/
structure Marks (src : Source) (lines : LineMap) (root : Node) (c d : Site) : Prop where
  declared : d ∈ root.declarationSites
  isComment : c ∈ root.commentSites
  adjacent : c.AdjacentIn (Site.root root).namedChildren d
  mentions : textOccursIn CommentMap.noinlineDirective (c.node.text src)
  owned : ∃ run ∈ root.commentRuns src lines, c ∈ run.comments ∧
    (run.placed src lines).BelongsTo src lines d.node

section

variable {src : Source} {lines : LineMap} {root : Node}

/-- A comment is in one run. -/
theorem run_unique {run run' : Stretch} (h : run ∈ root.commentRuns src lines)
    (h' : run' ∈ root.commentRuns src lines) {c : Site} (hc : c ∈ run.comments)
    (hc' : c ∈ run'.comments) : run = run' := by
  have hnodup : ((root.commentRuns src lines).flatMap Stretch.comments).Nodup := by
    rw [flatMap_comments_commentRuns]
    exact (Site.root root).nodup_namedChildren.filter _
  rw [List.nodup_flatMap] at hnodup
  have : Std.Symm (Function.onFun List.Disjoint Stretch.comments) :=
    ⟨fun _ _ hdisjoint c hc' hc => hdisjoint hc hc'⟩
  by_contra hne
  exact hnodup.2.forall h h' hne hc hc'

theorem mem_commentSites_of_run {run : Stretch} (h : run ∈ root.commentRuns src lines) {c : Site}
    (hc : c ∈ run.comments) : c ∈ root.commentSites := by
  rw [← flatMap_comments_commentRuns src lines]
  exact List.mem_flatMap.mpr ⟨run, h, hc⟩

/-- The declaration that a group of a run belongs to. -/
theorem exists_site_of_belongsTo {run : Stretch} (h : run ∈ root.commentRuns src lines) {d : Node}
    (hd : (run.placed src lines).BelongsTo src lines d) :
    ∃ s ∈ root.declarationSites, s.node = d ∧ (run.before = some s ∨ run.after = some s) := by
  rcases hd.before_or_after with hd | hd
  · obtain ⟨s, hs, rfl⟩ := Option.map_eq_some_iff.mp hd
    exact ⟨s, Node.mem_declarationSites_of_run h (.inl hs), rfl, .inl hs⟩
  · obtain ⟨s, hs, rfl⟩ := Option.map_eq_some_iff.mp hd
    exact ⟨s, Node.mem_declarationSites_of_run h (.inr hs), rfl, .inr hs⟩

/-- A comment marks one declaration at most. -/
theorem Marks.unique (hstarts : (root.declarations.map Node.start).Nodup) {c d e : Site}
    (hd : Marks src lines root c d) (he : Marks src lines root c e) : d = e := by
  obtain ⟨run, hrun, hc, howned⟩ := hd.owned
  obtain ⟨run', hrun', hc', howned'⟩ := he.owned
  rw [← run_unique hrun hrun' hc hc'] at howned'
  exact Node.declarationSite_eq hstarts hd.declared he.declared (howned.unique howned')

/-- Under the offset of a declaration the map lists the groups that belong to it. -/
theorem owner_start_iff_belongsTo (hstarts : (root.declarations.map Node.start).Nodup) {d : Node}
    (hd : d ∈ root.declarations) {p : PlacedGroup} (hp : p ∈ commentGroups src lines root) :
    (p.owner? src lines).map Node.start = some d.start ↔ p.BelongsTo src lines d := by
  rw [← PlacedGroup.owner?_eq_some_iff, Option.map_eq_some_iff]
  constructor
  · rintro ⟨e, he, hstart⟩
    rw [commentGroups_eq] at hp
    obtain ⟨run, hrun, rfl⟩ := List.mem_map.mp hp
    obtain ⟨s, hs, rfl, -⟩ :=
      exists_site_of_belongsTo hrun (PlacedGroup.owner?_eq_some_iff.mp he)
    rw [he, Node.eq_of_start_eq hstarts (Node.node_mem_declarations hs) hd hstart]
  · exact fun h => ⟨d, h, rfl⟩

theorem mem_declarations_of_belongsTo {p : PlacedGroup} (hp : p ∈ commentGroups src lines root)
    {d : Node} (hd : p.BelongsTo src lines d) : d ∈ root.declarations := by
  rw [commentGroups_eq] at hp
  obtain ⟨run, hrun, rfl⟩ := List.mem_map.mp hp
  obtain ⟨s, hs, rfl, -⟩ := exists_site_of_belongsTo hrun hd
  exact Node.node_mem_declarations hs

/-- The declaration after a group is not the one before it. -/
theorem after_ne_of_before (hstarts : (root.declarations.map Node.start).Nodup) {p : PlacedGroup}
    (hp : p ∈ commentGroups src lines root) {d : Node} (hbefore : p.before = some d) :
    p.after ≠ some d := by
  intro hafter
  rw [commentGroups_eq] at hp
  obtain ⟨run, hrun, rfl⟩ := List.mem_map.mp hp
  obtain ⟨b, hb, rfl⟩ := Option.map_eq_some_iff.mp hbefore
  obtain ⟨a, ha, hnode⟩ := Option.map_eq_some_iff.mp hafter
  exact Node.before_ne_after hstarts hrun hb ha (congrArg Node.start hnode).symm

theorem hasNoinline_iff_marks (hstarts : (root.declarations.map Node.start).Nodup) {d : Site}
    (hd : d ∈ root.declarationSites) :
    (CommentMap.ofRoot src lines root).hasNoinline d.node ↔ ∃ c, Marks src lines root c d := by
  rw [CommentMap.hasNoinline, CommentMap.groupsAt_ofRoot, List.any_eq_true]
  constructor
  · rintro ⟨group, hgroup, hmentions⟩
    obtain ⟨p, hp, rfl⟩ := List.mem_map.mp hgroup
    rw [List.mem_filter, decide_eq_true_eq] at hp
    have howned := (owner_start_iff_belongsTo hstarts (Node.node_mem_declarations hd) hp.1).mp hp.2
    rw [commentGroups_eq] at hp
    obtain ⟨run, hrun, rfl⟩ := List.mem_map.mp hp.1
    -- The group mentions the directive because one of its comments does.
    simp only [CommentMap.mentions, Stretch.placed, Grouping.groupOf, List.map_map,
      List.any_map, List.any_eq_true] at hmentions
    obtain ⟨c, hc, htext⟩ := hmentions
    obtain ⟨s, hs, hnode, haround⟩ := exists_site_of_belongsTo hrun howned
    obtain rfl := Node.declarationSite_eq hstarts hs hd hnode
    obtain ⟨gap, hgap, hbefore, hafter, hincl⟩ := exists_gap_of_mem_commentRuns hrun
    rw [hbefore, hafter] at haround
    exact ⟨c, hs, mem_commentSites_of_run hrun hc, hgap.adjacent (hincl c hc) haround, htext,
      run, hrun, hc, howned⟩
  · rintro ⟨c, hmark⟩
    obtain ⟨run, hrun, hc, howned⟩ := hmark.owned
    have hp : run.placed src lines ∈ commentGroups src lines root := by
      rw [commentGroups_eq]
      exact List.mem_map_of_mem hrun
    refine ⟨(run.placed src lines).group, List.mem_map_of_mem (List.mem_filter.mpr ⟨hp, ?_⟩), ?_⟩
    · rw [decide_eq_true_eq,
        owner_start_iff_belongsTo hstarts (Node.node_mem_declarations hd) hp]
      exact howned
    · simp only [CommentMap.mentions, Stretch.placed, Grouping.groupOf, List.map_map,
        List.any_map, List.any_eq_true]
      exact ⟨c, hc, hmark.mentions⟩

end

/-! ## What stands below the children of the root -/

/-- A node without what is below it. -/
def Node.pruned (n : Node) : Node := .mk n.label []

@[simp] theorem Node.kind_pruned (n : Node) : n.pruned.kind = n.kind := rfl

@[simp] theorem Node.start_pruned (n : Node) : n.pruned.start = n.start := rfl

@[simp] theorem Node.text_pruned (n : Node) (src : Source) : n.pruned.text src = n.text src := rfl

@[simp] theorem LineMap.startLine_pruned (lines : LineMap) (src : Source) (n : Node) :
    lines.startLine src n.pruned = lines.startLine src n := rfl

@[simp] theorem LineMap.endLine_pruned (lines : LineMap) (src : Source) (n : Node) :
    lines.endLine src n.pruned = lines.endLine src n := rfl

/-- A placed group between pruned declarations. -/
def PlacedGroup.pruned (p : PlacedGroup) : PlacedGroup :=
  ⟨p.group, p.before.map Node.pruned, p.after.map Node.pruned⟩

namespace Grouping

variable (src : Source) (lines : LineMap) (g : Grouping)

/-- A state in which every node is pruned. -/
def pruned : Grouping where
  done := g.done.map PlacedGroup.pruned
  closed := g.closed.map fun (comments, before) => (comments.map Node.pruned, before.map Node.pruned)
  current := g.current.map Node.pruned
  trailing := g.trailing
  last := g.last.map Node.pruned

theorem groupOf_pruned (comments : List Node) :
    groupOf src lines (comments.map Node.pruned) = groupOf src lines comments := by
  simp [groupOf, Function.comp_def]

theorem allClosed_pruned : g.pruned.allClosed =
    g.allClosed.map fun (comments, before) => (comments.map Node.pruned, before.map Node.pruned) := by
  unfold allClosed pruned
  by_cases h : g.current.isEmpty <;> simp [h]

theorem placed_pruned (after : Option Node) :
    g.pruned.placed src lines (after.map Node.pruned) =
      (g.placed src lines after).map PlacedGroup.pruned := by
  rw [placed, allClosed_pruned, placed]
  simp [groupOf_pruned, pruned, PlacedGroup.pruned, Function.comp_def]

theorem accepts_pruned (line : Int) : g.pruned.accepts src lines line = g.accepts src lines line := by
  unfold accepts pruned
  rw [List.getLast?_map]
  cases g.current.getLast? with
  | none => rfl
  | some c => rfl

theorem startsTrailing_pruned (line : Int) :
    g.pruned.startsTrailing src lines line = g.startsTrailing src lines line := by
  rw [startsTrailing, allClosed_pruned, List.isEmpty_map, startsTrailing]
  unfold pruned
  cases g.last with
  | none => rfl
  | some d => rfl

theorem step_pruned (c : Node) :
    g.pruned.step src lines c.pruned = (g.step src lines c).pruned := by
  unfold step
  rw [Node.kind_pruned]
  by_cases hc : c.kind = .comment
  · simp only [hc, if_true, LineMap.startLine_pruned, accepts_pruned, startsTrailing_pruned]
    by_cases haccepts : g.accepts src lines (lines.startLine src c)
    · simp [haccepts, pruned]
    · simp only [haccepts, Bool.false_eq_true, if_false, allClosed_pruned]
      simp [pruned]
  · simp only [hc, if_false]
    simp [pruned, ← placed_pruned]

theorem foldl_step_pruned (ns : List Node) :
    (ns.map Node.pruned).foldl (step src lines) g.pruned = (ns.foldl (step src lines) g).pruned := by
  induction ns generalizing g with
  | nil => rfl
  | cons n rest ih => rw [List.map_cons, List.foldl_cons, List.foldl_cons, step_pruned, ih]

end Grouping

theorem PlacedGroup.owner?_pruned (src : Source) (lines : LineMap) (p : PlacedGroup) :
    p.pruned.owner? src lines = (p.owner? src lines).map Node.pruned := by
  obtain ⟨group, before, after⟩ := p
  cases before with
  | none => rfl
  | some d =>
    have hclaimed : isClaimed src lines ⟨group, some d.pruned, after.map Node.pruned⟩ d.pruned =
        isClaimed src lines ⟨group, some d, after⟩ d := by
      cases after <;> rfl
    simp only [pruned, owner?, Option.map_some, hclaimed]
    split_ifs <;> rfl

theorem commentGroups_pruned (src : Source) (lines : LineMap) (root : Node) :
    ((root.namedChildren.map Node.pruned).foldl (Grouping.step src lines) .start).placed src lines
      none = (commentGroups src lines root).map PlacedGroup.pruned := by
  have hfold := Grouping.foldl_step_pruned src lines .start root.namedChildren
  have hplaced := Grouping.placed_pruned src lines
    (root.namedChildren.foldl (Grouping.step src lines) .start) none
  rw [← hfold] at hplaced
  exact hplaced

namespace CommentMap

theorem foldl_addPlaced_pruned (src : Source) (lines : LineMap) (ps : List PlacedGroup)
    (m : CommentMap) : (ps.map PlacedGroup.pruned).foldl (addPlaced src lines) m =
      ps.foldl (addPlaced src lines) m := by
  induction ps generalizing m with
  | nil => rfl
  | cons p rest ih =>
    rw [List.map_cons, List.foldl_cons, List.foldl_cons, ih, addPlaced, PlacedGroup.owner?_pruned,
      addPlaced]
    cases p.owner? src lines <;> rfl

/-- The map of a file depends on the labels of the root's children only. -/
theorem ofRoot_congr (src : Source) (lines : LineMap) {root root' : Node}
    (h : root'.namedChildren.map Node.label = root.namedChildren.map Node.label) :
    ofRoot src lines root' = ofRoot src lines root := by
  have hpruned : root'.namedChildren.map Node.pruned = root.namedChildren.map Node.pruned := by
    have := congrArg (List.map fun label => Node.mk label []) h
    rwa [List.map_map, List.map_map] at this
  calc ofRoot src lines root'
      = ((commentGroups src lines root').map PlacedGroup.pruned).foldl (addPlaced src lines) [] := by
        rw [foldl_addPlaced_pruned, ofRoot_eq]
    _ = ((commentGroups src lines root).map PlacedGroup.pruned).foldl (addPlaced src lines) [] := by
        rw [← commentGroups_pruned, hpruned, commentGroups_pruned]
    _ = ofRoot src lines root := by rw [foldl_addPlaced_pruned, ofRoot_eq]

end CommentMap

/-! ## The rule and the map together -/

open scoped Classical in
/-- The comment groups of a file are the runs of its comments. Let the declarations of the file start
at different offsets. Then the map lists every group under the declaration that it belongs to and
nowhere else: under the one before it exactly if it trails it, otherwise under the one after it, and
under none exactly if there is none after it. So a declaration is kept from being inlined exactly if
some comment marks it; a comment marks one declaration at most; and what stands below the children of
the root does not matter. -/
theorem commentMap_follows_rule (src : Source) (lines : LineMap) {root : Node}
    (hstarts : (root.declarations.map Node.start).Nodup) :
    commentGroups src lines root = (root.commentRuns src lines).map (Stretch.placed src lines) ∧
      (root.commentRuns src lines).flatMap Stretch.comments = root.commentSites ∧
      (∀ d ∈ root.declarations, (CommentMap.ofRoot src lines root).groupsAt d.start =
        ((commentGroups src lines root).filter fun p => p.BelongsTo src lines d).map
          PlacedGroup.group) ∧
      (∀ start, start ∉ root.declarations.map Node.start →
        (CommentMap.ofRoot src lines root).groupsAt start = []) ∧
      (∀ p ∈ commentGroups src lines root,
        (∀ d, p.BelongsTo src lines d → d ∈ root.declarations) ∧
        (∀ d e, p.BelongsTo src lines d → p.BelongsTo src lines e → d = e) ∧
        (∀ d, p.before = some d → (p.BelongsTo src lines d ↔ p.Trails src lines d)) ∧
        (∀ d, p.after = some d → (p.BelongsTo src lines d ↔
          ∀ b, p.before = some b → ¬ p.Trails src lines b)) ∧
        ((∀ d, ¬ p.BelongsTo src lines d) ↔
          (∀ b, p.before = some b → ¬ p.Trails src lines b) ∧ p.after = none)) ∧
      (∀ d ∈ root.declarationSites, (CommentMap.ofRoot src lines root).hasNoinline d.node ↔
        ∃ c, Marks src lines root c d) ∧
      (∀ c d e, Marks src lines root c d → Marks src lines root c e → d = e) ∧
      (∀ root' : Node, root'.namedChildren.map Node.label = root.namedChildren.map Node.label →
        ∀ d, (CommentMap.ofRoot src lines root').hasNoinline d =
          (CommentMap.ofRoot src lines root).hasNoinline d) := by
  refine ⟨commentGroups_eq src lines root, flatMap_comments_commentRuns src lines root,
    fun d hd => ?_, fun start hstart => ?_,
    fun p hp => ⟨fun d => mem_declarations_of_belongsTo hp, fun d e => PlacedGroup.BelongsTo.unique,
      fun d hbefore => ⟨?_, fun htrails => .inl ⟨hbefore, htrails⟩⟩,
      fun d hafter => ⟨?_, fun htrails => .inr ⟨htrails, hafter⟩⟩,
      PlacedGroup.forall_not_belongsTo_iff⟩,
    fun d hd => hasNoinline_iff_marks hstarts hd, fun c d e => Marks.unique hstarts,
    fun root' h d => by rw [CommentMap.ofRoot_congr src lines h]⟩
  · rw [CommentMap.groupsAt_ofRoot]
    congr 1
    refine List.filter_congr fun p hp => ?_
    rw [decide_eq_decide]
    exact owner_start_iff_belongsTo hstarts hd hp
  · rw [CommentMap.groupsAt_ofRoot, List.map_eq_nil_iff, List.filter_eq_nil_iff]
    intro p hp howner
    rw [decide_eq_true_eq] at howner
    obtain ⟨d, hd, rfl⟩ := Option.map_eq_some_iff.mp howner
    have howned := PlacedGroup.owner?_eq_some_iff.mp hd
    exact hstart (List.mem_map_of_mem (mem_declarations_of_belongsTo hp howned))
  · rintro (⟨-, htrails⟩ | ⟨-, hafter⟩)
    · exact htrails
    · exact absurd hafter (after_ne_of_before hstarts hp hbefore)
  · rintro (⟨hbefore, -⟩ | ⟨htrails, -⟩)
    · exact absurd hafter (after_ne_of_before hstarts hp hbefore)
    · exact htrails

/-- A file in which a comment after `f` mentions the directive. -/
def trailingDirectiveSource : Source :=
  .ofString "package p\n\nfunc f() \x7b\x7d // go:noinline\nfunc g() \x7b\x7d\n"

/-- The function before the comment, on the same line. -/
def declarationOfF : Node :=
  .branch .functionDeclaration 11 22 none
    [.branch .identifier 16 17 (some .name) [], .branch .parameterList 17 19 (some .parameters) [],
     .branch .block 20 22 (some .body) []]

/-- The file with the comment between its two functions. -/
def trailingDirective : Node :=
  .branch .sourceFile 0 50 none
    [.branch .packageClause 0 9 none [.branch .packageIdentifier 8 9 none []], declarationOfF,
     .branch .comment 23 37 none [],
     .branch .functionDeclaration 38 49 none
      [.branch .identifier 43 44 (some .name) [],
       .branch .parameterList 44 46 (some .parameters) [], .branch .block 47 49 (some .body) []]]

theorem trailingDirective_marks_one :
    ∃ c, Marks trailingDirectiveSource .empty trailingDirective c ⟨[1], declarationOfF⟩ ∧
      ∀ d, Marks trailingDirectiveSource .empty trailingDirective c d → d = ⟨[1], declarationOfF⟩ := by
  have hstarts : (trailingDirective.declarations.map Node.start).Nodup := by decide +kernel
  have hf : ⟨[1], declarationOfF⟩ ∈ trailingDirective.declarationSites :=
    Node.mem_declarationSites.mpr
      ⟨List.mem_filter.mpr ⟨Site.mem_children.mpr ⟨1, rfl, rfl⟩, rfl⟩, by decide⟩
  have h := commentMap_follows_rule trailingDirectiveSource .empty hstarts
  obtain ⟨c, hc⟩ := (h.2.2.2.2.2.1 _ hf).mp (by decide +kernel)
  exact ⟨c, hc, fun d hd => h.2.2.2.2.2.2.1 c d _ hd hc⟩

end GoMeter
