import GoMeter.Comments.Group
import GoMeter.Proofs.Syntax.Site
import Mathlib.Data.List.Infix
import Mathlib.Data.List.Nodup

/-!
# Gaps and runs of comments

The named children of a root are declarations and comments. The comments between two neighbouring
declarations are a gap, and a gap falls into runs of adjacent comments. Here gaps and runs are told
by recursion, and every comment and declaration keeps its site, so that two equal comments are told
apart.

* `gapsFrom`, `runsFrom`: the gaps among some sites, and the runs of a gap.
* `Node.commentRuns`: the runs of a file.
* `commentGroups_eq`: the comment groups of a file are those of its runs.
* `flatMap_comments_commentRuns`: the runs hold the comments below the root, each once and in order.
* `exists_gap_of_mem_commentRuns`: a run stands between the declarations it is placed between.
-/

namespace GoMeter

/-- Comments that follow each other, with the declarations around them. -/
structure Stretch where
  before : Option Site
  comments : List Site
  after : Option Site

/-- The gaps among some sites, where `before` is the last declaration so far and `comments` are the
comments since. -/
def gapsFrom (before : Option Site) (comments : List Site) : List Site → List Stretch
  | [] => [⟨before, comments, none⟩]
  | s :: rest =>
    if s.node.kind = .comment then gapsFrom before (comments ++ [s]) rest
    else ⟨before, comments, some s⟩ :: gapsFrom (some s) [] rest

section

variable (src : Source) (lines : LineMap)

/-- Whether a comment that follows `run` joins it: it starts at most `slack` lines after the line on
which the run ends. -/
def joinsRun (slack : Int) (run : List Site) (c : Site) : Bool :=
  match run.getLast? with
  | none => false
  | some last => lines.startLine src c.node ≤ lines.endLine src last.node + slack

/-- The runs of the comments that begin with `run`. Only the first run may have another slack than
one line. -/
def runsFrom (slack : Int) (run : List Site) : List Site → List (List Site)
  | [] => [run]
  | c :: rest =>
    if joinsRun src lines slack run c then runsFrom slack (run ++ [c]) rest
    else run :: runsFrom 1 [c] rest

namespace Stretch

/-- The slack of the first run of a gap: none if its first comment stands on the line where the
declaration before it ends. -/
def slack (g : Stretch) (first : Site) : Int :=
  match g.before with
  | none => 1
  | some d => if lines.endLine src d.node = lines.startLine src first.node then 0 else 1

/-- The runs of a gap. -/
def runs (g : Stretch) : List Stretch :=
  match g.comments with
  | [] => []
  | c :: rest =>
    (runsFrom src lines (g.slack src lines c) [c] rest).map fun run => { g with comments := run }

/-- The group that the comments of a stretch form. -/
def placed (g : Stretch) : PlacedGroup where
  group := Grouping.groupOf src lines (g.comments.map Site.node)
  before := g.before.map Site.node
  after := g.after.map Site.node

/-- The sites of a stretch, in order. -/
def sites (g : Stretch) : List Site := g.before.toList ++ g.comments ++ g.after.toList

end Stretch

/-- The runs of comments among the children of a root. -/
def Node.commentRuns (root : Node) : List Stretch :=
  (gapsFrom none [] (Site.root root).namedChildren).flatMap (Stretch.runs src lines)

end

/-! ## The groups of a file are its runs -/

namespace Grouping

variable {src : Source} {lines : LineMap}

/-- How many lines after the open group a comment may start and still join it. -/
def slack (g : Grouping) : Int := if g.trailing then 0 else 1

theorem step_of_comment {c : Node} (hc : c.kind = .comment) (g : Grouping) :
    g.step src lines c =
      if g.accepts src lines (lines.startLine src c) then { g with current := g.current ++ [c] }
      else { g with
        closed := g.allClosed
        current := [c]
        trailing := g.startsTrailing src lines (lines.startLine src c) } := by
  rw [step, if_pos hc]

theorem accepts_eq_joinsRun {g : Grouping} {run : List Site} (hrun : g.current = run.map Site.node)
    (c : Site) :
    g.accepts src lines (lines.startLine src c.node) = joinsRun src lines g.slack run c := by
  rw [accepts, joinsRun, hrun, List.getLast?_map]
  cases run.getLast? with
  | none => rfl
  | some last => rfl

theorem allClosed_of_current {g : Grouping} (h : g.current ≠ []) :
    g.allClosed = g.closed ++ [(g.current, g.last)] := by
  rw [allClosed, if_neg (by simpa using h)]

/-- While a run is open, the comments that are read complete it and the runs after it. -/
theorem placed_foldl_of_current {cs : List Site} (hcs : ∀ c ∈ cs, c.node.kind = .comment)
    {g : Grouping} (run : List Site) (hne : run ≠ []) (hrun : g.current = run.map Site.node)
    (after : Option Node) :
    ((cs.map Site.node).foldl (step src lines) g).placed src lines after =
      g.done ++ (g.closed ++ (runsFrom src lines g.slack run cs).map
        fun run => (run.map Site.node, g.last)).map
          fun (comments, before) => ⟨groupOf src lines comments, before, after⟩ := by
  have hclosed : g.allClosed = g.closed ++ [(run.map Site.node, g.last)] := by
    rw [allClosed_of_current (by simpa [hrun] using hne), hrun]
  induction cs generalizing g run with
  | nil => rw [List.map_nil, List.foldl_nil, placed, hclosed, runsFrom]; rfl
  | cons c rest ih =>
    rw [List.forall_mem_cons] at hcs
    rw [List.map_cons, List.foldl_cons, step_of_comment hcs.1, accepts_eq_joinsRun hrun, runsFrom]
    by_cases hjoins : joinsRun src lines g.slack run c
    · rw [if_pos hjoins, if_pos hjoins]
      have hcurrent : g.current ++ [c.node] = (run ++ [c]).map Site.node := by simp [hrun]
      exact ih hcs.2 _ (by simp) hcurrent (by rw [allClosed_of_current (by simp)]; simp [hrun])
    · -- The open run is closed, so the next one is not the first of its gap.
      have htrailing : g.startsTrailing src lines (lines.startLine src c.node) = false := by
        simp [startsTrailing, hclosed]
      rw [if_neg hjoins, if_neg hjoins, htrailing,
        ih hcs.2 [c] (by simp) rfl (allClosed_of_current (by simp)), hclosed]
      simp [slack]

/-- Nothing has been read since the declaration `before`. -/
def fresh (done : List PlacedGroup) (trailing : Bool) (before : Option Node) : Grouping :=
  ⟨done, [], [], trailing, before⟩

/-- Reading the comments of a gap gives the groups of its runs. -/
theorem placed_foldl_of_gap (src : Source) (lines : LineMap) (done : List PlacedGroup)
    (trailing : Bool) (gap : Stretch) (hcs : ∀ c ∈ gap.comments, c.node.kind = .comment) :
    ((gap.comments.map Site.node).foldl (step src lines)
        (fresh done trailing (gap.before.map Site.node))).placed src lines (gap.after.map Site.node) =
      done ++ (gap.runs src lines).map (Stretch.placed src lines) := by
  obtain ⟨before, comments, after⟩ := gap
  cases comments with
  | nil => rfl
  | cons c rest =>
    rw [List.forall_mem_cons] at hcs
    have hstep : (fresh done trailing (before.map Site.node)).step src lines c.node =
        ⟨done, [], [c.node], (fresh done trailing (before.map Site.node)).startsTrailing src lines
          (lines.startLine src c.node), before.map Site.node⟩ := by
      rw [step_of_comment hcs.1]
      rfl
    have hslack : slack ((fresh done trailing (before.map Site.node)).step src lines c.node) =
        Stretch.slack src lines ⟨before, c :: rest, after⟩ c := by
      rw [hstep]
      cases before with
      | none => rfl
      | some d => simp [slack, startsTrailing, fresh, allClosed, Stretch.slack]
    rw [List.map_cons, List.foldl_cons,
      placed_foldl_of_current hcs.2 [c] (by simp) (by rw [hstep]; rfl), hslack, hstep]
    simp [Stretch.runs, Stretch.placed, Function.comp_def]

/-- From the declaration `before` on, with `comments` read since, the groups are those of the
gaps. -/
theorem placed_foldl_of_fresh (src : Source) (lines : LineMap) (done : List PlacedGroup)
    (trailing : Bool) (before : Option Site) (comments : List Site)
    (hcs : ∀ c ∈ comments, c.node.kind = .comment) (ss : List Site) :
    (((comments ++ ss).map Site.node).foldl (step src lines)
        (fresh done trailing (before.map Site.node))).placed src lines none =
      done ++ ((gapsFrom before comments ss).flatMap (Stretch.runs src lines)).map
        (Stretch.placed src lines) := by
  induction ss generalizing done trailing before comments with
  | nil =>
    rw [List.append_nil, gapsFrom, List.flatMap_singleton]
    exact placed_foldl_of_gap src lines done trailing ⟨before, comments, none⟩ hcs
  | cons s rest ih =>
    rw [gapsFrom]
    by_cases hs : s.node.kind = .comment
    · have hcs' : ∀ c ∈ comments ++ [s], c.node.kind = .comment := by
        simpa [or_imp, forall_and, hs] using hcs
      rw [if_pos hs, ← ih done trailing before _ hcs', List.append_assoc, List.singleton_append]
    · -- The declaration ends the gap; all its groups are placed before it.
      have hgap := placed_foldl_of_gap src lines done trailing ⟨before, comments, some s⟩ hcs
      rw [if_neg hs, List.map_append, List.foldl_append, List.map_cons, List.foldl_cons, step,
        if_neg hs]
      have hrest := ih (done ++ (Stretch.runs src lines ⟨before, comments, some s⟩).map
        (Stretch.placed src lines)) (((comments.map Site.node).foldl (step src lines)
          (fresh done trailing (before.map Site.node))).trailing) (some s) [] (by simp)
      rw [List.nil_append] at hrest
      rw [List.flatMap_cons, List.map_append, ← List.append_assoc, ← hrest, ← hgap]
      rfl

end Grouping

/-- The comment groups of a file are those of its runs. -/
theorem commentGroups_eq (src : Source) (lines : LineMap) (root : Node) :
    commentGroups src lines root =
      (root.commentRuns src lines).map (Stretch.placed src lines) := by
  have h := Grouping.placed_foldl_of_fresh src lines [] false none [] (by simp)
    (Site.root root).namedChildren
  rw [List.nil_append, List.nil_append, Site.map_node_namedChildren] at h
  exact h

/-! ## Every comment is in one run -/

theorem flatten_runsFrom (src : Source) (lines : LineMap) (slack : Int) (run rest : List Site) :
    (runsFrom src lines slack run rest).flatten = run ++ rest := by
  induction rest generalizing slack run with
  | nil => simp [runsFrom]
  | cons c rest ih =>
    rw [runsFrom]
    split_ifs with hjoins
    · rw [ih, List.append_assoc, List.singleton_append]
    · rw [List.flatten_cons, ih, List.singleton_append]

theorem Stretch.flatMap_comments_runs (src : Source) (lines : LineMap) (gap : Stretch) :
    (gap.runs src lines).flatMap Stretch.comments = gap.comments := by
  rw [runs]
  cases gap.comments with
  | nil => rfl
  | cons c rest =>
    rw [List.flatMap_map, List.flatMap_id', flatten_runsFrom, List.singleton_append]

theorem flatMap_comments_gapsFrom (before : Option Site) (comments ss : List Site) :
    (gapsFrom before comments ss).flatMap Stretch.comments =
      comments ++ ss.filter fun s => s.node.kind = .comment := by
  induction ss generalizing before comments with
  | nil => simp [gapsFrom]
  | cons s rest ih =>
    rw [gapsFrom]
    split_ifs with hs
    · rw [ih, List.filter_cons_of_pos (by simpa using hs), List.append_assoc, List.singleton_append]
    · rw [List.flatMap_cons, ih, List.filter_cons_of_neg (by simpa using hs), List.nil_append]

/-- The comments among the children of a root. -/
def Node.commentSites (root : Node) : List Site :=
  (Site.root root).namedChildren.filter fun s => s.node.kind = .comment

/-- The runs of a file hold the comments below the root, each once and in order. -/
theorem flatMap_comments_commentRuns (src : Source) (lines : LineMap) (root : Node) :
    (root.commentRuns src lines).flatMap Stretch.comments = root.commentSites := by
  rw [Node.commentRuns, List.flatMap_assoc]
  simp only [Stretch.flatMap_comments_runs]
  rw [flatMap_comments_gapsFrom, List.nil_append, Node.commentSites]

/-! ## A run stands between its declarations -/

/-- A stretch of the sites `ss`: declarations, with nothing but comments between them. -/
structure Stretch.IsGapOf (gap : Stretch) (ss : List Site) : Prop where
  isInfix : gap.sites <:+: ss
  isComment : ∀ c ∈ gap.comments, c.node.kind = .comment
  before_ne : ∀ d ∈ gap.before, d.node.kind ≠ .comment
  after_ne : ∀ d ∈ gap.after, d.node.kind ≠ .comment

theorem isGapOf_of_mem_gapsFrom {before : Option Site} {comments ss : List Site}
    (hbefore : ∀ d ∈ before, d.node.kind ≠ .comment)
    (hcomments : ∀ c ∈ comments, c.node.kind = .comment) {gap : Stretch}
    (h : gap ∈ gapsFrom before comments ss) : gap.IsGapOf (before.toList ++ comments ++ ss) := by
  induction ss generalizing before comments with
  | nil =>
    rw [gapsFrom, List.mem_singleton] at h
    rw [h]
    exact ⟨List.infix_rfl, hcomments, hbefore, by simp⟩
  | cons s rest ih =>
    rw [gapsFrom] at h
    split_ifs at h with hs
    · have hcomments' : ∀ c ∈ comments ++ [s], c.node.kind = .comment := by
        simpa [or_imp, forall_and, hs] using hcomments
      simpa using ih hbefore hcomments' h
    · rcases List.mem_cons.mp h with rfl | hrest
      · refine ⟨⟨[], rest, by simp [Stretch.sites]⟩, hcomments, hbefore, ?_⟩
        simpa using hs
      · have hgap := ih (by simpa using hs) (by simp) hrest
        exact ⟨hgap.isInfix.trans ⟨before.toList ++ comments, [], by simp⟩, hgap.isComment,
          hgap.before_ne, hgap.after_ne⟩

/-- A run of a file is part of a gap with the same declarations around it. -/
theorem exists_gap_of_mem_commentRuns {src : Source} {lines : LineMap} {root : Node}
    {run : Stretch} (h : run ∈ root.commentRuns src lines) :
    ∃ gap : Stretch, gap.IsGapOf (Site.root root).namedChildren ∧ run.before = gap.before ∧
      run.after = gap.after ∧ ∀ c ∈ run.comments, c ∈ gap.comments := by
  obtain ⟨gap, hgap, hrun⟩ := List.mem_flatMap.mp h
  refine ⟨gap, by simpa using isGapOf_of_mem_gapsFrom (by simp) (by simp) hgap, ?_⟩
  have hincl : ∀ c ∈ run.comments, c ∈ gap.comments := by
    intro c hc
    rw [← gap.flatMap_comments_runs src lines]
    exact List.mem_flatMap.mpr ⟨run, hrun, hc⟩
  rw [Stretch.runs] at hrun
  split at hrun
  · cases hrun
  · obtain ⟨comments, -, rfl⟩ := List.mem_map.mp hrun
    exact ⟨rfl, rfl, hincl⟩

/-- Among the sites `ss` nothing but comments stands between `c` and `d`. -/
def Site.AdjacentIn (ss : List Site) (c d : Site) : Prop :=
  ∃ between : List Site, (∀ t ∈ between, t.node.kind = .comment) ∧
    (d :: between ++ [c] <:+: ss ∨ c :: between ++ [d] <:+: ss)

/-- A comment of a gap is adjacent to the declarations around the gap. -/
theorem Stretch.IsGapOf.adjacent {gap : Stretch} {ss : List Site} (h : gap.IsGapOf ss) {c d : Site}
    (hc : c ∈ gap.comments) (hd : gap.before = some d ∨ gap.after = some d) :
    c.AdjacentIn ss d := by
  obtain ⟨l, r, hsplit⟩ := List.append_of_mem hc
  have hkind := h.isComment
  rw [hsplit] at hkind
  rcases hd with hd | hd
  · refine ⟨l, fun t ht => hkind t (by simp [ht]), .inl (List.IsInfix.trans ?_ h.isInfix)⟩
    exact ⟨[], r ++ gap.after.toList, by simp [Stretch.sites, hd, hsplit]⟩
  · refine ⟨r, fun t ht => hkind t (by simp [ht]), .inr (List.IsInfix.trans ?_ h.isInfix)⟩
    exact ⟨gap.before.toList ++ l, [], by simp [Stretch.sites, hd, hsplit]⟩

end GoMeter
