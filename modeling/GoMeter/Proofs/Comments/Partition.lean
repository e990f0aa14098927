import GoMeter.Proofs.Comments.Ownership

/-!
# The comment groups part the comments of a file

What a group is can be said without the pass that forms it: which comments stand together, which
declarations are around them, and when a comment still belongs to the group of the one before it. A
group on the line of the preceding declaration takes comments from the line on which it ends only; any
other group also takes a comment from the next line.

* `Stretch.IsTrailing`, `Stretch.IsGroupOf`: groups among the children of a root.
* `Node.PartedInto`: the groups part the comments of a file.
* `partedInto_commentRuns`: the runs of a file do so.
* `Node.PartedInto.unique`: nothing else does.
* `commentGroups_part_comments`: what this says of the groups that are computed.
-/

namespace GoMeter

/-- The nearest declaration before what follows `ss`. -/
def lastDeclaration? (ss : List Site) : Option Site :=
  (ss.filter fun s => s.node.kind ≠ .comment).getLast?

/-- The nearest declaration after what precedes `ss`. -/
def firstDeclaration? (ss : List Site) : Option Site :=
  (ss.filter fun s => s.node.kind ≠ .comment).head?

section

variable (src : Source) (lines : LineMap) (ss : List Site)

/-- A group is trailing: its first comment stands directly behind a declaration, on the line where that
declaration ends. -/
def Stretch.IsTrailing (g : Stretch) : Prop :=
  ∃ d c, g.before = some d ∧ g.comments.head? = some c ∧ [d, c] <:+: ss ∧
    lines.endLine src d.node = lines.startLine src c.node

open scoped Classical in
/-- A group among the sites `ss`: comments that follow each other, with the nearest declarations before
and after them. The comment after one of the group belongs to it exactly if it starts soon enough. -/
structure Stretch.IsGroupOf (g : Stretch) : Prop where
  ne_nil : g.comments ≠ []
  stands : ∃ l r, ss = l ++ g.comments ++ r ∧ g.before = lastDeclaration? l ∧
    g.after = firstDeclaration? r
  joined_iff : ∀ c ∈ g.comments, ∀ d, [c, d] <:+: ss → d.node.kind = .comment →
    (d ∈ g.comments ↔ lines.startLine src d.node ≤
      lines.endLine src c.node + if g.IsTrailing src lines ss then 0 else 1)

end

/-- Groups that hold the comments below a root, each once and in order. -/
structure Node.PartedInto (src : Source) (lines : LineMap) (root : Node) (groups : List Stretch) :
    Prop where
  comments : groups.flatMap Stretch.comments = root.commentSites
  isGroup : ∀ g ∈ groups, g.IsGroupOf src lines (Site.root root).namedChildren

/-! ## Where gaps and runs stand -/

/-- A gap ends where its declarations are. -/
theorem exists_split_of_mem_gapsFrom {before : Option Site} {comments ss : List Site}
    (read : List Site) (hread : read.getLast? = before) {gap : Stretch}
    (h : gap ∈ gapsFrom before comments ss) :
    ∃ l r, read ++ comments ++ ss = l ++ gap.comments ++ r ∧ l.getLast? = gap.before ∧
      r.head? = gap.after := by
  induction ss generalizing before comments read with
  | nil =>
    rw [gapsFrom, List.mem_singleton] at h
    subst h
    exact ⟨read, [], rfl, hread, rfl⟩
  | cons s rest ih =>
    rw [gapsFrom] at h
    split_ifs at h with hs
    · obtain ⟨l, r, hsplit, hends⟩ := ih read hread h
      exact ⟨l, r, by simpa using hsplit, hends⟩
    · rcases List.mem_cons.mp h with rfl | hrest
      · exact ⟨read, s :: rest, rfl, hread, rfl⟩
      · obtain ⟨l, r, hsplit, hends⟩ := ih (read ++ comments ++ [s]) (by simp) hrest
        exact ⟨l, r, by simpa using hsplit, hends⟩

section Runs

variable (src : Source) (lines : LineMap)

theorem ne_nil_of_mem_runsFrom {slack : Int} {run rest : List Site} (hrun : run ≠ [])
    {cs : List Site} (h : cs ∈ runsFrom src lines slack run rest) : cs ≠ [] := by
  induction rest generalizing slack run with
  | nil =>
    rw [runsFrom, List.mem_singleton] at h
    rwa [h]
  | cons c rest ih =>
    rw [runsFrom] at h
    split_ifs at h with hjoins
    · exact ih (by simp) h
    · rcases List.mem_cons.mp h with rfl | h
      · exact hrun
      · exact ih (by simp) h

/-- The first run takes up what was open. -/
theorem exists_runsFrom_eq_cons (slack : Int) (run rest : List Site) :
    ∃ taken more, runsFrom src lines slack run rest = (run ++ taken) :: more := by
  induction rest generalizing run with
  | nil => exact ⟨[], [], by rw [runsFrom, List.append_nil]⟩
  | cons c rest ih =>
    rw [runsFrom]
    split_ifs with hjoins
    · obtain ⟨taken, more, heq⟩ := ih (run ++ [c])
      exact ⟨c :: taken, more, by rw [heq, List.append_assoc, List.singleton_append]⟩
    · exact ⟨[], _, by rw [List.append_nil]⟩

/-- After a part of the comments has been read, some runs are closed and one is open. The open run has
the slack of the first one only if none is closed. -/
theorem exists_runsFrom_append (slack : Int) (run : List Site) (hrun : run ≠ []) (a : List Site) :
    ∃ closed last, closed.flatten ++ last = run ++ a ∧ last ≠ [] ∧
      ∀ w, runsFrom src lines slack run (a ++ w) =
        closed ++ runsFrom src lines (if closed.flatten = [] then slack else 1) last w := by
  induction a generalizing slack run with
  | nil => exact ⟨[], run, by simp, hrun, fun w => rfl⟩
  | cons c a ih =>
    by_cases hjoins : joinsRun src lines slack run c
    · obtain ⟨closed, last, hflatten, hlast, hruns⟩ := ih slack (run ++ [c]) (by simp)
      refine ⟨closed, last, by simpa using hflatten, hlast, fun w => ?_⟩
      rw [List.cons_append, runsFrom, if_pos hjoins, hruns]
    · obtain ⟨closed, last, hflatten, hlast, hruns⟩ := ih 1 [c] (by simp)
      refine ⟨run :: closed, last, by simp [hflatten], hlast, fun w => ?_⟩
      have hsome : (run :: closed).flatten ≠ [] := by simp [hrun]
      rw [List.cons_append, runsFrom, if_neg hjoins, hruns, if_neg hsome, ite_self]
      rfl

/-- Of two consecutive comments the second is in the run of the first exactly if it starts soon enough
for the slack of that run. -/
theorem exists_run_of_consecutive (slack : Int) {first : Site} {rest u w : List Site} {c d : Site}
    (hcomments : first :: rest = u ++ c :: d :: w) (hnodup : (first :: rest).Nodup) :
    ∃ closed cs more, runsFrom src lines slack [first] rest = closed ++ cs :: more ∧ c ∈ cs ∧
      (d ∈ cs ↔ lines.startLine src d.node ≤
        lines.endLine src c.node + if closed.flatten = [] then slack else 1) := by
  obtain ⟨a, hread, rfl⟩ : ∃ a, [first] ++ a = u ++ [c] ∧ rest = a ++ d :: w := by
    cases u with
    | nil =>
      obtain ⟨rfl, rfl⟩ := List.cons.inj hcomments
      exact ⟨[], rfl, rfl⟩
    | cons e u =>
      obtain ⟨rfl, rfl⟩ := List.cons.inj hcomments
      exact ⟨u ++ [c], by simp, by simp⟩
  obtain ⟨closed, last, hflatten, hlast, hruns⟩ :=
    exists_runsFrom_append src lines slack [first] (by simp) a
  have hlastc : last.getLast? = some c := by
    rw [← List.getLast?_append_of_ne_nil closed.flatten hlast, hflatten, hread]
    simp
  have hcmem : c ∈ last := List.mem_of_getLast? hlastc
  refine ⟨closed, ?_⟩
  generalize (if closed.flatten = [] then slack else 1) = s at hruns ⊢
  have hjoined : joinsRun src lines s last d ↔
      lines.startLine src d.node ≤ lines.endLine src c.node + s := by
    rw [joinsRun, hlastc, decide_eq_true_eq]
  rw [hruns, runsFrom, ← hjoined]
  by_cases hjoins : joinsRun src lines s last d
  · rw [if_pos hjoins]
    obtain ⟨taken, more, hmore⟩ := exists_runsFrom_eq_cons src lines s (last ++ [d]) w
    exact ⟨_, more, by rw [hmore], by simp [hcmem], by simp [hjoins]⟩
  · rw [if_neg hjoins]
    refine ⟨last, _, rfl, hcmem, ?_⟩
    -- What is open has been read before `d`.
    have hd : d ∉ u ++ [c] := by
      rw [hcomments] at hnodup
      intro hmem
      have hdisjoint := (List.nodup_append.mp (List.append_cons .. ▸ hnodup)).2.2
      exact hdisjoint d hmem d List.mem_cons_self rfl
    have hd' : d ∉ last := by
      rw [← hread, ← hflatten] at hd
      exact fun hmem => hd (List.mem_append_right _ hmem)
    simp [hd', hjoins]

end Runs

theorem lastDeclaration?_append {l a : List Site} (ha : ∀ c ∈ a, c.node.kind = .comment)
    (hl : ∀ d ∈ l.getLast?, d.node.kind ≠ .comment) : lastDeclaration? (l ++ a) = l.getLast? := by
  have hnone : a.filter (fun s => s.node.kind ≠ .comment) = [] := by
    rw [List.filter_eq_nil_iff]
    intro c hc
    simp [ha c hc]
  rw [lastDeclaration?, List.filter_append, hnone, List.append_nil]
  rcases List.eq_nil_or_concat l with rfl | ⟨l, d, rfl⟩
  · rfl
  · have hd : d.node.kind ≠ .comment := hl d (by simp)
    simp [hd]

theorem firstDeclaration?_append {r b : List Site} (hb : ∀ c ∈ b, c.node.kind = .comment)
    (hr : ∀ d ∈ r.head?, d.node.kind ≠ .comment) : firstDeclaration? (b ++ r) = r.head? := by
  have hnone : b.filter (fun s => s.node.kind ≠ .comment) = [] := by
    rw [List.filter_eq_nil_iff]
    intro c hc
    simp [hb c hc]
  rw [firstDeclaration?, List.filter_append, hnone, List.nil_append]
  cases r with
  | nil => rfl
  | cons d r =>
    have hd : d.node.kind ≠ .comment := hr d (by simp)
    simp [hd]

/-- A list without repetitions splits in one way at a member. -/
theorem split_unique {l r l' r' : List Site} {c : Site} (hnodup : (l ++ c :: r).Nodup)
    (h : l ++ c :: r = l' ++ c :: r') : l = l' ∧ r = r' := by
  obtain ⟨hnot, -⟩ := List.nodup_cons.mp (List.nodup_middle.mp hnodup)
  rw [List.mem_append, not_or] at hnot
  obtain ⟨hl, -, hr⟩ := (List.append_cons_inj_of_notMem hnot.1 hnot.2).mp h
  exact ⟨hl, hr⟩

/-! ## The runs of a gap are groups -/

/-- A gap among the sites `ss`, with `l` before it and `r` after it. -/
structure Stretch.Fills (gap : Stretch) (ss l r : List Site) : Prop extends gap.IsGapOf ss where
  split : ss = l ++ gap.comments ++ r
  before_eq : l.getLast? = gap.before
  after_eq : r.head? = gap.after

theorem exists_fills_of_mem_gapsFrom {ss : List Site} {gap : Stretch}
    (h : gap ∈ gapsFrom none [] ss) : ∃ l r, gap.Fills ss l r := by
  have hgap : gap.IsGapOf ss := by simpa using isGapOf_of_mem_gapsFrom (by simp) (by simp) h
  obtain ⟨l, r, hsplit, hbefore, hafter⟩ := exists_split_of_mem_gapsFrom [] rfl h
  exact ⟨l, r, hgap, by simpa using hsplit, hbefore, hafter⟩

theorem Stretch.mem_runs {src : Source} {lines : LineMap} {gap run : Stretch} :
    run ∈ gap.runs src lines ↔ ∃ first rest, gap.comments = first :: rest ∧
      ∃ cs ∈ runsFrom src lines (gap.slack src lines first) [first] rest,
        run = { gap with comments := cs } := by
  rw [Stretch.runs]
  cases hcomments : gap.comments with
  | nil => simp
  | cons first rest =>
    rw [List.mem_map]
    constructor
    · rintro ⟨cs, hcs, rfl⟩
      exact ⟨first, rest, rfl, cs, hcs, rfl⟩
    · rintro ⟨_, _, heq, cs, hcs, rfl⟩
      cases heq
      exact ⟨cs, hcs, rfl⟩

theorem Stretch.ne_nil_of_mem_runs {src : Source} {lines : LineMap} {gap run : Stretch}
    (hrun : run ∈ gap.runs src lines) : run.comments ≠ [] := by
  obtain ⟨first, rest, -, cs, hcs, rfl⟩ := Stretch.mem_runs.mp hrun
  exact ne_nil_of_mem_runsFrom src lines (by simp) hcs

namespace Stretch.Fills

variable {src : Source} {lines : LineMap} {ss l r : List Site} {gap run : Stretch}

/-- A run stands in its gap, among comments. -/
theorem stands (h : gap.Fills ss l r) (hrun : run ∈ gap.runs src lines) :
    ∃ l' r', ss = l' ++ run.comments ++ r' ∧ run.before = lastDeclaration? l' ∧
      run.after = firstDeclaration? r' := by
  obtain ⟨xs, ys, hsplit⟩ := List.append_of_mem hrun
  have hcomments := gap.flatMap_comments_runs src lines
  rw [hsplit, List.flatMap_append, List.flatMap_cons] at hcomments
  have hkind := h.isComment
  rw [← hcomments] at hkind
  obtain ⟨first, rest, -, cs, -, rfl⟩ := Stretch.mem_runs.mp hrun
  refine ⟨l ++ xs.flatMap Stretch.comments, ys.flatMap Stretch.comments ++ r, ?_, ?_, ?_⟩
  · rw [h.split, ← hcomments]
    simp only [List.append_assoc]
  · rw [lastDeclaration?_append (fun c hc => hkind c (by simp [hc])) (h.before_eq ▸ h.before_ne),
      h.before_eq]
  · rw [firstDeclaration?_append (fun c hc => hkind c (by simp [hc])) (h.after_eq ▸ h.after_ne),
      h.after_eq]

/-- The comment after a comment of a gap is in the gap. -/
theorem exists_consecutive (h : gap.Fills ss l r) (hnodup : ss.Nodup) {c d : Site}
    (hc : c ∈ gap.comments) (hcd : [c, d] <:+: ss) (hd : d.node.kind = .comment) :
    ∃ u w, gap.comments = u ++ c :: d :: w := by
  obtain ⟨u, v, huv⟩ := List.append_of_mem hc
  obtain ⟨x, y, hxy⟩ := hcd
  have hss : ss = (l ++ u) ++ c :: (v ++ r) := by
    rw [h.split, huv]
    simp
  have hsame : (l ++ u) ++ c :: (v ++ r) = x ++ c :: (d :: y) := by
    rw [← hss, ← hxy]
    simp
  obtain ⟨-, hrest⟩ := split_unique (hss ▸ hnodup) hsame
  cases v with
  | nil =>
    -- Behind the last comment of the gap stands a declaration.
    have hafter : gap.after = some d := by
      rw [← h.after_eq, show r = d :: y from hrest]
      rfl
    exact absurd hd (h.after_ne d hafter)
  | cons e w =>
    obtain ⟨rfl, -⟩ := List.cons.inj hrest
    exact ⟨u, w, huv⟩

/-- Only the first run of a gap can be trailing: a later one stands behind a comment. -/
theorem isTrailing_iff (h : gap.Fills ss l r) (hnodup : ss.Nodup) {p cs q : List Site} {first : Site}
    (hcomments : gap.comments = p ++ cs ++ q) (hfirst : cs.head? = some first) :
    Stretch.IsTrailing src lines ss { gap with comments := cs } ↔
      p = [] ∧ ∃ d, gap.before = some d ∧
        lines.endLine src d.node = lines.startLine src first.node := by
  obtain ⟨tail, rfl⟩ := List.head?_eq_some_iff.mp hfirst
  have hss : ss = (l ++ p) ++ first :: (tail ++ q ++ r) := by
    rw [h.split, hcomments]
    simp
  constructor
  · rintro ⟨d, c, hbefore, hc, ⟨x, y, hxy⟩, hline⟩
    obtain rfl : first = c := Option.some.inj hc
    have hsame : (l ++ p) ++ first :: (tail ++ q ++ r) = (x ++ [d]) ++ first :: y := by
      rw [← hss, ← hxy]
      simp
    obtain ⟨hleft, -⟩ := split_unique (hss ▸ hnodup) hsame
    refine ⟨?_, d, hbefore, hline⟩
    rcases List.eq_nil_or_concat p with hp | ⟨p', e, rfl⟩
    · exact hp
    · -- The comment `e` before `first` would be the declaration `d`.
      have hed : e = d := by
        rw [List.concat_eq_append, ← List.append_assoc] at hleft
        simpa using (List.append_inj' hleft rfl).2
      have he : e.node.kind = .comment := h.isComment e (by rw [hcomments]; simp)
      exact absurd (hed ▸ he) (h.before_ne d hbefore)
  · rintro ⟨rfl, d, hbefore, hline⟩
    obtain ⟨l', rfl⟩ := List.getLast?_eq_some_iff.mp (h.before_eq.trans hbefore)
    refine ⟨d, first, hbefore, rfl, ⟨l', tail ++ q ++ r, ?_⟩, hline⟩
    rw [hss]
    simp

open scoped Classical in
/-- The slack with which a run was formed is that of the group. -/
theorem slack_eq (h : gap.Fills ss l r) (hnodup : ss.Nodup) {p cs q : List Site} {first : Site}
    (hcomments : gap.comments = p ++ cs ++ q) (hfirst : cs.head? = some first) :
    (if p = [] then gap.slack src lines first else 1) =
      if Stretch.IsTrailing src lines ss { gap with comments := cs } then 0 else 1 := by
  simp only [h.isTrailing_iff hnodup hcomments hfirst]
  by_cases hp : p = []
  · rw [if_pos hp, Stretch.slack]
    cases gap.before with
    | none => simp
    | some d => simp [hp]
  · simp [hp]

open scoped Classical in
/-- Of two consecutive comments of a gap the second is in the run of the first exactly if it starts
soon enough for a group like that run. -/
theorem exists_run (src : Source) (lines : LineMap) (h : gap.Fills ss l r) (hnodup : ss.Nodup)
    {u w : List Site} {c d : Site} (hcomments : gap.comments = u ++ c :: d :: w) :
    ∃ run ∈ gap.runs src lines, c ∈ run.comments ∧
      (d ∈ run.comments ↔ lines.startLine src d.node ≤
        lines.endLine src c.node + if run.IsTrailing src lines ss then 0 else 1) := by
  obtain ⟨first, rest, hfirst⟩ : ∃ first rest, gap.comments = first :: rest :=
    List.exists_cons_of_ne_nil (by simp [hcomments])
  have hsub : (first :: rest).Nodup := by
    rw [h.split, hfirst] at hnodup
    exact (List.nodup_append.mp (List.nodup_append.mp hnodup).1).2.1
  obtain ⟨closed, cs, more, hruns, hc, hd⟩ := exists_run_of_consecutive src lines
    (gap.slack src lines first) (hfirst ▸ hcomments) hsub
  have hflatten : gap.comments = closed.flatten ++ cs ++ more.flatten := by
    have := flatten_runsFrom src lines (gap.slack src lines first) [first] rest
    rw [hruns, List.flatten_append, List.flatten_cons] at this
    rw [hfirst, List.append_assoc, this]
    rfl
  obtain ⟨x, tail, rfl⟩ := List.exists_cons_of_ne_nil (List.ne_nil_of_mem hc)
  have hslack : (if closed.flatten = [] then gap.slack src lines first else 1) =
      if Stretch.IsTrailing src lines ss { gap with comments := x :: tail } then 0 else 1 := by
    rw [← h.slack_eq hnodup hflatten rfl]
    by_cases hnone : closed.flatten = []
    · rw [hfirst, hnone] at hflatten
      rw [if_pos hnone, if_pos hnone, (List.cons.inj hflatten).1]
    · rw [if_neg hnone, if_neg hnone]
  rw [hslack] at hd
  have hmem : x :: tail ∈ runsFrom src lines (gap.slack src lines first) [first] rest := by
    rw [hruns]
    simp
  exact ⟨{ gap with comments := x :: tail },
    Stretch.mem_runs.mpr ⟨first, rest, hfirst, _, hmem, rfl⟩, hc, hd⟩

end Stretch.Fills

/-- The runs of a file part its comments into groups. -/
theorem partedInto_commentRuns (src : Source) (lines : LineMap) (root : Node) :
    root.PartedInto src lines (root.commentRuns src lines) := by
  refine ⟨flatMap_comments_commentRuns src lines root, fun run hrun => ?_⟩
  have hnodup := (Site.root root).nodup_namedChildren
  obtain ⟨gap, hgap, hmem⟩ := List.mem_flatMap.mp hrun
  obtain ⟨l, r, hfills⟩ := exists_fills_of_mem_gapsFrom hgap
  refine ⟨Stretch.ne_nil_of_mem_runs hmem, hfills.stands hmem, fun c hc d hcd hd => ?_⟩
  have hin : c ∈ gap.comments := by
    rw [← gap.flatMap_comments_runs src lines]
    exact List.mem_flatMap.mpr ⟨run, hmem, hc⟩
  obtain ⟨u, w, hsplit⟩ := hfills.exists_consecutive hnodup hin hcd hd
  obtain ⟨run', hmem', hc', hiff⟩ := hfills.exists_run src lines hnodup hsplit
  have hrun' : run' ∈ root.commentRuns src lines := List.mem_flatMap.mpr ⟨gap, hgap, hmem'⟩
  rw [run_unique hrun hrun' hc hc']
  exact hiff

/-! ## The rule leaves no choice -/

namespace Stretch.IsGroupOf

variable {src : Source} {lines : LineMap} {ss : List Site} {g g' : Stretch}

/-- Groups with the same first comment stand behind the same sites. -/
theorem exists_common_split (hnodup : ss.Nodup) (h : g.IsGroupOf src lines ss)
    (h' : g'.IsGroupOf src lines ss) (hhead : g.comments.head? = g'.comments.head?) :
    ∃ l r r', ss = l ++ g.comments ++ r ∧ g.comments ++ r = g'.comments ++ r' ∧
      g.before = g'.before ∧ g.after = firstDeclaration? r ∧ g'.after = firstDeclaration? r' := by
  obtain ⟨l, r, hsplit, hbefore, hafter⟩ := h.stands
  obtain ⟨l', r', hsplit', hbefore', hafter'⟩ := h'.stands
  obtain ⟨c, tail, hcs⟩ := List.exists_cons_of_ne_nil h.ne_nil
  obtain ⟨tail', hcs'⟩ : ∃ tail', g'.comments = c :: tail' :=
    List.head?_eq_some_iff.mp (by rw [← hhead, hcs]; rfl)
  have hss : ss = l ++ c :: (tail ++ r) := by
    rw [hsplit, hcs]
    simp
  have hss' : ss = l' ++ c :: (tail' ++ r') := by
    rw [hsplit', hcs']
    simp
  obtain ⟨rfl, hrest⟩ := split_unique (hss ▸ hnodup) (hss.symm.trans hss')
  refine ⟨l, r, r', hsplit, ?_, by rw [hbefore, hbefore'], hafter, hafter'⟩
  rw [hcs, hcs', List.cons_append, List.cons_append, hrest]

/-- A group is not a proper beginning of another: the comment after it would belong to it. -/
theorem not_shorter (hnodup : ss.Nodup) (h : g.IsGroupOf src lines ss)
    (h' : g'.IsGroupOf src lines ss) (hbefore : g.before = g'.before) {e : Site} {more : List Site}
    (he : e.node.kind = .comment) : g'.comments ≠ g.comments ++ e :: more := by
  intro hlonger
  obtain ⟨c, tail, hcs⟩ := List.exists_cons_of_ne_nil h.ne_nil
  have htrailing : g.IsTrailing src lines ss ↔ g'.IsTrailing src lines ss := by
    rw [IsTrailing, IsTrailing, hbefore, hlonger, hcs]
    rfl
  obtain ⟨others, b, hlast⟩ := List.eq_nil_or_concat g.comments |>.resolve_left h.ne_nil
  have hb : b ∈ g.comments := by rw [hlast]; simp
  obtain ⟨l, r, hsplit, -⟩ := h'.stands
  have hss : ss = (l ++ others) ++ [b, e] ++ (more ++ r) := by
    rw [hsplit, hlonger, hlast]
    simp
  have hadjacent : [b, e] <:+: ss := ⟨l ++ others, more ++ r, hss.symm⟩
  have hmem : e ∈ g.comments := by
    rw [h.joined_iff b hb e hadjacent he, htrailing,
      ← h'.joined_iff b (by rw [hlonger]; simp [hb]) e hadjacent he, hlonger]
    simp
  -- So `e` would stand at two places.
  rw [hsplit, hlonger] at hnodup
  obtain ⟨-, hcomments, -⟩ := List.nodup_append.mp (List.nodup_append.mp hnodup).1
  exact (List.nodup_append.mp hcomments).2.2 e hmem e List.mem_cons_self rfl

/-- The first comment determines a group. -/
theorem eq_of_head (hnodup : ss.Nodup) (h : g.IsGroupOf src lines ss)
    (h' : g'.IsGroupOf src lines ss) (hkind : ∀ c ∈ g.comments, c.node.kind = .comment)
    (hkind' : ∀ c ∈ g'.comments, c.node.kind = .comment)
    (hhead : g.comments.head? = g'.comments.head?) : g = g' := by
  obtain ⟨l, r, r', -, hrest, hbefore, hafter, hafter'⟩ := exists_common_split hnodup h h' hhead
  have hsame : g.comments = g'.comments ∧ r = r' := by
    rcases List.append_eq_append_iff.mp hrest with ⟨as, hlonger, hr⟩ | ⟨as, hlonger, hr⟩
    · cases as with
      | nil => exact ⟨by simpa using hlonger.symm, hr⟩
      | cons e more =>
        exact absurd hlonger (not_shorter hnodup h h' hbefore (hkind' e (by simp [hlonger])))
    · cases as with
      | nil => exact ⟨by simpa using hlonger, hr.symm⟩
      | cons e more =>
        exact absurd hlonger (not_shorter hnodup h' h hbefore.symm (hkind e (by simp [hlonger])))
  have hafters : g.after = g'.after := by rw [hafter, hafter', hsame.2]
  cases g
  cases g'
  simp only [Stretch.mk.injEq]
  exact ⟨hbefore, hsame.1, hafters⟩

/-- Groups that hold the same comments in the same order are the same groups. -/
theorem eq_of_flatMap (hnodup : ss.Nodup) {gs gs' : List Stretch}
    (hgs : ∀ g ∈ gs, g.IsGroupOf src lines ss) (hgs' : ∀ g ∈ gs', g.IsGroupOf src lines ss)
    (hkind : ∀ c ∈ gs.flatMap Stretch.comments, c.node.kind = .comment)
    (h : gs.flatMap Stretch.comments = gs'.flatMap Stretch.comments) : gs = gs' := by
  induction gs generalizing gs' with
  | nil =>
    cases gs' with
    | nil => rfl
    | cons g' rest' =>
      have hnil := (List.append_eq_nil_iff.mp h.symm).1
      exact absurd hnil (hgs' g' List.mem_cons_self).ne_nil
  | cons g rest ih =>
    have hg := hgs g List.mem_cons_self
    cases gs' with
    | nil => exact absurd (List.append_eq_nil_iff.mp h).1 hg.ne_nil
    | cons g' rest' =>
      have hg' := hgs' g' List.mem_cons_self
      have hkind' := h ▸ hkind
      rw [List.flatMap_cons] at hkind hkind'
      rw [List.flatMap_cons, List.flatMap_cons] at h
      have hhead : g.comments.head? = g'.comments.head? := by
        rw [← List.head?_append_of_ne_nil _ hg.ne_nil, h, List.head?_append_of_ne_nil _ hg'.ne_nil]
      obtain rfl := eq_of_head hnodup hg hg' (fun c hc => hkind c (List.mem_append_left _ hc))
        (fun c hc => hkind' c (List.mem_append_left _ hc)) hhead
      rw [ih (fun x hx => hgs x (List.mem_cons_of_mem _ hx))
        (fun x hx => hgs' x (List.mem_cons_of_mem _ hx))
        (fun c hc => hkind c (List.mem_append_right _ hc)) (List.append_cancel_left h)]

end Stretch.IsGroupOf

/-- A file is parted into groups in one way. -/
theorem Node.PartedInto.unique {src : Source} {lines : LineMap} {root : Node}
    {groups groups' : List Stretch} (h : root.PartedInto src lines groups)
    (h' : root.PartedInto src lines groups') : groups = groups' := by
  refine Stretch.IsGroupOf.eq_of_flatMap (Site.root root).nodup_namedChildren h.isGroup h'.isGroup ?_
    (h.comments.trans h'.comments.symm)
  rw [h.comments]
  intro c hc
  exact of_decide_eq_true (List.mem_filter.mp hc).2

/-- A group has the lines of its first and its last comment. -/
theorem Stretch.exists_lines_placed {g : Stretch} (hne : g.comments ≠ []) :
    ∃ first last, g.comments.head? = some first ∧ g.comments.getLast? = some last ∧
      ∀ (src : Source) (lines : LineMap),
        (g.placed src lines).group.startLine = lines.startLine src first.node ∧
        (g.placed src lines).group.endLine = lines.endLine src last.node := by
  obtain ⟨first, tail, hfirst⟩ := List.exists_cons_of_ne_nil hne
  obtain ⟨others, last, hlast⟩ := (List.eq_nil_or_concat g.comments).resolve_left hne
  refine ⟨first, last, by rw [hfirst]; rfl, by rw [hlast]; simp, fun src lines => ⟨?_, ?_⟩⟩
  · simp [placed, Grouping.groupOf, hfirst]
  · simp [placed, Grouping.groupOf, hlast]

/-- The comment groups of a file part its comments, and the rule by which they do leaves no choice.
Each group has the lines of its first and its last comment, stands between the nearest declarations,
and takes the comment after one of its own exactly if that starts on the line where the other ends
or, for a group that is not trailing, on the next. The texts of the groups are those of the comments,
each once and in order. -/
theorem commentGroups_part_comments (src : Source) (lines : LineMap) (root : Node) :
    ∃ groups : List Stretch, root.PartedInto src lines groups ∧
      (∀ groups', root.PartedInto src lines groups' → groups' = groups) ∧
      commentGroups src lines root = groups.map (Stretch.placed src lines) ∧
      (∀ g ∈ groups, ∃ first last, g.comments.head? = some first ∧
        g.comments.getLast? = some last ∧
        (g.placed src lines).group.startLine = lines.startLine src first.node ∧
        (g.placed src lines).group.endLine = lines.endLine src last.node) ∧
      ((commentGroups src lines root).flatMap fun p => p.group.texts) =
        (root.namedChildren.filter fun n => n.kind = .comment).map fun n => n.text src := by
  have hparted := partedInto_commentRuns src lines root
  refine ⟨root.commentRuns src lines, hparted, fun groups' h' => h'.unique hparted,
    commentGroups_eq src lines root, fun g hg => ?_, ?_⟩
  · obtain ⟨first, last, hfirst, hlast, hlines⟩ :=
      Stretch.exists_lines_placed (hparted.isGroup g hg).ne_nil
    exact ⟨first, last, hfirst, hlast, hlines src lines⟩
  · have hcomments : root.commentSites.map Site.node =
        root.namedChildren.filter fun n => n.kind = .comment := by
      rw [Node.commentSites, Site.map_node_filter fun n => n.kind = .comment,
        Site.map_node_namedChildren]
      rfl
    rw [commentGroups_eq, List.flatMap_map, ← hcomments, ← hparted.comments, List.map_flatMap,
      List.map_flatMap]
    refine List.flatMap_congr fun g _ => ?_
    simp [Stretch.placed, Grouping.groupOf]

end GoMeter
