import GoMeter.Proofs.Comments.Partition
import GoMeter.Proofs.Lines.Governing

/-!
# Renumbering keeps comments with their declarations

On the way from a comment to its declaration lines are only compared with lines, so it does not matter
from which number a file is counted. The one fixed line is that of the end of the file, and it must
stay beyond the comments.

* `LineMap.Shifts`: two maps that differ by a number of lines.
* `commentRuns_of_shifts`: the runs of comments do not depend on that number.
* `PlacedGroup.owner?_shift`, `CommentMap.ofRoot_of_shifts`: neither does what a group belongs to.
* `renumbering_keeps_comments`: a file counted from line `n` on.
-/

namespace GoMeter

namespace LineMap

/-- The second map counts `k` lines more than the first, at every position. -/
def Shifts (k : Int) (lines lines' : LineMap) : Prop :=
  ∀ (offset : Nat) (row : Int), lines'.line offset row = lines.line offset row + k

/-- The map of a file whose first line has number `n`. -/
def numberedFrom (n : Int) : LineMap := ofList [⟨0, 0, n⟩]

theorem governing?_empty (offset : Int) : empty.governing? offset = none :=
  (governing?_eq_none_iff (m := empty) List.Pairwise.nil).mpr (by simp [empty])

theorem governing?_numberedFrom (n : Int) (offset : Nat) :
    (numberedFrom n).governing? offset = some ⟨0, 0, n⟩ :=
  governing?_ofList_eq_some_iff.mpr ⟨by simp, by simp, by simp⟩

theorem shifts_numberedFrom (n : Int) : Shifts (n - 1) empty (numberedFrom n) := by
  intro offset row
  simp only [line, governing?_empty, governing?_numberedFrom]
  omega

variable {k : Int} {lines lines' : LineMap} (h : Shifts k lines lines') (src : Source) (c : Node)
include h

theorem Shifts.startLine : lines'.startLine src c = lines.startLine src c + k := h c.start _

theorem Shifts.endLine : lines'.endLine src c = lines.endLine src c + k := h c.stop _

end LineMap

/-- A group `k` lines further down. -/
def CommentGroup.shift (k : Int) (g : CommentGroup) : CommentGroup :=
  ⟨g.startLine + k, g.endLine + k, g.texts⟩

/-- A group `k` lines further down, between the same declarations. -/
def PlacedGroup.shift (k : Int) (p : PlacedGroup) : PlacedGroup :=
  ⟨p.group.shift k, p.before, p.after⟩

/-- A map with the same groups under the same offsets, each `k` lines further down. -/
def CommentMap.shift (k : Int) (m : CommentMap) : CommentMap :=
  m.map fun (start, groups) => (start, groups.map (CommentGroup.shift k))

/-! ## Groups -/

section Groups

variable {k : Int} {lines lines' : LineMap} (h : lines.Shifts k lines') (src : Source)
include h

theorem joinsRun_of_shifts (slack : Int) (run : List Site) (c : Site) :
    joinsRun src lines' slack run c = joinsRun src lines slack run c := by
  unfold joinsRun
  cases run.getLast? with
  | none => rfl
  | some last =>
    simp only [h.startLine, h.endLine, decide_eq_decide]
    omega

theorem runsFrom_of_shifts (slack : Int) (run rest : List Site) :
    runsFrom src lines' slack run rest = runsFrom src lines slack run rest := by
  induction rest generalizing slack run with
  | nil => rfl
  | cons c rest ih => rw [runsFrom, runsFrom, joinsRun_of_shifts h, ih, ih]

namespace Stretch

theorem slack_of_shifts (g : Stretch) (first : Site) :
    g.slack src lines' first = g.slack src lines first := by
  unfold slack
  cases g.before with
  | none => rfl
  | some d => simp only [h.startLine, h.endLine, Int.add_left_inj]

theorem runs_of_shifts (g : Stretch) : g.runs src lines' = g.runs src lines := by
  unfold runs
  cases g.comments with
  | nil => rfl
  | cons c rest => simp only [slack_of_shifts h, runsFrom_of_shifts h]

theorem placed_of_shifts {g : Stretch} (hne : g.comments ≠ []) :
    g.placed src lines' = (g.placed src lines).shift k := by
  obtain ⟨first, last, -, -, hlines⟩ := exists_lines_placed hne
  have hstart : (g.placed src lines').group.startLine =
      (g.placed src lines).group.startLine + k := by
    rw [(hlines src lines').1, (hlines src lines).1, h.startLine]
  have hend : (g.placed src lines').group.endLine = (g.placed src lines).group.endLine + k := by
    rw [(hlines src lines').2, (hlines src lines).2, h.endLine]
  rw [PlacedGroup.shift, CommentGroup.shift, ← hstart, ← hend]
  rfl

end Stretch

/-- The runs of comments do not depend on where counting starts. -/
theorem commentRuns_of_shifts (root : Node) :
    root.commentRuns src lines' = root.commentRuns src lines := by
  unfold Node.commentRuns
  exact List.flatMap_congr fun gap _ => gap.runs_of_shifts h src

theorem commentGroups_of_shifts (root : Node) :
    commentGroups src lines' root = (commentGroups src lines root).map (PlacedGroup.shift k) := by
  rw [commentGroups_eq, commentGroups_eq, commentRuns_of_shifts h, List.map_map]
  refine List.map_congr_left fun run hrun => ?_
  exact run.placed_of_shifts h src ((partedInto_commentRuns src lines root).isGroup run hrun).ne_nil

end Groups

/-- A group ends where a child of the root does. -/
theorem exists_endLine_eq {src : Source} {lines : LineMap} {root : Node} {p : PlacedGroup}
    (hp : p ∈ commentGroups src lines root) :
    ∃ c ∈ root.namedChildren, p.group.endLine = lines.endLine src c := by
  rw [commentGroups_eq] at hp
  obtain ⟨run, hrun, rfl⟩ := List.mem_map.mp hp
  have hne := ((partedInto_commentRuns src lines root).isGroup run hrun).ne_nil
  obtain ⟨first, last, -, hlast, hlines⟩ := Stretch.exists_lines_placed hne
  have hmem := mem_commentSites_of_run hrun (List.mem_of_getLast? hlast)
  refine ⟨last.node, ?_, (hlines src lines).2⟩
  have hnode := List.mem_map_of_mem (f := Site.node) (List.mem_filter.mp hmem).1
  rwa [Site.map_node_namedChildren] at hnode

/-! ## Declarations -/

/-- What a group belongs to does not depend on where counting starts, unless the group gets beyond the
end of the file. -/
theorem PlacedGroup.owner?_shift {k : Int} {lines lines' : LineMap} (h : lines.Shifts k lines')
    (src : Source) {p : PlacedGroup} (hend : p.group.endLine + 1 < endOfFile)
    (hend' : p.group.endLine + k + 1 < endOfFile) :
    (p.shift k).owner? src lines' = p.owner? src lines := by
  have hclaimed : ∀ d, (p.shift k).isClaimed src lines' d = p.isClaimed src lines d := by
    intro d
    rw [Bool.eq_iff_iff, isClaimed_iff, isClaimed_iff]
    simp only [Trails, shift, CommentGroup.shift, h.endLine]
    cases p.after with
    | none =>
      have heof : endOfFile = 2 ^ 30 := rfl
      simp only [Option.map_none, Option.getD_none]
      omega
    | some e =>
      simp only [Option.map_some, Option.getD_some, h.startLine]
      omega
  simp only [owner?, hclaimed]
  rfl

namespace CommentMap

variable (k : Int)

theorem add_shift (m : CommentMap) (start : Nat) (group : CommentGroup) :
    (m.shift k).add start (group.shift k) = (m.add start group).shift k := by
  induction m with
  | nil => rfl
  | cons entry rest ih =>
    obtain ⟨first, groups⟩ := entry
    simp only [shift, List.map_cons, add] at ih ⊢
    split_ifs with hstart
    · simp
    · simp [ih]

theorem groupsAt_shift (m : CommentMap) (start : Nat) :
    (m.shift k).groupsAt start = (m.groupsAt start).map (CommentGroup.shift k) := by
  unfold groupsAt
  induction m with
  | nil => rfl
  | cons entry rest ih =>
    obtain ⟨first, groups⟩ := entry
    simp only [shift, List.map_cons, List.lookup_cons] at ih ⊢
    cases start == first with
    | true => rfl
    | false => exact ih

/-- Whether a declaration is kept from being inlined is a matter of texts. -/
theorem hasNoinline_shift (m : CommentMap) (d : Node) :
    (m.shift k).hasNoinline d = m.hasNoinline d := by
  rw [hasNoinline, groupsAt_shift, List.any_map]
  rfl

variable {k} {lines lines' : LineMap} (h : lines.Shifts k lines') (src : Source)
include h

theorem addPlaced_shift (m : CommentMap) {p : PlacedGroup}
    (hend : p.group.endLine + 1 < endOfFile) (hend' : p.group.endLine + k + 1 < endOfFile) :
    addPlaced src lines' (m.shift k) (p.shift k) = (addPlaced src lines m p).shift k := by
  rw [addPlaced, PlacedGroup.owner?_shift h src hend hend', addPlaced]
  cases p.owner? src lines with
  | none => rfl
  | some owner => exact add_shift k m owner.start p.group

theorem foldl_addPlaced_shift {ps : List PlacedGroup}
    (hends : ∀ p ∈ ps, p.group.endLine + 1 < endOfFile ∧ p.group.endLine + k + 1 < endOfFile)
    (m : CommentMap) : (ps.map (PlacedGroup.shift k)).foldl (addPlaced src lines') (m.shift k) =
      (ps.foldl (addPlaced src lines) m).shift k := by
  induction ps generalizing m with
  | nil => rfl
  | cons p rest ih =>
    rw [List.forall_mem_cons] at hends
    rw [List.map_cons, List.foldl_cons, List.foldl_cons, addPlaced_shift h src m hends.1.1 hends.1.2,
      ih hends.2]

theorem ofRoot_of_shifts {root : Node} (hends : ∀ c ∈ root.namedChildren,
      lines.endLine src c + 1 < endOfFile ∧ lines'.endLine src c + 1 < endOfFile) :
    ofRoot src lines' root = (ofRoot src lines root).shift k := by
  rw [ofRoot_eq, ofRoot_eq, commentGroups_of_shifts h]
  refine foldl_addPlaced_shift h src (fun p hp => ?_) []
  obtain ⟨c, hc, hend⟩ := exists_endLine_eq hp
  rw [hend, ← h.endLine]
  exact hends c hc

end CommentMap

/-- Let the lines of a file be counted from `n` on, where no child of the root ends on line `2 ^ 30 - 1`
or later. Then the comment groups have the texts and stand between the declarations that they have and
stand between in the same file counted from one, the map lists the same groups under the same offsets
in the same order, and the same declarations are kept from being inlined; the lines of each group are
greater by `n - 1`. -/
theorem renumbering_keeps_comments (src : Source) {root : Node} {n : Int} (hn : 1 ≤ n)
    (hends : ∀ c ∈ root.namedChildren, (LineMap.numberedFrom n).endLine src c < 2 ^ 30 - 1) :
    commentGroups src (.numberedFrom n) root =
        (commentGroups src .empty root).map (PlacedGroup.shift (n - 1)) ∧
      CommentMap.ofRoot src (.numberedFrom n) root =
        (CommentMap.ofRoot src .empty root).shift (n - 1) ∧
      ∀ d, (CommentMap.ofRoot src (.numberedFrom n) root).hasNoinline d =
        (CommentMap.ofRoot src .empty root).hasNoinline d := by
  have hshifts := LineMap.shifts_numberedFrom n
  have hmap : CommentMap.ofRoot src (.numberedFrom n) root =
      (CommentMap.ofRoot src .empty root).shift (n - 1) := by
    refine CommentMap.ofRoot_of_shifts hshifts src fun c hc => ?_
    have hend := hends c hc
    have hshift := hshifts.endLine src c
    have heof : endOfFile = 2 ^ 30 := rfl
    omega
  refine ⟨commentGroups_of_shifts hshifts src root, hmap, fun d => ?_⟩
  rw [hmap, CommentMap.hasNoinline_shift]

theorem trailingDirective_renumbered :
    (CommentMap.ofRoot trailingDirectiveSource (.numberedFrom 40) trailingDirective).hasNoinline
      declarationOfF = true := by
  have hends : ∀ c ∈ trailingDirective.namedChildren,
      (LineMap.numberedFrom 40).endLine trailingDirectiveSource c < 2 ^ 30 - 1 := by decide +kernel
  rw [(renumbering_keeps_comments trailingDirectiveSource (by decide) hends).2.2]
  decide +kernel

end GoMeter
