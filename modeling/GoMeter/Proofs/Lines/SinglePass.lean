import GoMeter.Proofs.Lines.Governing
import Mathlib.Data.List.Induction
import Mathlib.Data.List.Nodup

/-!
# Lines found in a single pass

A line map sorts its points and is asked by bisection. One pass over the points, in the order in which
they were given, finds the same: of the points that are not after the offset it takes each one, unless a
point that it has taken before has a greater offset. So the order of the points matters only among points
with one offset.

* `Restart.scan?`: the pass; `Restart.scannedLine`: the line that is counted from what it ends with.
* `Restart.Settles.snoc`: one step keeps what a pass has found right; `Restart.settles_scan?`: so the
  pass ends with the point that governs the offset.
* `Restart.Reordered`: the same points, those with one offset in the same order.
* `LineMap.governing?_ofList_eq_scan?`, `LineMap.line_ofList_reordered`: bisection finds what the pass
  finds, and finds it again when the points are reordered.
* `line_agrees_with_scan`: the law of the lines of a map.
-/

namespace GoMeter

/-- A point that is after `offset`, or before the one that governs it, changes nothing. -/
theorem Governs.snoc {rs : List Restart} {offset : Int} {q r : Restart} (h : Governs rs offset q)
    (hpassed : r.offset ≤ offset → r.offset < q.offset) : Governs (rs ++ [r]) offset q where
  le := h.le
  greatest := by
    intro p hp hpo
    rcases List.mem_append.mp hp with hp | hp
    · exact h.greatest p hp hpo
    · rw [List.mem_singleton] at hp
      subst hp
      exact Int.le_of_lt (hpassed hpo)
  last := by
    have hne : r.offset ≠ q.offset := by
      intro heq
      have hbefore := hpassed (heq ▸ h.le)
      omega
    simpa [List.filter_append, hne] using h.last

namespace Restart

/-! ## The pass -/

/-- What a pass has found after the point `r`: that point, if it is not after `offset` and no point
with a greater offset was found before. -/
def advance (offset : Int) (found : Option Restart) (r : Restart) : Option Restart :=
  if r.offset ≤ offset ∧ ∀ q ∈ found, q.offset ≤ r.offset then some r else found

/-- The point that one pass over points in any order ends with. -/
def scan? (rs : List Restart) (offset : Int) : Option Restart := rs.foldl (advance offset) none

/-- The line of the position `offset` in row `row`, counted from the point that one pass ends with. -/
def scannedLine (rs : List Restart) (offset row : Int) : Int :=
  match scan? rs offset with
  | none => row + 1
  | some r => r.line + row - r.row

/-- What a pass over `rs` has found is right: nothing if every point is after `offset`, else the point
that governs it. -/
def Settles (rs : List Restart) (offset : Int) : Option Restart → Prop
  | none => ∀ r ∈ rs, offset < r.offset
  | some r => Governs rs offset r

variable {rs rs' : List Restart} {offset : Int} {found : Option Restart} {r : Restart}

namespace Settles

/-- What was found has the offset of every point that is not after `offset`, or a greater one. -/
theorem exists_offset_le (h : Settles rs offset found) (hr : r ∈ rs) (hle : r.offset ≤ offset) :
    ∃ q ∈ found, r.offset ≤ q.offset := by
  cases found with
  | none => exact absurd (h r hr) (Int.not_lt.mpr hle)
  | some q => exact ⟨q, rfl, h.greatest r hr hle⟩

/-- A point that is taken governs the offset. -/
theorem governs_of_taken (h : Settles rs offset found) (hle : r.offset ≤ offset)
    (hlatest : ∀ q ∈ found, q.offset ≤ r.offset) : Governs (rs ++ [r]) offset r where
  le := hle
  greatest := by
    intro p hp hpo
    rcases List.mem_append.mp hp with hp | hp
    · obtain ⟨q, hq, hpq⟩ := h.exists_offset_le hp hpo
      exact Int.le_trans hpq (hlatest q hq)
    · rw [List.mem_singleton] at hp
      subst hp
      exact Int.le_refl _
  last := by simp [List.filter_append]

/-- One step keeps what a pass has found right. -/
theorem snoc (h : Settles rs offset found) (r : Restart) :
    Settles (rs ++ [r]) offset (advance offset found r) := by
  unfold advance
  split_ifs with htaken
  · exact h.governs_of_taken htaken.1 htaken.2
  · cases found with
    | none =>
      intro p hp
      rcases List.mem_append.mp hp with hp | hp
      · exact h p hp
      · rw [List.mem_singleton] at hp
        subst hp
        simpa using htaken
    | some q => exact Governs.snoc h fun hle => by simpa [hle] using htaken

end Settles

/-- The pass ends with the point that governs the offset, or with nothing if there is none. -/
theorem settles_scan? (rs : List Restart) (offset : Int) : Settles rs offset (scan? rs offset) := by
  induction rs using List.reverseRecOn with
  | nil => simp [scan?, Settles]
  | append_singleton rs r ih =>
    rw [scan?, List.foldl_append]
    exact ih.snoc r

/-! ## The order of the points -/

/-- Two lists hold the same points, and points with one offset stand in the same order in both. -/
def Reordered (rs rs' : List Restart) : Prop :=
  ∀ k : Int, (rs.filter fun r => r.offset = k) = rs'.filter fun r => r.offset = k

namespace Reordered

theorem mem_iff (h : Reordered rs rs') : r ∈ rs ↔ r ∈ rs' := by
  have hfilter := congrArg (r ∈ ·) (h r.offset)
  simpa using hfilter

/-- Which point governs an offset does not depend on the order of points with different offsets. -/
theorem governs_iff (h : Reordered rs rs') : Governs rs offset r ↔ Governs rs' offset r := by
  constructor
  · intro hr
    refine ⟨hr.le, fun q hq => hr.greatest q (h.mem_iff.mpr hq), ?_⟩
    rw [← h r.offset]
    exact hr.last
  · intro hr
    refine ⟨hr.le, fun q hq => hr.greatest q (h.mem_iff.mp hq), ?_⟩
    rw [h r.offset]
    exact hr.last

/-- Points with distinct offsets may be permuted. -/
theorem of_perm (hperm : rs.Perm rs') (hdistinct : (rs.map Restart.offset).Nodup) :
    Reordered rs rs' := by
  intro k
  have hordered : ∀ l : List Restart,
      (l.filter fun r => r.offset = k).Pairwise fun a b => a.offset = b.offset := by
    intro l
    refine List.pairwise_of_forall_mem_list fun a ha b hb => ?_
    simp only [List.mem_filter, decide_eq_true_eq] at ha hb
    rw [ha.2, hb.2]
  refine List.Perm.eq_of_pairwise (fun a b ha hb hab _ => ?_) (hordered rs) (hordered rs')
    (hperm.filter _)
  have hb := hperm.mem_iff.mpr (List.mem_filter.mp hb).1
  exact List.inj_on_of_nodup_map hdistinct (List.mem_filter.mp ha).1 hb hab

/-- Two neighbours with different offsets may be swapped. -/
theorem swap {a b : Restart} (hne : a.offset ≠ b.offset) (before after : List Restart) :
    Reordered (before ++ a :: b :: after) (before ++ b :: a :: after) := by
  intro k
  by_cases ha : a.offset = k
  · have hb : b.offset ≠ k := fun hb => hne (ha.trans hb.symm)
    simp [List.filter_append, ha, hb]
  · simp [List.filter_append, List.filter_cons, ha]

end Reordered

end Restart

/-! ## Bisection -/

namespace LineMap

open Restart

variable {rs rs' : List Restart}

/-- Bisection on the map of a list finds what one pass over the list finds. -/
theorem governing?_ofList_eq_scan? (rs : List Restart) (offset : Int) :
    (ofList rs).governing? offset = scan? rs offset := by
  have hsettles := settles_scan? rs offset
  cases hscan : scan? rs offset with
  | none =>
    rw [hscan] at hsettles
    exact governing?_ofList_eq_none_iff.mpr hsettles
  | some r =>
    rw [hscan] at hsettles
    exact governing?_ofList_eq_some_iff.mpr hsettles

theorem line_ofList_eq_scannedLine (rs : List Restart) (offset row : Int) :
    (ofList rs).line offset row = scannedLine rs offset row := by
  rw [line, governing?_ofList_eq_scan?]
  rfl

theorem line_ofList_of_forall_lt {offset : Int} (h : ∀ r ∈ rs, offset < r.offset) (row : Int) :
    (ofList rs).line offset row = row + 1 := by
  rw [line, governing?_ofList_eq_none_iff.mpr h]

theorem line_ofList_of_governs {offset : Int} {d : Restart} (h : Governs rs offset d) (row : Int) :
    (ofList rs).line offset row = d.line + row - d.row := by
  rw [line, governing?_ofList_eq_some_iff.mpr h]

/-- Some point governs every offset that is not before all of them. -/
theorem exists_governs {offset : Int} (h : ∃ r ∈ rs, r.offset ≤ offset) :
    ∃ d, Governs rs offset d := by
  obtain ⟨r, hr, hle⟩ := h
  obtain ⟨d, hd, -⟩ := (settles_scan? rs offset).exists_offset_le hr hle
  have hsettles := settles_scan? rs offset
  rw [hd] at hsettles
  exact ⟨d, hsettles⟩

theorem line_ofList_reordered (h : Reordered rs rs') (offset row : Int) :
    (ofList rs').line offset row = (ofList rs).line offset row := by
  have hgoverning : (ofList rs').governing? offset = (ofList rs).governing? offset := by
    refine Option.ext fun d => ?_
    rw [governing?_ofList_eq_some_iff, governing?_ofList_eq_some_iff, h.governs_iff]
  rw [line, line, hgoverning]

end LineMap

open Restart

/-- The line of a position, found by bisection on the sorted points, is the one that one pass over the
points as they were given finds: the row counted from one if every point is after the offset, else the
line counted from the last of the points with the greatest offset that is not after it. Reordering
points with different offsets changes no line. -/
theorem line_agrees_with_scan (rs : List Restart) (offset row : Int) :
    (LineMap.ofList rs).line offset row = scannedLine rs offset row ∧
      ((∀ r ∈ rs, offset < r.offset) → (LineMap.ofList rs).line offset row = row + 1) ∧
      ((∃ r ∈ rs, r.offset ≤ offset) → ∃ d, Governs rs offset d ∧
        (LineMap.ofList rs).line offset row = d.line + row - d.row) ∧
      (∀ rs', Reordered rs rs' →
        (LineMap.ofList rs').line offset row = (LineMap.ofList rs).line offset row) ∧
      ((rs.map Restart.offset).Nodup → ∀ rs', rs.Perm rs' →
        (LineMap.ofList rs').line offset row = (LineMap.ofList rs).line offset row) := by
  refine ⟨LineMap.line_ofList_eq_scannedLine rs offset row, fun h => ?_, fun h => ?_,
    fun rs' h => LineMap.line_ofList_reordered h offset row, fun hdistinct rs' hperm => ?_⟩
  · exact LineMap.line_ofList_of_forall_lt h row
  · obtain ⟨d, hd⟩ := LineMap.exists_governs h
    exact ⟨d, hd, LineMap.line_ofList_of_governs hd row⟩
  · exact LineMap.line_ofList_reordered (Reordered.of_perm hperm hdistinct) offset row

/-- Points out of order, two of them with one offset. -/
def tiedPoints : List Restart := [⟨30, 4, 1⟩, ⟨20, 3, 7⟩, ⟨5, 1, 100⟩, ⟨20, 2, 50⟩]

/-- A position on the offset that two points share is counted from the one given last, also when a third
point is moved; a position before every point is counted from the start. -/
theorem tiedPoints_scanned :
    (∃ d, Governs tiedPoints 20 d ∧ d.line + 2 - d.row = 50) ∧
      (LineMap.ofList tiedPoints).line 20 2 = 50 ∧
      (LineMap.ofList [⟨20, 3, 7⟩, ⟨30, 4, 1⟩, ⟨5, 1, 100⟩, ⟨20, 2, 50⟩]).line 20 2 = 50 ∧
      (∀ r ∈ tiedPoints, 4 < r.offset) ∧ (LineMap.ofList tiedPoints).line 4 0 = 1 ∧
      (LineMap.ofList [⟨30, 4, 1⟩, ⟨5, 1, 100⟩]).line 29 4 = 103 ∧
      (LineMap.ofList [⟨5, 1, 100⟩, ⟨30, 4, 1⟩]).line 29 4 = 103 := by
  have hbefore : ∀ r ∈ tiedPoints, 4 < r.offset := by decide
  obtain ⟨hline, -, hgoverned, hreordered, -⟩ := line_agrees_with_scan tiedPoints 20 2
  obtain ⟨d, hd, hcounted⟩ := hgoverned ⟨⟨20, 2, 50⟩, by decide, by decide⟩
  have hmoved := hreordered _ (Reordered.swap (by decide) [] _)
  obtain ⟨hspaced, -, -, -, hpermuted⟩ :=
    line_agrees_with_scan [⟨30, 4, 1⟩, ⟨5, 1, 100⟩] 29 4
  exact ⟨⟨d, hd, hcounted.symm.trans hline⟩, hline, hmoved.trans hline, hbefore,
    (line_agrees_with_scan tiedPoints 4 0).2.1 hbefore, hspaced,
    (hpermuted (by decide) _ (.swap _ _ _)).trans hspaced⟩

end GoMeter
