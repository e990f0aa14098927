import GoMeter.Lines.Map
import Mathlib.Data.List.Basic
import Mathlib.Data.List.Perm.Basic

/-!
# The point that governs an offset

A line map is sorted once and then asked by bisection. What it answers can be said of the points in
the order in which they were given: the point that governs an offset has the greatest offset that is
not after it, and of several such points it is the last.

* `Governs`: the point that governs an offset, among points in any order.
* `LineMap.place_spec`: bisection parts a sorted map in two.
* `LineMap.governing?_eq_getLast?`: on a sorted map, bisection finds the last point not after the
  offset.
* `Restart.filter_offset_sort`: sorting keeps points with one offset in order.
* `LineMap.governing?_ofList_eq_some_iff`, `LineMap.governing?_ofList_eq_none_iff`: bisection on the
  map of a list finds the point that governs.
-/

namespace GoMeter

/-- Among the points `rs`, in the order in which they were given, `r` governs `offset`: its offset is
the greatest that is not after `offset`, and it is the last point with that offset. -/
structure Governs (rs : List Restart) (offset : Int) (r : Restart) : Prop where
  le : r.offset ≤ offset
  greatest : ∀ q ∈ rs, q.offset ≤ offset → q.offset ≤ r.offset
  last : (rs.filter fun q => q.offset = r.offset).getLast? = some r

namespace Governs

variable {rs : List Restart} {offset : Int} {q r : Restart}

theorem mem (h : Governs rs offset r) : r ∈ rs :=
  (List.mem_filter.mp (List.mem_of_getLast? h.last)).1

/-- One point governs at most. -/
theorem unique (hq : Governs rs offset q) (hr : Governs rs offset r) : q = r := by
  have hoffset : q.offset = r.offset :=
    Int.le_antisymm (hr.greatest q hq.mem hq.le) (hq.greatest r hr.mem hr.le)
  have hlast := hq.last
  rw [hoffset, hr.last] at hlast
  exact (Option.some.inj hlast).symm

end Governs

/-! ## Sorting -/

namespace Restart

/-- Whether a point is not after another. -/
def notAfter (a b : Restart) : Bool := a.offset ≤ b.offset

theorem notAfter_trans (a b c : Restart) (hab : notAfter a b) (hbc : notAfter b c) :
    notAfter a c := by
  simp only [notAfter, decide_eq_true_eq] at hab hbc ⊢
  omega

theorem notAfter_total (a b : Restart) : notAfter a b || notAfter b a := by
  simp only [notAfter, Bool.or_eq_true, decide_eq_true_eq]
  omega

/-- Points by rising offset. -/
def Sorted (rs : List Restart) : Prop := rs.Pairwise fun a b => a.offset ≤ b.offset

theorem sorted_sort (rs : List Restart) : Sorted (rs.mergeSort notAfter) :=
  (List.pairwise_mergeSort notAfter_trans notAfter_total rs).imp fun h => of_decide_eq_true h

/-- Sorting keeps points with one offset in order. -/
theorem filter_offset_sort (rs : List Restart) (k : Int) :
    ((rs.mergeSort notAfter).filter fun q => q.offset = k) = rs.filter fun q => q.offset = k := by
  have hordered : (rs.filter fun q => q.offset = k).Pairwise fun a b => notAfter a b := by
    refine List.pairwise_of_forall_mem_list fun a ha b hb => ?_
    simp only [List.mem_filter, decide_eq_true_eq] at ha hb
    simp [notAfter, ha.2, hb.2]
  have hsub : (rs.filter fun q => q.offset = k).Sublist (rs.mergeSort notAfter) :=
    List.sublist_mergeSort notAfter_trans notAfter_total hordered List.filter_sublist
  have hsub' := hsub.filter fun q => decide (q.offset = k)
  rw [List.filter_filter] at hsub'
  simp only [Bool.and_self] at hsub'
  exact (hsub'.eq_of_length ((List.mergeSort_perm rs notAfter).filter _).length_eq.symm).symm

/-- Sorting does not change which point governs. -/
theorem governs_sort {rs : List Restart} {offset : Int} {r : Restart} :
    Governs (rs.mergeSort notAfter) offset r ↔ Governs rs offset r := by
  have hmem : ∀ q, q ∈ rs.mergeSort notAfter ↔ q ∈ rs :=
    fun q => (List.mergeSort_perm rs notAfter).mem_iff
  constructor
  · intro h
    refine ⟨h.le, fun q hq => h.greatest q ((hmem q).mpr hq), ?_⟩
    rw [← filter_offset_sort]
    exact h.last
  · intro h
    refine ⟨h.le, fun q hq => h.greatest q ((hmem q).mp hq), ?_⟩
    rw [filter_offset_sort]
    exact h.last

end Restart

/-! ## Bisection -/

namespace LineMap

/-- Bisection parts a sorted map: the points before the place are not after `offset`, those from the
place on are. -/
theorem place_spec {restarts : Array Restart} (hsorted : Restart.Sorted restarts.toList)
    (offset : Int) {lo hi : Nat} (hle : lo ≤ hi) (h : hi ≤ restarts.size)
    (hlow : ∀ j (hj : j < restarts.size), j < lo → restarts[j].offset ≤ offset)
    (hhigh : ∀ j (hj : j < restarts.size), hi ≤ j → offset < restarts[j].offset) :
    place restarts offset lo hi h ≤ restarts.size ∧
      (∀ j (hj : j < restarts.size), j < place restarts offset lo hi h →
        restarts[j].offset ≤ offset) ∧
      (∀ j (hj : j < restarts.size), place restarts offset lo hi h ≤ j →
        offset < restarts[j].offset) := by
  have hmono : ∀ i j (hi : i < restarts.size) (hj : j < restarts.size), i < j →
      restarts[i].offset ≤ restarts[j].offset := by
    intro i j hi hj hij
    have := List.pairwise_iff_getElem.mp hsorted i j (by simpa using hi) (by simpa using hj) hij
    simpa using this
  fun_induction place restarts offset lo hi h with
  | case1 lo hi h hlt hmid hafter ih =>
    refine ih (by omega) hlow fun j hj hij => ?_
    rcases Nat.eq_or_lt_of_le hij with heq | hlt'
    · subst heq
      exact hafter
    · have := hmono _ j hmid hj hlt'
      omega
  | case2 lo hi h hlt hmid hafter ih =>
    refine ih (by omega) (fun j hj hij => ?_) hhigh
    rcases Nat.eq_or_lt_of_le (Nat.le_of_lt_succ hij) with heq | hlt'
    · subst heq
      omega
    · have := hmono j _ hj hmid hlt'
      omega
  | case3 lo hi h hlt =>
    have heq : lo = hi := by omega
    subst heq
    exact ⟨h, hlow, hhigh⟩

/-- On a sorted map, bisection finds the last point that is not after the offset. -/
theorem governing?_eq_getLast? {m : LineMap} (hsorted : Restart.Sorted m.restarts.toList)
    (offset : Int) : m.governing? offset =
      (m.restarts.toList.filter fun r => r.offset ≤ offset).getLast? := by
  obtain ⟨hsize, hbefore, hafter⟩ := place_spec hsorted offset (Nat.zero_le _) (Nat.le_refl _)
    (fun j _ hj => absurd hj (Nat.not_lt_zero j)) fun j hj hle => absurd hj (Nat.not_lt.mpr hle)
  unfold governing?
  generalize place m.restarts offset 0 m.restarts.size (Nat.le_refl _) = k at hsize hbefore hafter
  have hfilter : (m.restarts.toList.filter fun r => r.offset ≤ offset) =
      m.restarts.toList.take k := by
    have htake : ∀ r ∈ m.restarts.toList.take k, r.offset ≤ offset := by
      intro r hr
      obtain ⟨j, hj, rfl⟩ := List.getElem_of_mem hr
      simp only [List.length_take, Array.length_toList] at hj
      simpa using hbefore j (by omega) (by omega)
    have hdrop : ∀ r ∈ m.restarts.toList.drop k, offset < r.offset := by
      intro r hr
      obtain ⟨j, hj, rfl⟩ := List.getElem_of_mem hr
      simp only [List.length_drop, Array.length_toList] at hj
      simpa using hafter (k + j) (by omega) (by omega)
    conv_lhs => rw [← List.take_append_drop k m.restarts.toList]
    rw [List.filter_append, List.filter_eq_self.mpr fun r hr => by simpa using htake r hr,
      List.filter_eq_nil_iff.mpr fun r hr => by simpa using hdrop r hr, List.append_nil]
  rw [hfilter, List.getLast?_take]
  cases k with
  | zero => rfl
  | succ i =>
    have hi : i < m.restarts.toList.length := by rw [Array.length_toList]; omega
    simp [List.getElem?_eq_getElem hi, Array.getElem?_eq_getElem (by simpa using hi)]

/-- On a sorted map, bisection finds the point that governs. -/
theorem governing?_eq_some_iff {m : LineMap} (hsorted : Restart.Sorted m.restarts.toList)
    {offset : Int} {r : Restart} :
    m.governing? offset = some r ↔ Governs m.restarts.toList offset r := by
  have hfound : ∀ q, (m.restarts.toList.filter fun r => r.offset ≤ offset).getLast? = some q →
      Governs m.restarts.toList offset q := by
    intro q hq
    obtain ⟨others, hsplit⟩ := List.getLast?_eq_some_iff.mp hq
    have hle : q.offset ≤ offset := by
      simpa using (List.mem_filter.mp (List.mem_of_getLast? hq)).2
    refine ⟨hle, fun p hp hpo => ?_, ?_⟩
    · have hordered : Restart.Sorted (others ++ [q]) := hsplit ▸ hsorted.filter _
      have hmem : p ∈ others ++ [q] := hsplit ▸ List.mem_filter.mpr ⟨hp, by simpa using hpo⟩
      rcases List.mem_append.mp hmem with hp | hp
      · exact (List.pairwise_append.mp hordered).2.2 p hp q (List.mem_singleton_self q)
      · cases List.mem_singleton.mp hp
        exact Int.le_refl _
    · -- Points with the offset of `q` are not after `offset`, so they are among `others`.
      have hagain : (m.restarts.toList.filter fun p => p.offset = q.offset) =
          (m.restarts.toList.filter fun p => p.offset ≤ offset).filter
            fun p => p.offset = q.offset := by
        rw [List.filter_filter]
        refine List.filter_congr fun p _ => ?_
        by_cases hp : p.offset = q.offset
        · simp [hp, hle]
        · simp [hp]
      rw [hagain, hsplit, List.filter_append]
      simp
  rw [governing?_eq_getLast? hsorted]
  refine ⟨hfound r, fun h => ?_⟩
  cases hlast : (m.restarts.toList.filter fun r => r.offset ≤ offset).getLast? with
  | none =>
    rw [List.getLast?_eq_none_iff, List.filter_eq_nil_iff] at hlast
    exact absurd (decide_eq_true h.le) (hlast r h.mem)
  | some q => rw [(hfound q hlast).unique h]

theorem governing?_eq_none_iff {m : LineMap} (hsorted : Restart.Sorted m.restarts.toList)
    {offset : Int} : m.governing? offset = none ↔ ∀ r ∈ m.restarts.toList, offset < r.offset := by
  rw [governing?_eq_getLast? hsorted, List.getLast?_eq_none_iff, List.filter_eq_nil_iff]
  simp

/-! ## The map of a list -/

theorem toList_restarts_ofList (rs : List Restart) :
    (ofList rs).restarts.toList = rs.mergeSort Restart.notAfter := rfl

theorem sorted_ofList (rs : List Restart) : Restart.Sorted (ofList rs).restarts.toList :=
  Restart.sorted_sort rs

/-- Bisection on the map of a list finds the point that governs. -/
theorem governing?_ofList_eq_some_iff {rs : List Restart} {offset : Int} {r : Restart} :
    (ofList rs).governing? offset = some r ↔ Governs rs offset r := by
  rw [governing?_eq_some_iff (sorted_ofList rs), toList_restarts_ofList, Restart.governs_sort]

theorem governing?_ofList_eq_none_iff {rs : List Restart} {offset : Int} :
    (ofList rs).governing? offset = none ↔ ∀ r ∈ rs, offset < r.offset := by
  rw [governing?_eq_none_iff (sorted_ofList rs), toList_restarts_ofList]
  simp only [(List.mergeSort_perm rs Restart.notAfter).mem_iff]

end LineMap

end GoMeter
