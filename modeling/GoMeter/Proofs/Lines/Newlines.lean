import GoMeter.Proofs.Lines.Governing
import GoMeter.Proofs.Measure
import Mathlib.Algebra.Ring.Int.Defs
import Mathlib.Data.List.TakeWhile

/-!
# Lines are line feeds counted from the governing directive

A point of a file's line map stores the row in which it stands. That row is computed from the end of
the comment, in one way for line comments and in another for block comments; in both it is the number
of line feeds before the point. So the line of a position is the line that the governing directive
names, plus the line feeds since the point where that directive takes effect.

* `Source.newlines`: the line feeds between two offsets.
* `Source.row_eq_row_of_restartPoint?`: the row of a point counts the line feeds before it.
* `Directive.named?_bounds`: a directive names a line between one and the limit.
* `Restart.Sound`, `exists_sound_of_lineMap`: what holds of every point of a file's line map.
* `CountsLines`: the law of lines; `lineMap_counts_newlines`: it holds of every node.
-/

namespace GoMeter

/-! ## Rows -/

namespace Source

variable (src : Source)

/-- The number of line feeds from `a` up to `b`. -/
def newlines (a b : Nat) : Nat := (src.slice a b).count lineFeed

theorem row_eq_newlines (offset : Nat) : src.row offset = src.newlines 0 offset := rfl

theorem newlines_append {a b c : Nat} (hab : a ≤ b) (hbc : b ≤ c) :
    src.newlines a c = src.newlines a b + src.newlines b c := by
  have hslice : src.slice a c = src.slice a b ++ src.slice b c := by
    rw [slice, slice, slice, ← Array.toList_append, Array.extract_append_extract,
      Nat.min_eq_left hab, Nat.max_eq_right hbc]
  rw [newlines, hslice, List.count_append, newlines, newlines]

theorem row_add_newlines {a b : Nat} (h : a ≤ b) : src.row b = src.row a + src.newlines a b := by
  rw [row_eq_newlines, row_eq_newlines, src.newlines_append (Nat.zero_le a) h]

/-- The carriage returns that are skipped hold no line feed. -/
theorem newlines_skipReturns (offset : Nat) :
    src.newlines offset (src.skipReturns offset) = 0 := by
  have hslice : src.slice offset (src.skipReturns offset) =
      (src.slice offset src.size).takeWhile (· == carriageReturn) := by
    have htake := List.takeWhile_prefix (l := src.slice offset src.size) (· == carriageReturn)
    rw [List.prefix_iff_eq_take] at htake
    rw [htake, slice, slice, skipReturns, Array.toList_extract, Array.toList_extract]
    simp only [List.extract_eq_take_drop, List.take_take, Nat.add_sub_cancel_left]
    congr 1
    have hle := (List.takeWhile_sublist (l := src.slice offset src.size)
      (· == carriageReturn)).length_le
    simp only [slice, Array.toList_extract, List.extract_eq_take_drop, List.length_take,
      List.length_drop, Array.length_toList] at hle ⊢
    omega
  rw [newlines, hslice, List.count_eq_zero]
  intro hmem
  have hreturn := List.mem_takeWhile_imp (p := (· == carriageReturn)) hmem
  revert hreturn
  decide

theorem newlines_of_lineFeed {offset : Nat} (h : src.bytes[offset]? = some lineFeed) :
    src.newlines offset (offset + 1) = 1 := by
  obtain ⟨hlt, hbyte⟩ := Array.getElem?_eq_some_iff.mp h
  have hslice : src.slice offset (offset + 1) = [lineFeed] := by
    rw [slice, Array.extract_succ_right (by omega) hlt, hbyte]
    simp
  simp [newlines, hslice]

/-- The row of the point where a comment restarts the numbering counts the line feeds before it. -/
theorem row_eq_row_of_restartPoint? {comment : Node} {offset row : Nat}
    (h : restartPoint? src comment = some (offset, row)) : row = src.row offset := by
  unfold restartPoint? at h
  by_cases hblock : "/*".toList.isPrefixOf (commentText src comment)
  · rw [if_pos hblock] at h
    cases h
    rfl
  · -- The line feed that ends a line comment may follow carriage returns.
    rw [if_neg hblock] at h
    by_cases hfeed : src.bytes[src.skipReturns comment.stop]? = some lineFeed
    · rw [if_pos hfeed] at h
      cases h
      have hle : comment.stop ≤ src.skipReturns comment.stop := Nat.le_add_right _ _
      rw [src.row_add_newlines (Nat.le_succ_of_le hle), src.newlines_append hle (Nat.le_succ _),
        newlines_skipReturns, src.newlines_of_lineFeed hfeed, Nat.zero_add]
    · rw [if_neg hfeed] at h
      cases h

end Source

/-! ## Named lines -/

namespace Directive

theorem checkLine_bounds {n line : Nat} (h : checkLine n = .ok line) : 1 ≤ line ∧ line ≤ limit := by
  unfold checkLine at h
  split_ifs at h with hout
  cases h
  omega

theorem target?_bounds {cs : List Char} {line : Nat} (h : target? cs = .ok (some line)) :
    1 ≤ line ∧ line ≤ limit := by
  unfold target? at h
  split at h
  · cases h
  · next before digits _ =>
    split_ifs at h with hnumber
    obtain ⟨last, -, h⟩ := exists_of_bind_ok h
    obtain ⟨named, -, h⟩ := exists_of_bind_ok h
    cases named with
    | none =>
      obtain ⟨n, hn, heq⟩ := exists_of_map_ok h
      cases heq
      exact checkLine_bounds hn
    | some named =>
      obtain ⟨column, -, h⟩ := exists_of_bind_ok h
      obtain ⟨n, hn, heq⟩ := exists_of_map_ok h
      cases heq
      exact checkLine_bounds hn

/-- A directive names a line between one and the limit. -/
theorem named?_bounds {text : String} {line : Nat} (h : named? text = .ok (some line)) :
    1 ≤ line ∧ line ≤ limit := by
  unfold named? at h
  split_ifs at h with hopened
  · exact target?_bounds h
  · cases h

end Directive

/-! ## The points of a file -/

/-- A point as a directive of `src` may set it: it stands in the row that its offset has, and the line
lies between one and the limit. -/
structure Restart.Sound (src : Source) (r : Restart) : Prop where
  offset_nonneg : 0 ≤ r.offset
  row_eq : r.row = src.row r.offset.toNat
  one_le_line : 1 ≤ r.line
  line_le : r.line ≤ 2 ^ 30

theorem sound_of_restartOf? {src : Source} {comment : Node} {r : Restart}
    (h : restartOf? src comment = .ok (some r)) : r.Sound src := by
  unfold restartOf? at h
  split_ifs at h with heffective
  · split at h
    · cases h
    · cases h
    · next line hnamed =>
      obtain ⟨⟨offset, row⟩, hpoint, rfl⟩ := Option.map_eq_some_iff.mp (Except.ok.inj h)
      obtain ⟨hone, hlimit⟩ := Directive.named?_bounds hnamed
      have hrow := src.row_eq_row_of_restartPoint? hpoint
      have hlow : (1 : Int) ≤ line := by exact_mod_cast hone
      have hhigh : (line : Int) ≤ 2 ^ 30 := by exact_mod_cast hlimit
      exact ⟨Int.natCast_nonneg _, by simp [hrow], hlow, hhigh⟩
  · cases h

theorem sound_of_restartsOf {src : Source} {comments : List Node} {rs : List Restart}
    (h : restartsOf src comments = .ok rs) : ∀ r ∈ rs, r.Sound src := by
  induction comments generalizing rs with
  | nil =>
    cases h
    simp
  | cons c rest ih =>
    rw [restartsOf] at h
    obtain ⟨found, hfound, h⟩ := exists_of_bind_ok h
    obtain ⟨others, hothers, h⟩ := exists_of_bind_ok h
    cases h
    intro r hr
    rcases List.mem_append.mp hr with hr | hr
    · rw [Option.mem_toList.mp hr] at hfound
      exact sound_of_restartOf? hfound
    · exact ih hothers r hr

/-- The line map of a file is the map of the points that its directives set. -/
theorem exists_sound_of_lineMap {src : Source} {root : Node} {m : LineMap}
    (h : lineMap src root = .ok m) : ∃ rs, m = .ofList rs ∧ ∀ r ∈ rs, r.Sound src := by
  unfold lineMap at h
  split_ifs at h with hopened
  · obtain ⟨rs, hrs, rfl⟩ := exists_of_map_ok h
    exact ⟨rs, rfl, sound_of_restartsOf hrs⟩
  · cases h
    exact ⟨[], by simp [LineMap.ofList, LineMap.empty], by simp⟩

/-! ## Lines -/

/-- The law of lines: a position that no directive governs has a line by the line feeds from the start
of the file, any other by those since the point where its directive takes effect. -/
def CountsLines (src : Source) (m : LineMap) (offset : Nat) (line : Int) : Prop :=
  ((∀ d ∈ m.restarts.toList, (offset : Int) < d.offset) ∧ line = 1 + src.newlines 0 offset) ∨
    ∃ d, Governs m.restarts.toList offset d ∧
      line = d.line + src.newlines d.offset.toNat offset

theorem countsLines_line {src : Source} {rs : List Restart} (hrs : ∀ r ∈ rs, r.Sound src)
    (offset : Nat) :
    CountsLines src (.ofList rs) offset ((LineMap.ofList rs).line offset (src.row offset)) := by
  have hsorted := LineMap.sorted_ofList rs
  unfold LineMap.line
  cases hgoverning : (LineMap.ofList rs).governing? offset with
  | none =>
    refine .inl ⟨(LineMap.governing?_eq_none_iff hsorted).mp hgoverning, ?_⟩
    rw [← src.row_eq_newlines]
    exact Int.add_comm _ _
  | some d =>
    have hgoverns := (LineMap.governing?_eq_some_iff hsorted).mp hgoverning
    have hsound := hrs d (LineMap.governing?_ofList_eq_some_iff.mp hgoverning).mem
    have hle : d.offset.toNat ≤ offset := by
      have := hgoverns.le
      omega
    refine .inr ⟨d, hgoverns, ?_⟩
    simp only [hsound.row_eq, src.row_add_newlines hle]
    omega

theorem CountsLines.one_le {src : Source} {rs : List Restart} (hrs : ∀ r ∈ rs, r.Sound src)
    {offset : Nat} {line : Int} (h : CountsLines src (.ofList rs) offset line) : 1 ≤ line := by
  rcases h with ⟨-, rfl⟩ | ⟨d, hd, rfl⟩
  · omega
  · rw [LineMap.toList_restarts_ofList, Restart.governs_sort] at hd
    have := (hrs d hd.mem).one_le_line
    omega

/-- If the directives of a file are well formed, then every point of its line map stands in the row of
its offset and names a line between one and `2 ^ 30`; the lines on which a node starts and ends are
counted from the point that governs there; and no function is reported on a line before the
first. -/
theorem lineMap_counts_newlines {src : Source} {root : Node} {m : LineMap}
    (h : lineMap src root = .ok m) :
    (∀ d ∈ m.restarts.toList, d.Sound src) ∧
      (∀ n : Node, CountsLines src m n.start (m.startLine src n) ∧
        CountsLines src m n.stop (m.endLine src n)) ∧
      (∃ records, measure src root = .ok records ∧ ∀ r ∈ records, 1 ≤ r.line) ∧
      ∀ records, measureTree src root = .ok records → ∀ r ∈ records, 1 ≤ r.line := by
  obtain ⟨rs, rfl, hrs⟩ := exists_sound_of_lineMap h
  have hlines : ∀ records, measure src root = .ok records → ∀ r ∈ records, 1 ≤ r.line := by
    intro records hrecords r hr
    obtain ⟨lines, hagain, rfl⟩ := measure_eq_ok_iff.mp hrecords
    cases h.symm.trans hagain
    obtain ⟨fn, -, rfl⟩ := List.mem_map.mp hr
    exact (countsLines_line hrs fn.start).one_le hrs
  have hmeasure := measure_eq_ok_iff.mpr ⟨_, h, rfl⟩
  refine ⟨fun d hd => ?_, fun n => ⟨countsLines_line hrs n.start, countsLines_line hrs n.stop⟩,
    ⟨_, hmeasure, hlines _ hmeasure⟩, fun records htree => ?_⟩
  · rw [LineMap.toList_restarts_ofList, (List.mergeSort_perm rs _).mem_iff] at hd
    exact hrs d hd
  · obtain ⟨-, -, hrecords⟩ := exists_of_bind_ok htree
    exact hlines records hrecords

/-- A file in which two directives renumber the lines after them; the first ends in a carriage return
and a line feed. -/
def renumberedSource : Source :=
  .ofString "package p\n//line gen.y:100\r\nfunc f() \x7b\x7d\n/*line gen.y:7*/func g() \x7b\x7d\n"

/-- The tree of this file: each function has a directive before it. -/
def renumbered : Node :=
  .branch .sourceFile 0 68 none
    [.branch .packageClause 0 9 none [.branch .packageIdentifier 8 9 none []],
     .branch .comment 10 27 none [],
     .branch .functionDeclaration 28 39 none
      [.branch .identifier 33 34 (some .name) [],
       .branch .parameterList 34 36 (some .parameters) [], .branch .block 37 39 (some .body) []],
     .branch .comment 40 56 none [],
     .branch .functionDeclaration 56 67 none
      [.branch .identifier 61 62 (some .name) [],
       .branch .parameterList 62 64 (some .parameters) [], .branch .block 65 67 (some .body) []]]

theorem renumbered_counts_newlines :
    lineMap renumberedSource renumbered = .ok ⟨#[⟨28, 2, 100⟩, ⟨56, 3, 7⟩]⟩ ∧
      ∃ records, measure renumberedSource renumbered = .ok records ∧ ∀ r ∈ records, 1 ≤ r.line := by
  have h : lineMap renumberedSource renumbered = .ok ⟨#[⟨28, 2, 100⟩, ⟨56, 3, 7⟩]⟩ := by
    have hopened : Directive.openings.any renumberedSource.contains = true := by decide +kernel
    -- The comments are met from the end of the file.
    have hpoints : restartsOf renumberedSource renumbered.comments =
        .ok [⟨56, 3, 7⟩, ⟨28, 2, 100⟩] := by decide +kernel
    rw [lineMap, if_pos hopened, hpoints]
    exact congrArg Except.ok (by simp [LineMap.ofList, List.mergeSort])
  exact ⟨h, (lineMap_counts_newlines h).2.2.1⟩

end GoMeter
