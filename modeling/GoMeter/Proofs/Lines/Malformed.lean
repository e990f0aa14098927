import GoMeter.Proofs.Lines.Grammar
import GoMeter.Proofs.Lines.Newlines
import GoMeter.Proofs.Syntax.Nested
import GoMeter.Proofs.Text.Utf8
import Mathlib.Data.List.DropRight
import Mathlib.Data.List.Pairwise

/-!
# Malformed line directives

A file is refused for a malformed line directive in effective position. A source in which no
directive is opened is not scanned at all; the scan would find nothing in it. The scan meets the
comments of a file from its end, so of several malformed directives the last one is reported.

* `Node.commentsWithin`: the comments that the scan meets, in document order; `Node.comments_eq`
  says that it meets them in the opposite order, `Node.mem_commentsWithin` which they are.
* `Node.Nested.pairwise_commentsWithin`: if children lie inside their parent, one after the other, then
  so do the comments.
* `lineMap_eq_scan`: the scan of every comment gives the line map, whether or not the source opens a
  directive.
* `lineMap_eq_error_iff`: the refusal is that of the last malformed directive.
* `lineMap_refuses_malformed`, `lineMap_reports_last_malformed`: when a file is refused, and on
  which line.
-/

namespace GoMeter

/-! ## The comments of a file -/

namespace Node

/-- A node is reached from another through named nodes; a comment is not entered. -/
inductive Reaches : Node → Node → Prop where
  | here (n : Node) : Reaches n n
  | through {n c m : Node} (hentered : n.kind ≠ .comment) (hchild : c ∈ n.namedChildren)
      (hrest : Reaches c m) : Reaches n m

mutual

/-- The comments of a tree in document order. -/
def commentsWithin : Node → List Node
  | .mk label below =>
    if label.kind = .comment then [.mk label below] else commentsAmong below

/-- The comments of the named trees of a list. -/
def commentsAmong : List Node → List Node
  | [] => []
  | n :: rest => if n.isNamed then commentsWithin n ++ commentsAmong rest else commentsAmong rest

end

theorem commentsAmong_eq (ns : List Node) :
    commentsAmong ns = (ns.filter isNamed).flatMap commentsWithin := by
  induction ns with
  | nil => rfl
  | cons n rest ih => by_cases hn : n.isNamed <;> simp [commentsAmong, hn, ih]

theorem commentsWithin_eq (n : Node) :
    n.commentsWithin =
      if n.kind = .comment then [n] else n.namedChildren.flatMap commentsWithin := by
  cases n with
  | mk label below =>
    rw [commentsWithin, commentsAmong_eq]
    rfl

theorem commentsFromEnd_eq (pending : List Node) :
    commentsFromEnd pending = pending.flatMap fun n => n.commentsWithin.reverse := by
  fun_induction commentsFromEnd pending with
  | case1 => rfl
  | case2 n pending hcomment ih =>
    rw [ih, List.flatMap_cons, commentsWithin_eq n, if_pos hcomment]
    rfl
  | case3 n pending hentered ih =>
    rw [ih, List.flatMap_append, List.flatMap_cons, commentsWithin_eq n, if_neg hentered,
      List.reverse_flatMap]
    rfl

/-- The scan meets the comments of a file from its end. -/
theorem comments_eq (root : Node) : root.comments = root.commentsWithin.reverse := by
  rw [comments, commentsFromEnd_eq]
  simp

/-- The scan meets the comments that are reached from the root. -/
theorem mem_commentsWithin {n c : Node} :
    c ∈ n.commentsWithin ↔ n.Reaches c ∧ c.kind = .comment := by
  constructor
  · intro hc
    induction h : n.size using Nat.strongRecOn generalizing n with
    | ind size ih =>
      subst h
      rw [commentsWithin_eq] at hc
      split_ifs at hc with hcomment
      · rw [List.mem_singleton] at hc
        subst hc
        exact ⟨.here c, hcomment⟩
      · obtain ⟨child, hchild, hc⟩ := List.mem_flatMap.mp hc
        have hsmaller : child.size < n.size :=
          Nat.lt_of_le_of_lt (size_le_of_mem hchild) (sizes_namedChildren_lt n)
        obtain ⟨hreaches, hkind⟩ := ih _ hsmaller hc rfl
        exact ⟨.through hcomment hchild hreaches, hkind⟩
  · rintro ⟨hreaches, hkind⟩
    induction hreaches with
    | here n => simp [commentsWithin_eq, hkind]
    | through hentered hchild _ ih =>
      rw [commentsWithin_eq, if_neg hentered]
      exact List.mem_flatMap.mpr ⟨_, hchild, ih hkind⟩

/-! ## Nested trees -/

namespace Nested

variable {root : Node} {apart : Node → Node → Prop}

theorem inside_of_mem_commentsWithin (h : root.Nested apart) :
    ∀ c ∈ root.commentsWithin, root.start ≤ c.start ∧ c.stop ≤ root.stop := by
  induction h with
  | @mk label below inside _ _ ih =>
    intro c hc
    rw [commentsWithin_eq] at hc
    split_ifs at hc with hcomment
    · rw [List.mem_singleton] at hc
      subst hc
      exact ⟨Nat.le_refl _, Nat.le_refl _⟩
    · obtain ⟨child, hchild, hc⟩ := List.mem_flatMap.mp hc
      have hbelow : child ∈ below := (List.mem_filter.mp hchild).1
      obtain ⟨hstart, hstop⟩ := inside child hbelow
      obtain ⟨hstart', hstop'⟩ := ih child hbelow c hc
      exact ⟨hstart.trans hstart', hstop'.trans hstop⟩

/-- If siblings do not overlap, the comments follow one another without overlap. -/
theorem pairwise_commentsWithin (h : root.Nested EndsFirst) :
    root.commentsWithin.Pairwise fun a b => a.stop ≤ b.start := by
  induction h with
  | @mk label below _ siblings nested ih =>
    rw [commentsWithin_eq]
    split_ifs with hcomment
    · exact List.pairwise_singleton _ _
    · rw [List.pairwise_flatMap]
      refine ⟨fun child hchild => ih child (List.mem_filter.mp hchild).1, ?_⟩
      refine (siblings.filter isNamed).imp_of_mem fun {a b} ha hb hab x hx y hy => ?_
      have hstop := ((nested a (List.mem_filter.mp ha).1).inside_of_mem_commentsWithin x hx).2
      have hstart := ((nested b (List.mem_filter.mp hb).1).inside_of_mem_commentsWithin y hy).1
      exact hstop.trans (hab.trans hstart)

end Nested

end Node

/-! ## What the scan refuses -/

/-- A comment stands where a line directive counts: without the carriage returns it ends in, it
starts with `//` and stands at the start of a line, or it does not start with `//` and ends with
`*/`. -/
def InEffect (src : Source) (c : Node) : Prop :=
  ("//".toList <+: commentText src c ∧ src.column c.start = 0) ∨
    (¬ "//".toList <+: commentText src c ∧ "*/".toList <:+ commentText src c)

theorem isEffective_iff {src : Source} {c : Node} : isEffective src c = true ↔ InEffect src c := by
  simp only [isEffective, InEffect]
  split_ifs with hline
  · rw [List.isPrefixOf_iff_prefix] at hline
    simp only [hline, beq_iff_eq, true_and, not_true_eq_false, false_and, or_false]
  · rw [List.isPrefixOf_iff_prefix] at hline
    simp only [hline, List.isSuffixOf_iff_suffix, false_and, not_false_eq_true, true_and, false_or]

/-- A comment that the scan of a file meets is a malformed directive in effective position. -/
structure Malformed (src : Source) (root c : Node) (fault : Directive.Fault) : Prop where
  reached : root.Reaches c
  isComment : c.kind = .comment
  inEffect : InEffect src c
  named_eq : Directive.named? (String.ofList (commentText src c)) = .error fault

variable {src : Source} {root : Node}

theorem restartOf?_eq_error_iff {c : Node} {r : Refusal} :
    restartOf? src c = .error r ↔ InEffect src c ∧
      ∃ fault, Directive.named? (String.ofList (commentText src c)) = .error fault ∧
        r = ⟨c.physicalLine src, .directive fault⟩ := by
  rw [← isEffective_iff]
  unfold restartOf?
  split_ifs with heffective
  · cases Directive.named? (String.ofList (commentText src c)) with
    | error fault => simp [heffective, eq_comm]
    | ok line? => cases line? <;> simp
  · simp [heffective]

theorem restartsOf_cons_of_error {c : Node} {cs : List Node} {r : Refusal}
    (h : restartOf? src c = .error r) : restartsOf src (c :: cs) = .error r := by
  rw [restartsOf, h]
  rfl

theorem restartsOf_cons_eq_error_iff {c : Node} {cs : List Node} {found : Option Restart}
    {r : Refusal} (h : restartOf? src c = .ok found) :
    restartsOf src (c :: cs) = .error r ↔ restartsOf src cs = .error r := by
  rw [restartsOf, h]
  cases restartsOf src cs <;> simp [bind, Except.bind, pure, Except.pure]

/-- A list of comments is refused for the first that is malformed. -/
theorem restartsOf_eq_error_iff {cs : List Node} {r : Refusal} :
    restartsOf src cs = .error r ↔ ∃ before c after, cs = before ++ c :: after ∧
      restartOf? src c = .error r ∧ ∀ b ∈ before, ∀ e, restartOf? src b ≠ .error e := by
  induction cs with
  | nil => simp [restartsOf]
  | cons a rest ih =>
    cases ha : restartOf? src a with
    | error e =>
      rw [restartsOf_cons_of_error ha]
      constructor
      · intro h
        cases h
        exact ⟨[], a, rest, rfl, ha, by simp⟩
      · rintro ⟨before, c, after, hsplit, hc, hbefore⟩
        cases before with
        | nil =>
          cases hsplit
          rw [ha] at hc
          cases hc
          rfl
        | cons b before =>
          cases hsplit
          exact absurd ha (hbefore a List.mem_cons_self e)
    | ok found =>
      rw [restartsOf_cons_eq_error_iff ha, ih]
      constructor
      · rintro ⟨before, c, after, rfl, hc, hbefore⟩
        exact ⟨a :: before, c, after, rfl, hc, List.forall_mem_cons.mpr ⟨by simp [ha], hbefore⟩⟩
      · rintro ⟨before, c, after, hsplit, hc, hbefore⟩
        cases before with
        | nil =>
          cases hsplit
          rw [ha] at hc
          cases hc
        | cons b before =>
          cases hsplit
          exact ⟨before, c, after, rfl, hc, (List.forall_mem_cons.mp hbefore).2⟩

/-- If a list of comments is not refused, none of them is malformed. -/
theorem restartOf?_ne_error_of_restartsOf {cs : List Node} {rs : List Restart}
    (h : restartsOf src cs = .ok rs) : ∀ c ∈ cs, ∀ r, restartOf? src c ≠ .error r := by
  induction cs generalizing rs with
  | nil => simp
  | cons a rest ih =>
    rw [restartsOf] at h
    obtain ⟨found, ha, h⟩ := exists_of_bind_ok h
    obtain ⟨others, hrest, -⟩ := exists_of_bind_ok h
    exact List.forall_mem_cons.mpr ⟨by simp [ha], ih hrest⟩

/-- Comments that add nothing to the line map, one after the other. -/
theorem restartsOf_eq_nil {cs : List Node} (h : ∀ c ∈ cs, restartOf? src c = .ok none) :
    restartsOf src cs = .ok [] := by
  induction cs with
  | nil => rfl
  | cons c rest ih =>
    rw [restartsOf, h c List.mem_cons_self, ih fun d hd => h d (List.mem_cons_of_mem c hd)]
    rfl

/-! ## Sources that open no directive -/

theorem commentText_isPrefix (src : Source) (c : Node) :
    commentText src c <+: (c.text src).toList :=
  List.rdropWhile_prefix _ _

theorem ascii_of_mem_openings {opening : String} (h : opening ∈ Directive.openings) :
    ∀ c ∈ opening.toList, c.toNat < 0x80 := by
  have hall : (Directive.openings.all fun o => o.toList.all fun c => c.toNat < 0x80) = true := rfl
  intro c hc
  exact of_decide_eq_true (List.all_eq_true.mp (List.all_eq_true.mp hall opening h) c hc)

/-- A comment that opens a directive shows it in the bytes of the source. -/
theorem contains_of_opens {c : Node} {target : List Char}
    (h : Directive.Opens (commentText src c) target) :
    Directive.openings.any src.contains = true := by
  have hopened := Directive.isOpened_iff.mpr ⟨target, h⟩
  obtain ⟨opening, hmem, hopening⟩ := List.any_eq_true.mp hopened
  refine List.any_eq_true.mpr ⟨opening, hmem, ?_⟩
  exact src.contains_of_prefix_text (ascii_of_mem_openings hmem)
    ((List.isPrefixOf_iff_prefix.mp hopening).trans (commentText_isPrefix src c))

theorem restartOf?_of_not_contains (h : Directive.openings.any src.contains ≠ true) (c : Node) :
    restartOf? src c = .ok none := by
  have hnot : ¬ ∃ target, Directive.Opens (String.ofList (commentText src c)).toList target := by
    rintro ⟨target, hopens⟩
    rw [String.toList_ofList] at hopens
    exact h (contains_of_opens hopens)
  rw [restartOf?, Directive.named?_of_not_opens hnot]
  split_ifs <;> rfl

theorem restartsOf_of_not_contains (h : Directive.openings.any src.contains ≠ true)
    (cs : List Node) : restartsOf src cs = .ok [] :=
  restartsOf_eq_nil fun c _ => restartOf?_of_not_contains h c

/-- The scan of every comment gives the line map, whether or not the source opens a directive. -/
theorem lineMap_eq_scan (src : Source) (root : Node) :
    lineMap src root = LineMap.ofList <$> restartsOf src root.comments := by
  unfold lineMap
  split_ifs with hcontains
  · rfl
  · rw [restartsOf_of_not_contains hcontains]
    simp [LineMap.ofList, LineMap.empty]

/-! ## Refused files -/

/-- The refusal of a file is that of its last malformed directive. -/
theorem lineMap_eq_error_iff {r : Refusal} :
    lineMap src root = .error r ↔ ∃ before c after, root.commentsWithin = before ++ c :: after ∧
      restartOf? src c = .error r ∧ ∀ d ∈ after, ∀ e, restartOf? src d ≠ .error e := by
  have hmap : lineMap src root = .error r ↔ restartsOf src root.comments = .error r := by
    rw [lineMap_eq_scan]
    cases restartsOf src root.comments <;> simp
  rw [hmap, root.comments_eq, restartsOf_eq_error_iff]
  constructor
  · rintro ⟨after, c, before, hsplit, hc, hafter⟩
    refine ⟨before.reverse, c, after.reverse, ?_, hc, fun d hd => hafter d (List.mem_reverse.mp hd)⟩
    rw [← List.reverse_reverse root.commentsWithin, hsplit]
    simp
  · rintro ⟨before, c, after, hsplit, hc, hafter⟩
    refine ⟨after.reverse, c, before.reverse, ?_, hc, fun d hd => hafter d (List.mem_reverse.mp hd)⟩
    rw [hsplit]
    simp

theorem restartOf?_eq_error_iff_malformed {c : Node} {r : Refusal} (hc : c ∈ root.commentsWithin) :
    restartOf? src c = .error r ↔
      ∃ fault, Malformed src root c fault ∧ r = ⟨c.physicalLine src, .directive fault⟩ := by
  obtain ⟨hreached, hkind⟩ := Node.mem_commentsWithin.mp hc
  rw [restartOf?_eq_error_iff]
  constructor
  · rintro ⟨heffect, fault, hfault, hr⟩
    exact ⟨fault, ⟨hreached, hkind, heffect, hfault⟩, hr⟩
  · rintro ⟨fault, hmalformed, hr⟩
    exact ⟨hmalformed.inEffect, fault, hmalformed.named_eq, hr⟩

theorem Malformed.mem_commentsWithin {c : Node} {fault : Directive.Fault}
    (h : Malformed src root c fault) : c ∈ root.commentsWithin :=
  Node.mem_commentsWithin.mpr ⟨h.reached, h.isComment⟩

theorem Malformed.restartOf?_eq {c : Node} {fault : Directive.Fault}
    (h : Malformed src root c fault) :
    restartOf? src c = .error ⟨c.physicalLine src, .directive fault⟩ :=
  (restartOf?_eq_error_iff_malformed h.mem_commentsWithin).mpr ⟨fault, h, rfl⟩

/-- A file with a malformed directive is refused. -/
theorem Malformed.exists_refusal {c : Node} {fault : Directive.Fault}
    (h : Malformed src root c fault) : ∃ r, lineMap src root = .error r := by
  rw [lineMap_eq_scan]
  cases hscan : restartsOf src root.comments with
  | error r => exact ⟨r, rfl⟩
  | ok rs =>
    have hmem : c ∈ root.comments := by
      rw [root.comments_eq]
      exact List.mem_reverse.mpr h.mem_commentsWithin
    exact absurd h.restartOf?_eq (restartOf?_ne_error_of_restartsOf hscan c hmem _)

/-- The line map of a file is what the scan of all its comments gives, also where the source is not
scanned because no directive is opened in its bytes. A file is refused if some comment of it is a
malformed directive in effective position, in no other case, and on the physical line of such a
comment. -/
theorem lineMap_refuses_malformed (src : Source) (root : Node) :
    (lineMap src root = LineMap.ofList <$> restartsOf src root.comments ∧
      ∀ c, c ∈ root.comments ↔ root.Reaches c ∧ c.kind = .comment) ∧
    ((∃ r, lineMap src root = .error r) ↔ ∃ c fault, Malformed src root c fault) ∧
    ∀ r, lineMap src root = .error r →
      ∃ c fault, Malformed src root c fault ∧ r = ⟨c.physicalLine src, .directive fault⟩ := by
  have hrefused : ∀ r, lineMap src root = .error r →
      ∃ c fault, Malformed src root c fault ∧ r = ⟨c.physicalLine src, .directive fault⟩ := by
    intro r hr
    obtain ⟨before, c, after, hsplit, hc, -⟩ := lineMap_eq_error_iff.mp hr
    have hmem : c ∈ root.commentsWithin := by simp [hsplit]
    exact ⟨c, (restartOf?_eq_error_iff_malformed hmem).mp hc⟩
  refine ⟨⟨lineMap_eq_scan src root, fun c => ?_⟩, ⟨?_, ?_⟩, hrefused⟩
  · rw [root.comments_eq, List.mem_reverse, Node.mem_commentsWithin]
  · rintro ⟨r, hr⟩
    obtain ⟨c, fault, hmalformed, -⟩ := hrefused r hr
    exact ⟨c, fault, hmalformed⟩
  · rintro ⟨c, fault, hmalformed⟩
    exact hmalformed.exists_refusal

/-- A malformed directive whose file name is no text in UTF-8. -/
def brokenNameSource : Source :=
  ⟨(Source.ofString "package p\n//line ").bytes ++ #[0xFF] ++ (Source.ofString ":0\n").bytes⟩

/-- The tree of this source; the comment has the name and the line. -/
def brokenName : Node :=
  .branch .sourceFile 0 21 none
    [.branch .packageClause 0 9 none [.branch .packageIdentifier 8 9 none []],
     .branch .comment 10 20 none []]

theorem brokenName_refused :
    lineMap brokenNameSource brokenName = .error ⟨2, .directive (.line "0")⟩ ∧
      ∃ c fault, Malformed brokenNameSource brokenName c fault ∧
        c.physicalLine brokenNameSource = 2 := by
  have h : lineMap brokenNameSource brokenName = .error ⟨2, .directive (.line "0")⟩ := by
    have hscan : restartsOf brokenNameSource brokenName.comments =
        .error ⟨2, .directive (.line "0")⟩ := by decide +kernel
    rw [(lineMap_refuses_malformed brokenNameSource brokenName).1.1, hscan]
    rfl
  obtain ⟨c, fault, hmalformed, hr⟩ := (lineMap_refuses_malformed _ _).2.2 _ h
  exact ⟨h, c, fault, hmalformed, (congrArg Refusal.line hr).symm⟩

/-! ## The directive that is reported -/

/-- A malformed directive is not empty. -/
theorem Malformed.start_lt_stop {c : Node} {fault : Directive.Fault}
    (h : Malformed src root c fault) : c.start < c.stop := by
  by_contra hle
  have htext : (c.text src).toList = [] := by
    rw [Node.text, Source.text, Source.slice, Array.extract_empty_of_stop_le_start (by omega)]
    simp [Utf8.decode, Utf8.glyphs]
  have hempty : commentText src c = [] := by
    rw [← List.prefix_nil, ← htext]
    exact commentText_isPrefix src c
  have hnamed := h.named_eq
  rw [hempty] at hnamed
  cases hnamed

theorem Source.row_mono (src : Source) {a b : Nat} (h : a ≤ b) : src.row a ≤ src.row b := by
  rw [src.row_add_newlines h]
  exact Nat.le_add_right _ _

/-- No malformed directive of a file starts before this one. -/
structure IsFirstMalformed (src : Source) (root first : Node) : Prop where
  malformed : ∃ fault, Malformed src root first fault
  start_le : ∀ c fault, Malformed src root c fault → first.start ≤ c.start

/-- If siblings do not overlap, every other malformed directive starts before the one for which the
file is refused. -/
theorem eq_or_start_lt_of_refused (hnested : root.Nested Node.EndsFirst) {before after : List Node}
    {last : Node} (hsplit : root.commentsWithin = before ++ last :: after)
    (hafter : ∀ d ∈ after, ∀ e, restartOf? src d ≠ .error e) {c : Node} {fault : Directive.Fault}
    (hc : Malformed src root c fault) : c = last ∨ c.start < last.start := by
  have hmem := hc.mem_commentsWithin
  rw [hsplit, List.mem_append, List.mem_cons] at hmem
  rcases hmem with hbefore | hlast | hlater
  · have hpairs := hnested.pairwise_commentsWithin
    rw [hsplit, List.pairwise_append] at hpairs
    have hle : c.stop ≤ last.start := hpairs.2.2 c hbefore last List.mem_cons_self
    exact .inr (hc.start_lt_stop.trans_le hle)
  · exact .inl hlast
  · exact absurd hc.restartOf?_eq (hafter c hlater _)

/-- Of the malformed directives of a tree whose siblings do not overlap the last is reported: the
file is refused on the line of the one that starts after all others. So the line reported is that of
the first malformed directive if all of them stand on one line, and in no other case. -/
theorem lineMap_reports_last_malformed (hnested : root.Nested Node.EndsFirst)
    (hmalformed : ∃ c fault, Malformed src root c fault) :
    ∃ last fault, Malformed src root last fault ∧
      lineMap src root = .error ⟨last.physicalLine src, .directive fault⟩ ∧
      (∀ c fault, Malformed src root c fault → c = last ∨ c.start < last.start) ∧
      ∀ first, IsFirstMalformed src root first →
        (last.physicalLine src = first.physicalLine src ↔
          ∀ c fault, Malformed src root c fault → c.physicalLine src = first.physicalLine src) := by
  obtain ⟨known, knownFault, hknown⟩ := hmalformed
  obtain ⟨r, hr⟩ := hknown.exists_refusal
  obtain ⟨before, last, after, hsplit, hlast, hafter⟩ := lineMap_eq_error_iff.mp hr
  have hmem : last ∈ root.commentsWithin := by simp [hsplit]
  obtain ⟨fault, hlastMalformed, rfl⟩ := (restartOf?_eq_error_iff_malformed hmem).mp hlast
  have hothers : ∀ c fault, Malformed src root c fault → c = last ∨ c.start < last.start :=
    fun c fault hc => eq_or_start_lt_of_refused hnested hsplit hafter hc
  refine ⟨last, fault, hlastMalformed, hr, hothers, fun first hfirst => ?_⟩
  refine ⟨fun hsame c fault' hc => ?_, fun hall => hall last fault hlastMalformed⟩
  -- The rows of the directives lie between those of the first and the last.
  have hlow : src.row first.start ≤ src.row c.start := src.row_mono (hfirst.start_le c fault' hc)
  have hhigh : src.row c.start ≤ src.row last.start := by
    rcases hothers c fault' hc with rfl | hlt
    · exact Nat.le_refl _
    · exact src.row_mono hlt.le
  simp only [Node.physicalLine] at hsame ⊢
  omega

/-- Two malformed directives, one after the other. -/
def twiceMalformedSource : Source := .ofString "package p\n//line a:0\n//line b:0\n"

/-- The tree of this source. -/
def twiceMalformed : Node :=
  .branch .sourceFile 0 32 none
    [.branch .packageClause 0 9 none [.branch .packageIdentifier 8 9 none []],
     .branch .comment 10 20 none [], .branch .comment 21 31 none []]

theorem twiceMalformed_reports_last :
    twiceMalformed.Nested Node.EndsFirst ∧
      (∃ first, IsFirstMalformed twiceMalformedSource twiceMalformed first ∧
        first.physicalLine twiceMalformedSource = 2) ∧
      ∃ fault, lineMap twiceMalformedSource twiceMalformed = .error ⟨3, .directive fault⟩ := by
  have hcomments : twiceMalformed.commentsWithin =
      [.branch .comment 10 20 none [], .branch .comment 21 31 none []] := rfl
  have heffective : ∀ c ∈ twiceMalformed.commentsWithin,
      isEffective twiceMalformedSource c = true := by decide +kernel
  have hnamed : ∀ c ∈ twiceMalformed.commentsWithin,
      Directive.named? (String.ofList (commentText twiceMalformedSource c)) =
        .error (.line "0") := by decide +kernel
  have hmalformed : ∀ c ∈ twiceMalformed.commentsWithin,
      Malformed twiceMalformedSource twiceMalformed c (.line "0") := by
    intro c hc
    obtain ⟨hreached, hkind⟩ := Node.mem_commentsWithin.mp hc
    exact ⟨hreached, hkind, isEffective_iff.mp (heffective c hc), hnamed c hc⟩
  have hfirst := hmalformed (.branch .comment 10 20 none []) (by simp [hcomments])
  have hsecond := hmalformed (.branch .comment 21 31 none []) (by simp [hcomments])
  have hnested : twiceMalformed.Nested Node.EndsFirst := by decide
  refine ⟨hnested, ⟨_, ⟨⟨_, hfirst⟩, fun c fault hc => ?_⟩, by decide +kernel⟩, ?_⟩
  · have hstarts : ∀ c ∈ twiceMalformed.commentsWithin, 10 ≤ c.start := by decide
    exact hstarts c hc.mem_commentsWithin
  · obtain ⟨last, fault, hlast, hr, hothers, -⟩ :=
      lineMap_reports_last_malformed hnested ⟨_, _, hfirst⟩
    have hmem := hlast.mem_commentsWithin
    rw [hcomments, List.mem_pair] at hmem
    rcases hmem with rfl | rfl
    · -- The second directive does not start before the first.
      rcases hothers _ _ hsecond with heq | hlt
      · exact absurd (congrArg Node.start heq) (by decide)
      · exact absurd hlt (by decide)
    · have hline : (Node.branch .comment 21 31 none []).physicalLine twiceMalformedSource = 3 := by
        decide +kernel
      rw [hline] at hr
      exact ⟨fault, hr⟩

end GoMeter
