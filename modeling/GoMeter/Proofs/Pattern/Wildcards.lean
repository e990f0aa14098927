import GoMeter.Pattern.Glob
import Mathlib.Data.List.Basic

/-!
# What a wildcard pattern matches

The program finds out whether a pattern matches a text by marks: it carries over one element after the
other where a part of the text may end that the elements before match. Here the same is told by cutting
the text into pieces, one for each element.

* `Glob.Matches`: a text is cut into pieces that the elements stand for.
* `Glob.matches_append_iff`: elements in a row match texts in a row.
* `Glob.marked_advance_iff`, `Glob.marked_foldl_iff`: what one element does to the marks, and what
  all do.
* `Glob.fitsAll_iff`: the marks tell what is matched.
* `Glob.parse_of_no_class`, `Glob.fits_iff`: patterns without classes, character by character.
-/

namespace GoMeter.Glob

/-! ## Pieces -/

/-- The pieces of a text that an element stands for. -/
def Element.Covers : Element → List Char → Prop
  | .star, _ => True
  | e, piece => ∃ c, piece = [c] ∧ e.accepts c = true

/-- A text is cut into pieces, one for each element, each of which its element stands for. -/
def Matches : List Element → List Char → Prop
  | [], text => text = []
  | e :: es, text => ∃ piece rest, text = piece ++ rest ∧ e.Covers piece ∧ Matches es rest

theorem covers_iff_of_ne_star {e : Element} (he : e ≠ .star) {piece : List Char} :
    e.Covers piece ↔ ∃ c, piece = [c] ∧ e.accepts c = true := by
  cases e with
  | star => exact absurd rfl he
  | _ => exact Iff.rfl

theorem matches_singleton_iff {e : Element} {text : List Char} :
    Matches [e] text ↔ e.Covers text := by
  constructor
  · rintro ⟨piece, rest, rfl, hpiece, rfl⟩
    simpa using hpiece
  · intro h
    exact ⟨text, [], by simp, h, rfl⟩

/-- Elements in a row match what their parts match in a row. -/
theorem matches_append_iff {es es' : List Element} {text : List Char} :
    Matches (es ++ es') text ↔ ∃ a b, text = a ++ b ∧ Matches es a ∧ Matches es' b := by
  induction es generalizing text with
  | nil =>
    constructor
    · intro h
      exact ⟨[], text, rfl, rfl, h⟩
    · rintro ⟨a, b, rfl, rfl, hb⟩
      exact hb
  | cons e es ih =>
    constructor
    · rintro ⟨piece, rest, rfl, hpiece, hrest⟩
      obtain ⟨a, b, rfl, ha, hb⟩ := ih.mp hrest
      exact ⟨piece ++ a, b, by simp, ⟨piece, a, rfl, hpiece, ha⟩, hb⟩
    · rintro ⟨a, b, rfl, ⟨piece, rest, rfl, hpiece, hrest⟩, hb⟩
      exact ⟨piece, rest ++ b, by simp, hpiece, ih.mpr ⟨rest, b, rfl, hrest, hb⟩⟩

/-! ## Marks -/

/-- A mark stands at a place. -/
def Marked (marks : List Bool) (k : Nat) : Prop := marks[k]? = some true

theorem marked_cons_succ_iff {b : Bool} {marks : List Bool} {k : Nat} :
    Marked (b :: marks) (k + 1) ↔ Marked marks k := Iff.rfl

theorem length_spread (seen : Bool) (marks : List Bool) :
    (spread seen marks).length = marks.length := by
  induction marks generalizing seen with
  | nil => rfl
  | cons b rest ih => simp [spread, ih]

theorem marked_spread_iff {seen : Bool} {marks : List Bool} {k : Nat} :
    Marked (spread seen marks) k ↔
      k < marks.length ∧ (seen = true ∨ ∃ j ≤ k, Marked marks j) := by
  induction marks generalizing seen k with
  | nil => simp [spread, Marked]
  | cons b rest ih =>
    cases k with
    | zero => simp [spread, Marked]
    | succ k =>
      rw [spread, marked_cons_succ_iff, ih, List.length_cons, Bool.or_eq_true, or_assoc]
      refine and_congr (by omega) (or_congr_right ?_)
      constructor
      · rintro (rfl | ⟨j, hj, hmark⟩)
        · exact ⟨0, by omega, rfl⟩
        · exact ⟨j + 1, by omega, hmark⟩
      · rintro ⟨j, hj, hmark⟩
        cases j with
        | zero => exact .inl (by simpa [Marked] using hmark)
        | succ j => exact .inr ⟨j, by omega, hmark⟩

variable {text : List Char} {marks : List Bool}

/-- Marks stand between the characters of a text, at its start and at its end. -/
theorem length_advance (h : marks.length = text.length + 1) (e : Element) :
    (advance text marks e).length = text.length + 1 := by
  cases e with
  | star => rw [advance, length_spread, h]
  | _ => simp [advance, h]

/-- An element other than a star carries a mark over one character. -/
theorem marked_advance_of_ne_star {e : Element} (he : e ≠ .star) {k : Nat} :
    Marked (advance text marks e) k ↔
      ∃ j c, k = j + 1 ∧ text[j]? = some c ∧ e.accepts c = true ∧ Marked marks j := by
  have hadvance : advance text marks e =
      false :: List.zipWith (fun mark c => mark && e.accepts c) marks text := by
    cases e with
    | star => exact absurd rfl he
    | _ => rfl
  rw [hadvance]
  cases k with
  | zero => simp [Marked]
  | succ j =>
    rw [marked_cons_succ_iff, Marked, List.getElem?_zipWith]
    cases hmark : marks[j]? with
    | none => simp [Marked, hmark]
    | some mark =>
      cases hc : text[j]? with
      | none => simp [hc]
      | some c => simp [Marked, hmark, hc, and_comm]

/-- What one element does to the marks: if they stood where `P` holds of the text up to there, they now
stand where the text up to there is cut into one for which `P` holds and a piece for the element. -/
theorem marked_advance_iff {P : List Char → Prop} (hlength : marks.length = text.length + 1)
    (hmarks : ∀ k, Marked marks k ↔ k ≤ text.length ∧ P (text.take k)) (e : Element) (k : Nat) :
    Marked (advance text marks e) k ↔
      k ≤ text.length ∧ ∃ a b, text.take k = a ++ b ∧ P a ∧ e.Covers b := by
  by_cases he : e = .star
  · subst he
    rw [advance, marked_spread_iff, hlength]
    constructor
    · rintro ⟨hk, hfalse | ⟨j, hj, hmark⟩⟩
      · cases hfalse
      · obtain ⟨-, hP⟩ := (hmarks j).mp hmark
        refine ⟨by omega, text.take j, (text.take k).drop j, ?_, hP, trivial⟩
        have hcut := List.take_append_drop j (text.take k)
        rw [List.take_take, Nat.min_eq_left hj] at hcut
        exact hcut.symm
    · rintro ⟨hk, a, b, hcut, hP, -⟩
      refine ⟨by omega, .inr ⟨a.length, ?_, (hmarks _).mpr ⟨?_, ?_⟩⟩⟩
      · have hle := congrArg List.length hcut
        simp only [List.length_take, List.length_append] at hle
        omega
      · have hle := congrArg List.length hcut
        simp only [List.length_take, List.length_append] at hle
        omega
      · have hprefix : a <+: text := (hcut ▸ List.prefix_append a b).trans (List.take_prefix k text)
        rwa [← List.prefix_iff_eq_take.mp hprefix]
  · rw [marked_advance_of_ne_star he]
    constructor
    · rintro ⟨j, c, rfl, hc, haccepts, hmark⟩
      obtain ⟨-, hP⟩ := (hmarks j).mp hmark
      obtain ⟨hlt, -⟩ := List.getElem?_eq_some_iff.mp hc
      refine ⟨hlt, text.take j, [c], ?_, hP, (covers_iff_of_ne_star he).mpr ⟨c, rfl, haccepts⟩⟩
      rw [List.take_add_one, hc]
      rfl
    · rintro ⟨hk, a, b, hcut, hP, hb⟩
      obtain ⟨c, rfl, haccepts⟩ := (covers_iff_of_ne_star he).mp hb
      have hlength := congrArg List.length hcut
      simp only [List.length_take, List.length_append, List.length_singleton] at hlength
      obtain rfl : k = a.length + 1 := by omega
      have hprefix : a ++ [c] <+: text := hcut ▸ List.take_prefix _ text
      obtain ⟨rest, rfl⟩ := hprefix
      refine ⟨a.length, c, rfl, by simp, haccepts, (hmarks _).mpr ⟨by simp, by simpa using hP⟩⟩

/-- The marks after some elements stand where the elements match the text up to there. -/
theorem marked_foldl_iff {before : List Element} (es : List Element)
    (hlength : marks.length = text.length + 1)
    (hmarks : ∀ k, Marked marks k ↔ k ≤ text.length ∧ Matches before (text.take k)) :
    (es.foldl (advance text) marks).length = text.length + 1 ∧
      ∀ k, Marked (es.foldl (advance text) marks) k ↔
        k ≤ text.length ∧ Matches (before ++ es) (text.take k) := by
  induction es generalizing marks before with
  | nil => simpa using ⟨hlength, hmarks⟩
  | cons e es ih =>
    rw [List.foldl_cons, List.append_cons]
    refine ih (length_advance hlength e) fun k => ?_
    simp only [marked_advance_iff hlength hmarks e k, matches_append_iff, matches_singleton_iff]

theorem marked_start_iff (text : List Char) (k : Nat) :
    Marked (true :: List.replicate text.length false) k ↔
      k ≤ text.length ∧ Matches [] (text.take k) := by
  cases k with
  | zero => simp [Marked, Matches]
  | succ k =>
    rw [marked_cons_succ_iff, Marked, List.getElem?_replicate]
    refine iff_of_false (by split <;> simp) ?_
    rintro ⟨hk, hnil⟩
    have hempty : (text.take (k + 1)).length = 0 := congrArg List.length hnil
    rw [List.length_take] at hempty
    omega

/-- Elements match a whole text exactly if it can be cut into pieces for them. -/
theorem fitsAll_iff (es : List Element) (text : List Char) :
    fitsAll es text = true ↔ Matches es text := by
  have hstart : (true :: List.replicate text.length false).length = text.length + 1 := by simp
  obtain ⟨hlength, hmarks⟩ := marked_foldl_iff es hstart (marked_start_iff text)
  have hlast := hmarks text.length
  rw [List.nil_append, List.take_length, Marked] at hlast
  rw [fitsAll, List.getLast?_eq_getElem?, hlength, Nat.add_sub_cancel, Option.getD_eq_iff, hlast]
  simp

/-! ## Patterns without classes -/

/-- The element that a character stands for where no class starts. -/
def Element.ofChar (c : Char) : Element :=
  if c = '*' then .star else if c = '?' then .any else .char c

/-- A pattern without classes is read character by character. -/
theorem parse_of_no_class {cs : List Char} (h : '[' ∉ cs) : parse cs = cs.map Element.ofChar := by
  induction cs with
  | nil => rw [parse, List.map_nil]
  | cons c rest ih =>
    have hc : c ≠ '[' := fun heq => h (heq ▸ List.mem_cons_self)
    have hrest := ih fun hmem => h (List.mem_cons_of_mem c hmem)
    rw [parse, List.map_cons, Element.ofChar, hrest]
    split_ifs <;> rfl

theorem fits_iff {cs : List Char} (h : '[' ∉ cs) (text : String) :
    fits (String.ofList cs) text = true ↔ Matches (cs.map Element.ofChar) text.toList := by
  rw [fits, String.toList_ofList, parse_of_no_class h, fitsAll_iff]

/-- Characters that are no wildcards match themselves. -/
theorem matches_literal_iff {cs text : List Char} (hstar : '*' ∉ cs) (hany : '?' ∉ cs) :
    Matches (cs.map Element.ofChar) text ↔ text = cs := by
  induction cs generalizing text with
  | nil => exact Iff.rfl
  | cons c rest ih =>
    rw [List.mem_cons, not_or] at hstar hany
    have hofChar : Element.ofChar c = .char c := by
      rw [Element.ofChar, if_neg (Ne.symm hstar.1), if_neg (Ne.symm hany.1)]
    rw [List.map_cons, hofChar]
    constructor
    · rintro ⟨piece, tail, rfl, ⟨d, rfl, hd⟩, htail⟩
      obtain rfl : d = c := by simpa [Element.accepts] using hd
      rw [(ih hstar.2 hany.2).mp htail]
      rfl
    · rintro rfl
      exact ⟨[c], rest, rfl, ⟨c, rfl, by simp [Element.accepts]⟩, (ih hstar.2 hany.2).mpr rfl⟩

end GoMeter.Glob
