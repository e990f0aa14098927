import GoMeter.Pattern.Selection
import GoMeter.Proofs.Path
import Mathlib.Data.List.Infix

/-!
# Patterns without wildcards

Whether a pattern without wildcards selects a path is decided on texts: the text of the path is the
pattern, or starts with the pattern and a slash, or the pattern has no slash and is one of the folders.
All this is about whole names. The pattern selects the path that it names and every path below it, and a
pattern of one name every path in a folder of that name.

* `Selection.IsPlain`: the names of a pattern without wildcards.
* `Selection.selectsBelow_iff`: the tests on texts as one condition on names.
* `literal_selects_whole_names`: which paths a pattern without wildcards selects.
-/

namespace GoMeter.Selection

open GoMeter.Path (slashed IsPart)

/-- Names between slashes, at least one, that hold no wildcard. -/
structure IsPlain (parts : List String) : Prop where
  ne_nil : parts ≠ []
  no_slash : ∀ s ∈ parts, '/' ∉ s.toList
  no_wildcard : ∀ s ∈ parts, ∀ c ∈ ['*', '?', '['], c ∉ s.toList

/-- The names of a path lie at or below those of a pattern, or in a folder with the one name that the
pattern has. -/
def Below (parts names : List String) : Prop :=
  parts <+: names ∨ ∃ part, parts = [part] ∧ part ∈ names.dropLast

variable {parts names : List String}

theorem toList_intercalate_slash (parts : List String) :
    ("/".intercalate parts).toList = slashed (parts.map String.toList) := by
  simp [slashed, String.toList_intercalate]

namespace IsPlain

variable (h : IsPlain parts)
include h

theorem wildcard_not_mem {c : Char} (hc : c ∈ ['*', '?', '[']) :
    c ∉ ("/".intercalate parts).toList := by
  have hslash : c ≠ '/' := by
    rintro rfl
    revert hc
    decide
  rw [toList_intercalate_slash]
  refine Path.not_mem_slashed hslash ?_
  simpa using fun s hs => h.no_wildcard s hs c hc

theorem hasGlob_eq : hasGlob ("/".intercalate parts) = false := by
  rw [hasGlob, List.any_eq_false]
  intro c hc hglob
  refine h.wildcard_not_mem (c := c) ?_ hc
  simpa [or_assoc] using hglob

/-- A pattern without wildcards is compared with the names of a path. -/
theorem selects?_eq (p : Path) :
    selects? ("/".intercalate parts) p = some (selectsBelow ("/".intercalate parts) p) := by
  have hne : "/".intercalate parts ≠ "**" := by
    intro heq
    have hstar := h.wildcard_not_mem (c := '*') (by decide)
    rw [heq] at hstar
    exact hstar (by decide)
  rw [selects?, if_neg hne, h.hasGlob_eq]
  rfl

end IsPlain

/-! ## The three tests -/

theorem map_toList_inj {a b : List String} : a.map String.toList = b.map String.toList ↔ a = b := by
  have hinj : Function.Injective String.toList := fun _ _ h => String.toList_injective h
  exact (List.map_injective_iff.mpr hinj).eq_iff

section Tests

variable (hparts : parts ≠ []) (hpartsSlash : ∀ p ∈ parts.map String.toList, '/' ∉ p)
  (hnames : names ≠ []) (hnamesSlash : ∀ n ∈ names.map String.toList, '/' ∉ n)

include hparts hpartsSlash hnames hnamesSlash in
/-- The text of a path is the pattern if the names are the same. -/
theorem text_eq_iff : Path.text ⟨0, names⟩ = "/".intercalate parts ↔ names = parts := by
  rw [← String.toList_inj, Path.toList_text hnames, toList_intercalate_slash,
    Path.slashed_inj (by simpa using hnames) (by simpa using hparts) hnamesSlash hpartsSlash,
    map_toList_inj]

include hparts hpartsSlash hnames hnamesSlash in
/-- The text of a path goes on with a slash after the pattern if the names go on. -/
theorem pattern_slash_prefix_text_iff :
    ("/".intercalate parts ++ "/").toList <+: (Path.text ⟨0, names⟩).toList ↔
      ∃ more, more ≠ [] ∧ names = parts ++ more := by
  rw [String.toList_append, toList_intercalate_slash, Path.toList_text hnames]
  refine (Path.slashed_slash_prefix_iff (by simpa using hparts) hpartsSlash hnamesSlash).trans ?_
  constructor
  · rintro ⟨more, hmore, hsplit⟩
    obtain ⟨before, after, rfl, hbefore, rfl⟩ := List.map_eq_append_iff.mp hsplit
    rw [map_toList_inj] at hbefore
    exact ⟨after, by simpa using hmore, by rw [hbefore]⟩
  · rintro ⟨more, hmore, rfl⟩
    exact ⟨more.map String.toList, by simpa using hmore, List.map_append⟩

include hparts hpartsSlash in
/-- The pattern has no slash if it has one name only. -/
theorem not_slash_mem_iff : '/' ∉ ("/".intercalate parts).toList ↔ ∃ part, parts = [part] := by
  have hpos := List.length_pos_iff.mpr hparts
  rw [toList_intercalate_slash, Path.slash_mem_slashed_iff hpartsSlash, List.length_map,
    ← List.length_eq_one_iff]
  omega

end Tests

/-- The tests on texts come to one condition on names. -/
theorem selectsBelow_iff (hparts : parts ≠ []) (hpartsSlash : ∀ s ∈ parts, '/' ∉ s.toList)
    (hnames : names ≠ []) (hnamesSlash : ∀ n ∈ names, '/' ∉ n.toList) :
    selectsBelow ("/".intercalate parts) ⟨0, names⟩ = true ↔ Below parts names := by
  rw [← List.forall_mem_map (f := String.toList) (P := fun cs => '/' ∉ cs)] at hpartsSlash hnamesSlash
  rw [selectsBelow, Bool.or_eq_true, Bool.or_eq_true, Bool.and_eq_true, Bool.not_eq_true',
    ← Bool.not_eq_true, beq_iff_eq, List.isPrefixOf_iff_prefix, List.contains_iff_mem,
    List.contains_iff_mem, text_eq_iff hparts hpartsSlash hnames hnamesSlash,
    pattern_slash_prefix_text_iff hparts hpartsSlash hnames hnamesSlash,
    not_slash_mem_iff hparts hpartsSlash]
  refine or_congr ⟨?_, ?_⟩ ⟨?_, ?_⟩
  · rintro (rfl | ⟨more, -, rfl⟩)
    · exact List.prefix_rfl
    · exact List.prefix_append parts more
  · rintro ⟨more, rfl⟩
    by_cases hmore : more = []
    · exact .inl (by rw [hmore, List.append_nil])
    · exact .inr ⟨more, hmore, rfl⟩
  · rintro ⟨⟨part, rfl⟩, hmem⟩
    exact ⟨part, rfl, by simpa using hmem⟩
  · rintro ⟨part, rfl, hmem⟩
    exact ⟨⟨part, rfl⟩, by simpa using hmem⟩

/-- What a pattern covers has the names of the pattern in a row. -/
theorem Below.isInfix (h : Below parts names) : parts <:+: names := by
  rcases h with hbegin | ⟨part, rfl, hmem⟩
  · exact hbegin.isInfix
  · rw [List.singleton_infix_iff]
    exact List.mem_of_mem_dropLast hmem

/-- Further names change nothing. -/
theorem Below.append (h : Below parts names) (more : List String) : Below parts (names ++ more) := by
  rcases h with hbegin | ⟨part, rfl, hmem⟩
  · exact .inl (hbegin.trans (List.prefix_append names more))
  · refine .inr ⟨part, rfl, ?_⟩
    by_cases hmore : more = []
    · rwa [hmore, List.append_nil]
    · rw [List.dropLast_append_of_ne_nil hmore, List.mem_append]
      exact .inl (List.mem_of_mem_dropLast hmem)

end GoMeter.Selection

namespace GoMeter

open GoMeter.Path (IsPart)
open Selection

/-- A pattern without wildcards selects a path if its names are the first names of the path, and a
pattern of one name also if that is the name of one of the folders; nothing else is selected. So it
never selects by a part of a name, and with a path it selects all paths below it. -/
theorem literal_selects_whole_names {parts names : List String} (h : IsPlain parts) (hne : names ≠ [])
    (hnames : ∀ n ∈ names, IsPart n.toList) :
    (∃ b, selects? ("/".intercalate parts) ⟨0, names⟩ = some b) ∧
    (selects? ("/".intercalate parts) ⟨0, names⟩ = some true ↔
      parts <+: names ∨ ∃ part, parts = [part] ∧ part ∈ names.dropLast) ∧
    (selects? ("/".intercalate parts) ⟨0, names⟩ = some true → parts <:+: names) ∧
    ∀ more : List String, (∀ n ∈ more, IsPart n.toList) →
      selects? ("/".intercalate parts) ⟨0, names⟩ = some true →
      selects? ("/".intercalate parts) ⟨0, names ++ more⟩ = some true := by
  have hselects : ∀ names : List String, names ≠ [] → (∀ n ∈ names, IsPart n.toList) →
      (selects? ("/".intercalate parts) ⟨0, names⟩ = some true ↔ Below parts names) := by
    intro names hne hnames
    rw [h.selects?_eq, Option.some.injEq]
    exact selectsBelow_iff h.ne_nil h.no_slash hne fun n hn => (hnames n hn).no_slash
  have hhere := hselects names hne hnames
  refine ⟨⟨_, h.selects?_eq _⟩, hhere, fun hselected => (hhere.mp hselected).isInfix, ?_⟩
  intro more hmore hselected
  have hall : ∀ n ∈ names ++ more, IsPart n.toList := List.forall_mem_append.mpr ⟨hnames, hmore⟩
  exact (hselects _ (by simp [hne]) hall).mpr ((hhere.mp hselected).append more)

/-- A folder of the name is selected at any depth, and one whose name only starts so is not. -/
theorem vendor_selected :
    selects? "vendor" ⟨0, ["a", "vendor", "b", "c.go"]⟩ = some true ∧
      selects? "vendor" ⟨0, ["a", "vendored", "c.go"]⟩ ≠ some true := by
  have hplain : IsPlain ["vendor"] := ⟨by simp, by simp, by simp⟩
  have hname : ∀ names ⊆ ["a", "vendor", "vendored", "b", "c.go"], ∀ n ∈ names, IsPart n.toList := by
    have hall : ∀ n ∈ ["a", "vendor", "vendored", "b", "c.go"],
        n.toList ≠ [] ∧ '/' ∉ n.toList ∧ n.toList ≠ ['.'] := by simp
    intro names hsubset n hn
    obtain ⟨hne, hslash, hpoint⟩ := hall n (hsubset hn)
    exact ⟨hne, hslash, hpoint⟩
  have hinside := @literal_selects_whole_names ["vendor"] ["a", "vendor", "b", "c.go"] hplain
    (by simp) (hname _ (by simp))
  have hbeside := @literal_selects_whole_names ["vendor"] ["a", "vendored", "c.go"] hplain
    (by simp) (hname _ (by simp))
  exact ⟨hinside.2.1.mpr (.inr ⟨"vendor", rfl, by decide⟩),
    fun hselected => absurd (hbeside.2.2.1 hselected) (by decide)⟩

end GoMeter
