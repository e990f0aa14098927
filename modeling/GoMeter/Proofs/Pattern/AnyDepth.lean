import GoMeter.Pattern.Selection
import GoMeter.Proofs.Path
import GoMeter.Proofs.Pattern.Wildcards
import Mathlib.Data.List.Forall2
import Mathlib.Data.List.Infix

/-!
# Folders that a pattern leaves open

The segment `**` of a pattern is meant to stand for any number of folders, none included. Three tests go
some way towards that: a star runs over slashes when the whole text of a path is matched, `**` stands for
one name when names are matched from the end, and there is a second reading in which every `**/` is left
out. So a path is selected if every `**` in the pattern stands for some folder, and also if none does. A
path in which one `**` stands for a folder and another for nothing is, as a rule, not selected.

* `Selection.Expands`: a path that a pattern is meant for, with the folders that each `**` stands for.
* `Selection.matches_of_expands`, `Selection.exists_expands_of_matches`: what the test of the whole text
  comes to.
* `Selection.matchesEnd_iff`: what the test of names from the end comes to.
* `Selection.withoutAnyDepth_slashed`: the second reading.
* `anyDepth_selects`: when a pattern selects a path that it is meant for; for patterns without other
  wildcards, exactly when.
-/

namespace GoMeter.Selection

open GoMeter.Path (slashed slashed_cons slashed_append slashed_singleton IsPart)

/-! ## Patterns and the paths they are meant for -/

/-- The segment that stands for any number of folders. -/
def anyDepth : List Char := ['*', '*']

/-- The pattern with some segments. -/
def ofSegments (segments : List (List Char)) : String := String.ofList (slashed segments)

/-- Segments without classes, among them `**`, which is not the last. -/
structure IsDeep (segments : List (List Char)) : Prop where
  ne_nil : ∀ s ∈ segments, s ≠ []
  no_slash : ∀ s ∈ segments, '/' ∉ s
  no_class : ∀ s ∈ segments, '[' ∉ s
  some_anyDepth : anyDepth ∈ segments
  last_ne : segments.getLast? ≠ some anyDepth

/-- A path that a pattern is meant for: some folders stand for each `**`, and one name that fits for each
other segment. The folders are listed too, one list for each `**`. -/
inductive Expands : List (List Char) → List (List String) → List String → Prop where
  | nil : Expands [] [] []
  | depth {segments : List (List Char)} {folders : List (List String)} {names : List String}
      (between : List String) (rest : Expands segments folders names) :
      Expands (anyDepth :: segments) (between :: folders) (between ++ names)
  | segment {s : List Char} {segments : List (List Char)} {folders : List (List String)}
      {name : String} {names : List String} (hs : s ≠ anyDepth)
      (fits : Glob.fits (String.ofList s) name = true) (rest : Expands segments folders names) :
      Expands (s :: segments) folders (name :: names)

/-- A segment without wildcards. -/
def IsLiteral (s : List Char) : Prop := '*' ∉ s ∧ '?' ∉ s

/-- The segments other than `**`. -/
def ordinary (segments : List (List Char)) : List (List Char) := segments.filter (· ≠ anyDepth)

/-- No segment before the last ends in `**` without being `**`. -/
def Tidy (segments : List (List Char)) : Prop :=
  ∀ s ∈ segments.dropLast, anyDepth <:+ s → s = anyDepth

variable {segments : List (List Char)} {folders : List (List String)} {names : List String}

theorem matches_anyDepth (text : List Char) :
    Glob.Matches (anyDepth.map Glob.Element.ofChar) text :=
  ⟨text, [], by simp, trivial, [], [], rfl, trivial, rfl⟩

theorem fits_anyDepth (name : String) : Glob.fits (String.ofList anyDepth) name = true :=
  (Glob.fits_iff (by decide) name).mpr (matches_anyDepth _)

/-! ## The whole text -/

theorem matches_slash_iff {es : List Glob.Element} {text : List Char} :
    Glob.Matches (Glob.Element.ofChar '/' :: es) text ↔
      ∃ rest, text = '/' :: rest ∧ Glob.Matches es rest := by
  constructor
  · rintro ⟨piece, rest, rfl, ⟨c, rfl, hc⟩, hrest⟩
    obtain rfl : c = '/' := by simpa [Glob.Element.ofChar, Glob.Element.accepts] using hc
    exact ⟨rest, rfl, hrest⟩
  · rintro ⟨rest, rfl, hrest⟩
    exact ⟨['/'], rest, rfl, ⟨'/', rfl, rfl⟩, hrest⟩

/-- A segment before others matches the text up to a slash, and they match the text after it. -/
theorem matches_slashed_cons_iff (h : segments ≠ []) {s text : List Char} :
    Glob.Matches ((slashed (s :: segments)).map Glob.Element.ofChar) text ↔
      ∃ a b, text = a ++ '/' :: b ∧ Glob.Matches (s.map Glob.Element.ofChar) a ∧
        Glob.Matches ((slashed segments).map Glob.Element.ofChar) b := by
  rw [slashed_cons h, List.map_append, List.map_cons, Glob.matches_append_iff]
  simp only [matches_slash_iff]
  constructor
  · rintro ⟨a, -, rfl, ha, b, rfl, hb⟩
    exact ⟨a, b, rfl, ha, hb⟩
  · rintro ⟨a, b, rfl, ha, hb⟩
    exact ⟨a, _, rfl, ha, b, rfl, hb⟩

theorem Expands.names_ne_nil (h : Expands segments folders names) (hne : segments ≠ [])
    (hsome : ∀ f ∈ folders, f ≠ []) : names ≠ [] := by
  cases h with
  | nil => exact absurd rfl hne
  | depth between rest => simp [hsome between List.mem_cons_self]
  | segment hs fits rest => simp

/-- If some folder stands for each `**`, the pattern matches the whole text of the path. -/
theorem matches_of_expands (h : Expands segments folders names)
    (hclass : ∀ s ∈ segments, '[' ∉ s) (hlast : segments.getLast? ≠ some anyDepth)
    (hsome : ∀ f ∈ folders, f ≠ []) :
    Glob.Matches ((slashed segments).map Glob.Element.ofChar) (slashed (names.map String.toList)) := by
  induction h with
  | nil => rfl
  | @depth segments folders names between rest ih =>
    have hne : segments ≠ [] := by
      rintro rfl
      exact hlast rfl
    rw [List.forall_mem_cons] at hclass hsome
    rw [List.getLast?_cons_of_ne_nil hne] at hlast
    have hnames := rest.names_ne_nil hne hsome.2
    rw [matches_slashed_cons_iff hne, List.map_append,
      slashed_append (by simpa using hsome.1) (by simpa using hnames)]
    exact ⟨_, _, rfl, matches_anyDepth _, ih hclass.2 hlast hsome.2⟩
  | @segment s segments folders name names hs fits rest ih =>
    rw [List.forall_mem_cons] at hclass
    have hname := (Glob.fits_iff hclass.1 name).mp fits
    by_cases hne : segments = []
    · subst hne
      cases rest
      simpa using hname
    · rw [List.getLast?_cons_of_ne_nil hne] at hlast
      have hnames := rest.names_ne_nil hne hsome
      rw [matches_slashed_cons_iff hne, List.map_cons, slashed_cons (by simpa using hnames)]
      exact ⟨_, _, rfl, hname, ih hclass.2 hlast hsome⟩

/-- Names without slashes. -/
def NoSlashes (names : List String) : Prop := ∀ n ∈ names, '/' ∉ n.toList

theorem pieces_slashed_names (hne : names ≠ []) (h : NoSlashes names) :
    Path.pieces (slashed (names.map String.toList)) = names.map String.toList := by
  refine Path.pieces_slashed (by simpa using hne) ?_
  simpa [NoSlashes] using h

theorem fits_literal_iff {s : List Char} (hclass : '[' ∉ s) (h : IsLiteral s) {name : String} :
    Glob.fits (String.ofList s) name = true ↔ name = String.ofList s := by
  rw [Glob.fits_iff hclass, Glob.matches_literal_iff h.1 h.2, ← String.toList_inj,
    String.toList_ofList]

/-- Names whose text has no slash are one name. -/
theorem eq_singleton_of_slashed_eq {s : List Char} (hs : '/' ∉ s) (hne : names ≠ [])
    (hnoSlash : NoSlashes names) (h : slashed (names.map String.toList) = s) :
    names = [String.ofList s] := by
  have hpieces := pieces_slashed_names hne hnoSlash
  rw [h, Path.pieces_of_not_mem hs] at hpieces
  obtain ⟨name, rfl, hname⟩ := List.map_eq_singleton_iff.mp hpieces.symm
  rw [← hname, String.ofList_toList]

/-- Without other wildcards the pattern matches the whole text of a path only if some folder can be taken
for each `**`. -/
theorem exists_expands_of_matches (hne : segments ≠ []) (hslash : ∀ s ∈ segments, '/' ∉ s)
    (hclass : ∀ s ∈ segments, '[' ∉ s) (hlast : segments.getLast? ≠ some anyDepth)
    (hliteral : ∀ s ∈ segments, s = anyDepth ∨ IsLiteral s) (hnames : names ≠ [])
    (hnoSlash : NoSlashes names)
    (h : Glob.Matches ((slashed segments).map Glob.Element.ofChar) (slashed (names.map String.toList))) :
    ∃ folders, (∀ f ∈ folders, f ≠ []) ∧ Expands segments folders names := by
  induction segments generalizing names with
  | nil => exact absurd rfl hne
  | cons s rest ih =>
    rw [List.forall_mem_cons] at hslash hclass hliteral
    -- A literal segment takes the one name that it spells.
    have htake : ∀ {taken : List String}, IsLiteral s → taken ≠ [] → NoSlashes taken →
        Glob.Matches (s.map Glob.Element.ofChar) (slashed (taken.map String.toList)) →
        taken = [String.ofList s] := by
      intro taken hs htaken htakenSlash hmatches
      exact eq_singleton_of_slashed_eq hslash.1 htaken htakenSlash
        ((Glob.matches_literal_iff hs.1 hs.2).mp hmatches)
    have hfits : IsLiteral s → Glob.fits (String.ofList s) (String.ofList s) = true :=
      fun hs => (fits_literal_iff hclass.1 hs).mpr rfl
    by_cases hrest : rest = []
    · subst hrest
      have hs : s ≠ anyDepth := by
        rintro rfl
        exact hlast rfl
      have hsliteral := hliteral.1.resolve_left hs
      rw [slashed_singleton] at h
      rw [htake hsliteral hnames hnoSlash h]
      exact ⟨[], by simp, .segment hs (hfits hsliteral) .nil⟩
    · obtain ⟨x, y, htext, hx, hy⟩ := (matches_slashed_cons_iff hrest).mp h
      have hparts : ∀ p ∈ names.map String.toList, '/' ∉ p := by simpa [NoSlashes] using hnoSlash
      obtain ⟨a, b, hsplit, ha, hb, rfl, rfl⟩ := Path.exists_of_slashed_eq hparts htext
      obtain ⟨before, after, rfl, rfl, rfl⟩ := List.map_eq_append_iff.mp hsplit
      have hbefore : before ≠ [] := by simpa using ha
      have hafter : after ≠ [] := by simpa using hb
      obtain ⟨hbeforeSlash, hafterSlash⟩ := List.forall_mem_append.mp hnoSlash
      rw [List.getLast?_cons_of_ne_nil hrest] at hlast
      obtain ⟨folders, hfolders, hexpands⟩ :=
        ih hrest hslash.2 hclass.2 hlast hliteral.2 hafter hafterSlash hy
      by_cases hs : s = anyDepth
      · subst hs
        refine ⟨before :: folders, ?_, .depth before hexpands⟩
        exact List.forall_mem_cons.mpr ⟨hbefore, hfolders⟩
      · have hsliteral := hliteral.1.resolve_left hs
        rw [htake hsliteral hbefore hbeforeSlash hx]
        exact ⟨folders, hfolders, .segment hs (hfits hsliteral) hexpands⟩

/-! ## Names from the end -/

/-- A pattern matches a name, as a relation. -/
def Fits (pattern name : String) : Prop := Glob.fits pattern name = true

theorem all_zip_iff {patterns taken more : List String} (hlength : patterns.length = taken.length) :
    ((patterns.zip (taken ++ more)).all fun (pattern, name) => Glob.fits pattern name) = true ↔
      List.Forall₂ Fits patterns taken := by
  have hzip : patterns.zip (taken ++ more) = patterns.zip taken := by
    rw [← List.append_nil patterns, List.zip_append hlength, List.zip_nil_left, List.append_nil,
      List.append_nil]
  rw [hzip, List.all_eq_true, List.forall₂_iff_zip]
  constructor
  · intro h
    exact ⟨hlength, fun {a b} hmem => h (a, b) hmem⟩
  · rintro ⟨-, h⟩ ⟨a, b⟩ hmem
    exact h hmem

/-- Names match the end of other names if those can be cut so that all after the cut are matched. -/
theorem matchesEnd_iff {patterns : List String} :
    matchesEnd patterns names = true ↔
      ∃ before after, names = before ++ after ∧ List.Forall₂ Fits patterns after := by
  rw [matchesEnd, Bool.and_eq_true, decide_eq_true_eq]
  constructor
  · rintro ⟨hlength, hall⟩
    let cut := names.length - patterns.length
    refine ⟨names.take cut, names.drop cut, (List.take_append_drop cut names).symm, ?_⟩
    rw [← List.take_append_drop cut names, List.reverse_append, all_zip_iff (by simp; omega)] at hall
    exact List.forall₂_reverse_iff.mp hall
  · rintro ⟨before, after, rfl, hafter⟩
    have hlength := hafter.length_eq
    refine ⟨by simp [hlength], ?_⟩
    rw [List.reverse_append, all_zip_iff (by simpa using hlength)]
    exact List.forall₂_reverse_iff.mpr hafter

/-- Where names are matched one by one, `**` stands for one folder. -/
theorem forall₂_fits_iff_expands :
    List.Forall₂ Fits (segments.map String.ofList) names ↔
      ∃ folders, (∀ f ∈ folders, f.length = 1) ∧ Expands segments folders names := by
  rw [List.forall₂_map_left_iff]
  constructor
  · intro h
    induction h with
    | nil => exact ⟨[], by simp, .nil⟩
    | @cons s name segments names hfits _ ih =>
      obtain ⟨folders, hone, hexpands⟩ := ih
      by_cases hs : s = anyDepth
      · subst hs
        refine ⟨[name] :: folders, ?_, .depth [name] hexpands⟩
        exact List.forall_mem_cons.mpr ⟨rfl, hone⟩
      · exact ⟨folders, hone, .segment hs hfits hexpands⟩
  · rintro ⟨folders, hone, hexpands⟩
    induction hexpands with
    | nil => exact .nil
    | depth between rest ih =>
      rw [List.forall_mem_cons] at hone
      obtain ⟨name, rfl⟩ := List.length_eq_one_iff.mp hone.1
      exact .cons (fits_anyDepth name) (ih hone.2)
    | segment hs fits rest ih => exact .cons fits (ih hone)

/-- If nothing stands for `**`, the names are those of the ordinary segments. -/
theorem Expands.forall₂_ordinary (h : Expands segments folders names) (hnone : ∀ f ∈ folders, f = []) :
    List.Forall₂ Fits ((ordinary segments).map String.ofList) names := by
  rw [List.forall₂_map_left_iff]
  induction h with
  | nil => exact .nil
  | depth between rest ih =>
    rw [List.forall_mem_cons] at hnone
    rw [hnone.1]
    exact ih hnone.2
  | @segment s segments folders name names hs fits rest ih =>
    rw [ordinary, List.filter_cons_of_pos (by simpa using hs)]
    exact .cons fits (ih hnone)

/-- The folders of a `**` that leads a pattern stand before all else. -/
theorem Expands.exists_forall₂_ordinary (h : Expands segments folders names)
    (hnone : (∀ f ∈ folders, f = []) ∨
      segments.head? = some anyDepth ∧ ∀ f ∈ folders.tail, f = []) :
    ∃ before after, names = before ++ after ∧
      List.Forall₂ Fits ((ordinary segments).map String.ofList) after := by
  rcases hnone with hnone | ⟨hlead, hnone⟩
  · exact ⟨[], names, rfl, h.forall₂_ordinary hnone⟩
  · cases h with
    | nil => cases hlead
    | depth between rest => exact ⟨between, _, rfl, rest.forall₂_ordinary hnone⟩
    | segment hs fits rest => exact absurd (Option.some.inj hlead) hs

/-! ## The second reading -/

/-- A segment before a slash stays as it is, unless it ends in `**`. -/
theorem withoutAnyDepth_append {s : List Char} (hslash : '/' ∉ s) (hs : ¬ anyDepth <:+ s)
    (rest : List Char) : withoutAnyDepth (s ++ '/' :: rest) = s ++ '/' :: withoutAnyDepth rest := by
  induction s with
  | nil => rfl
  | cons c s ih =>
    rw [List.mem_cons, not_or] at hslash
    have hs' : ¬ anyDepth <:+ s := fun h => hs (h.trans (List.suffix_cons c s))
    rw [List.cons_append, withoutAnyDepth.eq_def]
    split
    · next more heq =>
      -- The slash is the one after the segment, so the segment is `**`.
      rw [List.cons.injEq] at heq
      obtain ⟨rfl, hmore⟩ := heq
      rcases s with _ | ⟨d, _ | ⟨e, s⟩⟩
      · simp at hmore
      · simp only [List.cons_append, List.cons.injEq] at hmore
        rw [hmore.1] at hs
        exact absurd List.suffix_rfl hs
      · simp only [List.cons_append, List.cons.injEq] at hmore
        simp [hmore.2.1] at hslash
    · next heq =>
      obtain ⟨rfl, rfl⟩ := List.cons.inj heq
      rw [ih hslash.2 hs']
      rfl
    · next heq => cases heq

theorem withoutAnyDepth_of_no_slash {s : List Char} (hslash : '/' ∉ s) : withoutAnyDepth s = s := by
  induction s with
  | nil => rfl
  | cons c s ih =>
    rw [List.mem_cons, not_or] at hslash
    rw [withoutAnyDepth.eq_def]
    split
    · next heq =>
      obtain ⟨-, rfl⟩ := List.cons.inj heq
      simp at hslash
    · next heq =>
      obtain ⟨rfl, rfl⟩ := List.cons.inj heq
      rw [ih hslash.2]
    · next heq => cases heq

theorem ordinary_ne_nil (hne : segments ≠ []) (hlast : segments.getLast? ≠ some anyDepth) :
    ordinary segments ≠ [] := by
  intro hnil
  have hlastMem := List.getLast_mem hne
  have hall := List.filter_eq_nil_iff.mp hnil _ hlastMem
  rw [List.getLast?_eq_some_getLast hne] at hlast
  simp_all

/-- The second reading of a pattern has its ordinary segments. -/
theorem withoutAnyDepth_slashed (hne : segments ≠ []) (hslash : ∀ s ∈ segments, '/' ∉ s)
    (hlast : segments.getLast? ≠ some anyDepth) (htidy : Tidy segments) :
    withoutAnyDepth (slashed segments) = slashed (ordinary segments) := by
  induction segments with
  | nil => exact absurd rfl hne
  | cons s rest ih =>
    rw [List.forall_mem_cons] at hslash
    by_cases hrest : rest = []
    · subst hrest
      have hs : s ≠ anyDepth := by
        rintro rfl
        exact hlast rfl
      rw [slashed_singleton, withoutAnyDepth_of_no_slash hslash.1, ordinary,
        List.filter_cons_of_pos (by simpa using hs), List.filter_nil, slashed_singleton]
    · rw [List.getLast?_cons_of_ne_nil hrest] at hlast
      rw [Tidy, List.dropLast_cons_of_ne_nil hrest, List.forall_mem_cons] at htidy
      have hshort := ih hrest hslash.2 hlast htidy.2
      rw [slashed_cons hrest]
      by_cases hs : s = anyDepth
      · subst hs
        show withoutAnyDepth (slashed rest) = _
        rw [hshort, ordinary, ordinary, List.filter_cons_of_neg (by simp)]
      · have hkept : ordinary (s :: rest) = s :: ordinary rest :=
          List.filter_cons_of_pos (by simpa using hs)
        rw [withoutAnyDepth_append hslash.1 fun hsuffix => hs (htidy.1 hsuffix), hshort, hkept,
          slashed_cons (ordinary_ne_nil hrest hlast)]

/-! ## What is selected -/

theorem mem_readings_iff {pattern q : String} :
    q ∈ readings pattern ↔
      q = pattern ∨ q = String.ofList (withoutAnyDepth pattern.toList) := by
  unfold readings
  dsimp only
  split_ifs with hsame
  · rw [hsame]
    simp
  · simp

/-- Where no test fails, a path is selected if one of the patterns passes a test. -/
theorem anyMatches?_eq_true_iff {p : Path} {patterns : List String}
    (h : ∀ q ∈ patterns, matchesNames? (.ofText q) p ≠ none) :
    anyMatches? p patterns = some true ↔ ∃ q ∈ patterns,
      Glob.fits q p.text = true ∨ matchesNames? (.ofText q) p = some true := by
  induction patterns with
  | nil => simp [anyMatches?]
  | cons q rest ih =>
    rw [List.forall_mem_cons] at h
    rw [anyMatches?]
    split_ifs with hfits
    · simp [hfits]
    · cases hnames : matchesNames? (.ofText q) p with
      | none => exact absurd hnames h.1
      | some b => cases b <;> simp [hfits, hnames, ih h.2]

namespace IsDeep

variable (h : IsDeep segments)
include h

theorem segments_ne_nil : segments ≠ [] := List.ne_nil_of_mem h.some_anyDepth

theorem isPart (hpoint : ['.'] ∉ segments) : ∀ s ∈ segments, IsPart s := fun s hs =>
  ⟨h.ne_nil s hs, h.no_slash s hs, fun heq => hpoint (heq ▸ hs)⟩

theorem hasGlob_eq : hasGlob (ofSegments segments) = true := by
  have hstar : '*' ∈ slashed segments := Path.mem_slashed_of_mem h.some_anyDepth (by decide)
  rw [hasGlob, ofSegments, String.toList_ofList, List.any_eq_true]
  exact ⟨'*', hstar, rfl⟩

/-- A pattern that does not end in `**` is not `**` alone. -/
theorem ofSegments_ne : ofSegments segments ≠ "**" := by
  intro heq
  have hslashed : slashed segments = anyDepth := by
    rw [ofSegments, ← String.toList_inj, String.toList_ofList] at heq
    exact heq
  have hpieces := Path.pieces_slashed h.segments_ne_nil h.no_slash
  rw [hslashed, Path.pieces_of_not_mem (by decide)] at hpieces
  apply h.last_ne
  rw [← hpieces]
  rfl

theorem selects?_eq (p : Path) :
    selects? (ofSegments segments) p = anyMatches? p (readings (ofSegments segments)) := by
  rw [selects?, if_neg h.ofSegments_ne, if_pos h.hasGlob_eq]

theorem fits_iff (text : String) : Glob.fits (ofSegments segments) text = true ↔
    Glob.Matches ((slashed segments).map Glob.Element.ofChar) text.toList :=
  Glob.fits_iff (Path.not_mem_slashed (by decide) h.no_class) text

/-- What the whole text of a path is matched by is selected. -/
theorem selects?_of_fits {p : Path} (hfits : Glob.fits (ofSegments segments) p.text = true) :
    selects? (ofSegments segments) p = some true := by
  rw [h.selects?_eq, readings]
  split_ifs <;> rw [anyMatches?, if_pos hfits]

end IsDeep

/-- A reading of a pattern selects a path: it matches the whole text, or its segments match the last
names. -/
def Reads (parts : List (List Char)) (names : List String) : Prop :=
  Glob.fits (ofSegments parts) (Path.text ⟨0, names⟩) = true ∨
    ∃ before after, names = before ++ after ∧ List.Forall₂ Fits (parts.map String.ofList) after

theorem matchesNames?_ofSegments {parts : List (List Char)} (hne : parts ≠ [])
    (hparts : ∀ p ∈ parts, IsPart p) (names : List String) :
    matchesNames? (.ofText (ofSegments parts)) ⟨0, names⟩ =
      some (matchesEnd (parts.map String.ofList) names) := by
  have hnames : (parts.map String.ofList).isEmpty = false := by simpa using hne
  rw [ofSegments, Path.ofText_slashed hne hparts, matchesNames?]
  simp [Path.isAbsolute, Path.key, hnames]

/-- A pattern selects a path by its own segments, or by the ordinary ones alone. -/
theorem IsDeep.selects?_iff_reads (h : IsDeep segments) (htidy : Tidy segments)
    (hpoint : ['.'] ∉ segments) (names : List String) :
    selects? (ofSegments segments) ⟨0, names⟩ = some true ↔
      Reads segments names ∨ Reads (ordinary segments) names := by
  have hparts := h.isPart hpoint
  have hordinary : ∀ s ∈ ordinary segments, IsPart s := fun s hs => hparts s (List.mem_filter.mp hs).1
  have hfull := matchesNames?_ofSegments h.segments_ne_nil hparts names
  have hshort := matchesNames?_ofSegments (ordinary_ne_nil h.segments_ne_nil h.last_ne) hordinary names
  have hreading : String.ofList (withoutAnyDepth (ofSegments segments).toList) =
      ofSegments (ordinary segments) := by
    rw [ofSegments, String.toList_ofList,
      withoutAnyDepth_slashed h.segments_ne_nil h.no_slash h.last_ne htidy]
    rfl
  have hreadings : ∀ q, q ∈ readings (ofSegments segments) ↔
      q = ofSegments segments ∨ q = ofSegments (ordinary segments) := by
    intro q
    rw [mem_readings_iff, hreading]
  rw [h.selects?_eq, anyMatches?_eq_true_iff]
  · simp only [hreadings, exists_eq_or_imp, exists_eq_left, hfull, hshort, Option.some.injEq,
      matchesEnd_iff]
    rfl
  · intro q hq
    rcases (hreadings q).mp hq with rfl | rfl
    · rw [hfull]
      exact Option.some_ne_none _
    · rw [hshort]
      exact Option.some_ne_none _

/-- No name is a point, so no path is meant by a pattern with a point for a segment. -/
theorem Expands.point_not_mem (h : Expands segments folders names)
    (hnames : ∀ n ∈ names, IsPart n.toList) : ['.'] ∉ segments := by
  induction h with
  | nil => simp
  | depth between rest ih =>
    rw [List.forall_mem_append] at hnames
    rw [List.mem_cons, not_or]
    exact ⟨by decide, ih hnames.2⟩
  | segment hs fits rest ih =>
    rw [List.forall_mem_cons] at hnames
    rw [List.mem_cons, not_or]
    refine ⟨?_, ih hnames.2⟩
    rintro rfl
    have hname := (fits_literal_iff (by decide) ⟨by decide, by decide⟩).mp fits
    apply hnames.1.ne_point
    rw [hname, String.toList_ofList]

theorem tidy_of_literal (h : ∀ s ∈ segments, s = anyDepth ∨ IsLiteral s) : Tidy segments := by
  intro s hs hsuffix
  refine (h s (List.dropLast_subset _ hs)).resolve_right fun hliteral => ?_
  exact hliteral.1 (hsuffix.subset (by decide))

/-- Names that literal segments fit are the segments themselves. -/
theorem forall₂_fits_literal_iff {parts : List (List Char)} (hclass : ∀ s ∈ parts, '[' ∉ s)
    (hliteral : ∀ s ∈ parts, IsLiteral s) :
    List.Forall₂ Fits (parts.map String.ofList) names ↔ names = parts.map String.ofList := by
  rw [List.forall₂_map_left_iff]
  induction parts generalizing names with
  | nil => simp
  | cons s parts ih =>
    rw [List.forall_mem_cons] at hclass hliteral
    cases names with
    | nil => simp
    | cons name names =>
      rw [List.forall₂_cons, ih hclass.2 hliteral.2, List.map_cons, List.cons.injEq, Fits,
        fits_literal_iff hclass.1 hliteral.1]

/-- For literal segments the second reading asks for their names, in a row, at the end of the path. -/
theorem reads_literal_iff {parts : List (List Char)} (hne : parts ≠ []) (hparts : ∀ s ∈ parts, '/' ∉ s)
    (hclass : ∀ s ∈ parts, '[' ∉ s) (hliteral : ∀ s ∈ parts, IsLiteral s) (hnames : names ≠ [])
    (hnoSlash : NoSlashes names) :
    Reads parts names ↔ ∃ before, names = before ++ parts.map String.ofList := by
  have hbracket := Path.not_mem_slashed (by decide) hclass
  have hstar := Path.not_mem_slashed (by decide) fun s hs => (hliteral s hs).1
  have hany := Path.not_mem_slashed (by decide) fun s hs => (hliteral s hs).2
  -- The whole text is the text of the segments only if the names are the segments.
  have hwhole : Glob.fits (ofSegments parts) (Path.text ⟨0, names⟩) = true ↔
      names = parts.map String.ofList := by
    rw [ofSegments, Glob.fits_iff hbracket, Glob.matches_literal_iff hstar hany,
      Path.toList_text hnames]
    constructor
    · intro htext
      have hpieces := pieces_slashed_names hnames hnoSlash
      rw [htext, Path.pieces_slashed hne hparts] at hpieces
      simp [hpieces]
    · rintro rfl
      simp
  rw [Reads, hwhole]
  simp only [forall₂_fits_literal_iff hclass hliteral, exists_eq_right]
  constructor
  · rintro (rfl | hcut)
    · exact ⟨[], rfl⟩
    · exact hcut
  · exact .inr

end GoMeter.Selection

namespace GoMeter

open GoMeter.Path (IsPart)
open Selection

/-- A pattern with `**` selects a path that it is meant for if some folder stands for each `**`, and
also if none does, save for a `**` that leads the pattern; for this no other segment may end in
`**`. A pattern without other wildcards selects nothing else, but for one folder for each `**`, or
none, anywhere in the path and not only at its start. -/
theorem anyDepth_selects {segments : List (List Char)} (h : IsDeep segments) :
    (∀ folders names, Expands segments folders names → (∀ n ∈ names, IsPart n.toList) →
      (∀ f ∈ folders, f ≠ []) ∨ Tidy segments ∧ ((∀ f ∈ folders, f = []) ∨
        segments.head? = some anyDepth ∧ ∀ f ∈ folders.tail, f = []) →
      selects? (ofSegments segments) ⟨0, names⟩ = some true) ∧
    ((∀ s ∈ segments, s = anyDepth ∨ IsLiteral s) → ['.'] ∉ segments →
      ∀ names, names ≠ [] → (∀ n ∈ names, IsPart n.toList) →
        (selects? (ofSegments segments) ⟨0, names⟩ = some true ↔
          (∃ folders, (∀ f ∈ folders, f ≠ []) ∧ Expands segments folders names) ∨
          (∃ before after, names = before ++ after ∧
            ∃ folders, (∀ f ∈ folders, f.length = 1) ∧ Expands segments folders after) ∨
          ∃ before, names = before ++ (ordinary segments).map String.ofList)) := by
  have hne := h.segments_ne_nil
  -- The test of the whole text, for names that are there.
  have htext : ∀ names : List String, names ≠ [] →
      (Glob.fits (ofSegments segments) (Path.text ⟨0, names⟩) = true ↔
        Glob.Matches ((Path.slashed segments).map Glob.Element.ofChar)
          (Path.slashed (names.map String.toList))) := by
    intro names hnames
    rw [h.fits_iff, Path.toList_text hnames]
  constructor
  · rintro folders names hexpands hparts (hsome | ⟨htidy, hnone⟩)
    · apply h.selects?_of_fits
      rw [htext names (hexpands.names_ne_nil hne hsome)]
      exact matches_of_expands hexpands h.no_class h.last_ne hsome
    · rw [h.selects?_iff_reads htidy (hexpands.point_not_mem hparts)]
      exact .inr (.inr (hexpands.exists_forall₂_ordinary hnone))
  · intro hliteral hpoint names hnames hparts
    have hnoSlash : NoSlashes names := fun n hn => (hparts n hn).no_slash
    have hordinary : ∀ s ∈ ordinary segments, s ∈ segments ∧ s ≠ anyDepth := by
      intro s hs
      simpa [ordinary] using hs
    have hsecond : Reads (ordinary segments) names ↔
        ∃ before, names = before ++ (ordinary segments).map String.ofList :=
      reads_literal_iff (ordinary_ne_nil hne h.last_ne)
        (fun s hs => h.no_slash s (hordinary s hs).1) (fun s hs => h.no_class s (hordinary s hs).1)
        (fun s hs => (hliteral s (hordinary s hs).1).resolve_left (hordinary s hs).2) hnames hnoSlash
    have hwhole : Glob.fits (ofSegments segments) (Path.text ⟨0, names⟩) = true ↔
        ∃ folders, (∀ f ∈ folders, f ≠ []) ∧ Expands segments folders names := by
      rw [htext names hnames]
      constructor
      · exact exists_expands_of_matches hne h.no_slash h.no_class h.last_ne hliteral hnames hnoSlash
      · rintro ⟨folders, hsome, hexpands⟩
        exact matches_of_expands hexpands h.no_class h.last_ne hsome
    rw [h.selects?_iff_reads (tidy_of_literal hliteral) hpoint, hsecond, Reads, hwhole, or_assoc]
    simp only [forall₂_fits_iff_expands]

/-- The segments of `a/**/b/**/c.go`. -/
def twoDepths : List (List Char) :=
  ["a".toList, anyDepth, "b".toList, anyDepth, "c.go".toList]

/-- With a folder for each `**` a path is selected, and with a folder for one of them only it is not,
although the pattern is meant for it. -/
theorem twoDepths_selected :
    selects? (ofSegments twoDepths) ⟨0, ["a", "x", "b", "y", "c.go"]⟩ = some true ∧
    Expands twoDepths [[], ["x"]] ["a", "b", "x", "c.go"] ∧
    selects? (ofSegments twoDepths) ⟨0, ["a", "b", "x", "c.go"]⟩ = some false := by
  have hdeep : IsDeep twoDepths :=
    ⟨by decide +kernel, by decide +kernel, by decide +kernel, by decide +kernel, by decide +kernel⟩
  have hboth : Expands twoDepths [["x"], ["y"]] ["a", "x", "b", "y", "c.go"] :=
    .segment (by decide) (by decide +kernel) <| .depth ["x"] <|
      .segment (by decide) (by decide +kernel) <| .depth ["y"] <|
        .segment (by decide) (by decide +kernel) .nil
  have hone : Expands twoDepths [[], ["x"]] ["a", "b", "x", "c.go"] :=
    .segment (by decide) (by decide +kernel) <| .depth [] <|
      .segment (by decide) (by decide +kernel) <| .depth ["x"] <|
        .segment (by decide) (by decide +kernel) .nil
  have hparts : ∀ n ∈ ["a", "x", "b", "y", "c.go"], IsPart n.toList := by
    have hall : ∀ n ∈ ["a", "x", "b", "y", "c.go"],
        n.toList ≠ [] ∧ '/' ∉ n.toList ∧ n.toList ≠ ['.'] := by decide +kernel
    exact fun n hn => ⟨(hall n hn).1, (hall n hn).2.1, (hall n hn).2.2⟩
  refine ⟨(anyDepth_selects hdeep).1 _ _ hboth hparts (.inl (by decide)), hone, ?_⟩
  decide +kernel

end GoMeter
