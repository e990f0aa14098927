import GoMeter.Proofs.Discovery
import Mathlib.Data.Set.Basic

/-!
# How the files of a search depend on its patterns

Two searches of the same targets are compared that differ in their patterns or in whether tests are
wanted. As long as neither has as many files as it may have, all that counts is which places their
targets offer, and this is a matter of sets: the order of patterns and repetitions play no part,
more exclude patterns leave fewer places, and more include patterns leave more. A hollow pattern may
end either search, so that a pattern in front of it or behind it makes a difference after all.

* `Found.addTarget_atLeastOne`: a limit below one is a limit of one.
* `Discovery.Ends`, `Discovery.ends_iff`: a search that comes to its end before the limit, and all
  that it finds then.
* `Filter.Within`, `Discovery.placesOf_subset`: one filter lets through what another does, so the places
  found are among the other's.
* `discovered_places_monotone`: what changes of the patterns do to the places found.
-/

namespace GoMeter

/-! ## The limit -/

/-- A configuration whose limit is at least one. -/
def Config.atLeastOne (c : Config) : Config := { c with maxFiles := max 1 c.maxFiles }

namespace Found

variable (fs : FileSystem) (c : Config)

/-- The limit is looked at after a file has been found, so a lower limit than one has no effect of its
own. -/
theorem add_atLeastOne (f : Found) (p : Path) (withTests : Bool) :
    f.add fs c.atLeastOne p withTests = f.add fs c p withTests := by
  have hlimit : c.atLeastOne.maxFiles ≤ (f.files ++ [p]).length ↔
      c.maxFiles ≤ (f.files ++ [p]).length := by
    show max 1 c.maxFiles ≤ _ ↔ _
    rw [List.length_append, List.length_singleton]
    omega
  simp only [add, hlimit]

theorem addTarget_atLeastOne (filter : Filter) :
    addTarget fs c.atLeastOne filter = addTarget fs c filter := by
  funext f target
  simp only [addTarget, add_atLeastOne]
  rfl

end Found

namespace Discovery

variable {fs : FileSystem} {c c' : Config} {root : Path} {targets files files' : List Path}
  {filter filter' : Filter}

/-- The message that there are as many files as there may be. -/
def limitWarning (c : Config) : Message :=
  ⟨.warning, .discovery, "Reached max_files=" ++ Decimal.text c.maxFiles ++ "; remaining files skipped."⟩

/-- A search comes to its end with some files, before there are as many as there may be. -/
structure Ends (fs : FileSystem) (root : Path) (c : Config) (targets files : List Path) : Prop where
  result_eq : (discover fs root c targets).outcome.result = .ok files
  below_limit : limitWarning c ∉ (discover fs root c targets).outcome.messages

/-- What is said about ignore rules is not about the limit. -/
theorem limitWarning_not_mem_ofConfig (fs : FileSystem) (root : Path) (c : Config) :
    limitWarning c ∉ (Filter.ofConfig fs root c).outcome.messages := by
  have hsame : (Filter.ofConfig fs root c).outcome.messages =
      (Filter.ignoreRules fs root).outcome.messages := by
    rw [Filter.ofConfig, Attempt.outcome_bind]
    cases (Filter.ignoreRules fs root).outcome.result <;> simp
  rw [hsame, Filter.ignoreRules]
  split
  · simp
  split
  · intro hmem
    simp only [Attempt.outcome_map, Attempt.outcome_lift, bind_pure_comp, Logged.say,
      List.mem_singleton, limitWarning, Message.mk.injEq, true_and] at hmem
    simpa using congrArg (fun text : String => text.toList.head?) hmem
  · simp

theorem completes_of_answers (h : ∀ target ∈ targets, filter.Answers fs target) :
    filter.Completes fs c targets := by
  rintro before target after rfl
  exact .inr (h target List.mem_append_cons_self)

/-- The targets, all together, whatever the limit is. -/
theorem foldlM_targets_iff {found : Found} :
    targets.foldlM (Found.addTarget fs c filter) Found.none = .ok found ↔
      filter.Completes fs c.atLeastOne targets ∧
        found = Found.ofPaths fs c.atLeastOne.maxFiles (targets.flatMap (candidates fs c filter)) := by
  rw [← Found.addTarget_atLeastOne]
  exact foldlM_targets_eq_ok_iff (le_max_left 1 c.maxFiles)

/-- What comes of a search, with what it says. -/
theorem outcome_discover {found : Found}
    (hfilter : (Filter.ofConfig fs root c).outcome.result = .ok filter)
    (hfound : (targetsOf root targets).foldlM (Found.addTarget fs c filter) Found.none = .ok found) :
    (discover fs root c targets).outcome = ⟨.ok found.files,
      (Filter.ofConfig fs root c).outcome.messages ++
        if found.isFull then [limitWarning c] else []⟩ := by
  rw [targetsOf] at hfound
  rw [discover, Attempt.outcome_bind, hfilter]
  simp only [Attempt.outcome_bind, Attempt.outcome_ofExcept, hfound]
  split <;> simp [Logged.say, limitWarning, Except.map]

/-- What a search with a result went through. -/
theorem exists_found_of_discover (h : (discover fs root c targets).outcome.result = .ok files) :
    ∃ filter found, (Filter.ofConfig fs root c).outcome.result = .ok filter ∧
      (targetsOf root targets).foldlM (Found.addTarget fs c filter) Found.none = .ok found := by
  obtain ⟨filter, hfilter, h⟩ := Attempt.exists_of_bind_ok h
  obtain ⟨found, hfound, -⟩ := Attempt.exists_of_bind_ok h
  exact ⟨filter, found, hfilter, hfound⟩

theorem length_listed_le (fs : FileSystem) (c : Config) (filter : Filter) (before after : List Path) :
    (listed fs c filter before).length ≤ (listed fs c filter (before ++ after)).length := by
  rw [listed, listed, List.flatMap_append, firstsBy_append, List.length_append]
  exact Nat.le_add_right _ _

/-- A search ends before its limit if the filter has all answers and the targets offer fewer files than
there may be; then all of them are found. -/
theorem ends_iff :
    Ends fs root c targets files ↔
      ∃ filter, (Filter.ofConfig fs root c).outcome.result = .ok filter ∧
        (∀ target ∈ targetsOf root targets, filter.Answers fs target) ∧
        (listed fs c filter (targetsOf root targets)).length < max 1 c.maxFiles ∧
        files = listed fs c filter (targetsOf root targets) := by
  constructor
  · rintro ⟨hresult, hlimit⟩
    obtain ⟨filter, found, hfilter, hfound⟩ := exists_found_of_discover hresult
    rw [outcome_discover hfilter hfound] at hresult hlimit
    obtain ⟨hcompletes, rfl⟩ := foldlM_targets_iff.mp hfound
    have hfew : (listed fs c filter (targetsOf root targets)).length < max 1 c.maxFiles := by
      by_contra hfull
      refine hlimit (List.mem_append_right _ ?_)
      rw [Found.isFull_ofPaths, if_pos]
      · exact List.mem_singleton_self _
      · exact decide_eq_true (not_lt.mp hfull)
    refine ⟨filter, hfilter, fun target htarget => ?_, hfew, ?_⟩
    · obtain ⟨before, after, hsplit⟩ := List.append_of_mem htarget
      refine (hcompletes before target after hsplit).resolve_left fun hfull => ?_
      have hle := length_listed_le fs c filter before (target :: after)
      rw [← hsplit] at hle
      exact absurd (Int.le_trans hfull (Int.ofNat_le.mpr hle)) (not_le.mpr hfew)
    · have hfiles := Found.files_ofPaths (Int.le_of_lt hfew)
      exact (Except.ok.inj hresult).symm.trans hfiles
  · rintro ⟨filter, hfilter, hanswers, hfew, rfl⟩
    have houtcome := outcome_discover hfilter
      (foldlM_targets_iff.mpr ⟨completes_of_answers hanswers, rfl⟩)
    constructor
    · rw [houtcome]
      exact congrArg Except.ok (Found.files_ofPaths (Int.le_of_lt hfew))
    · rw [houtcome, Found.isFull_ofPaths, if_neg, List.append_nil]
      · exact limitWarning_not_mem_ofConfig fs root c
      · exact fun hfull => absurd (of_decide_eq_true hfull) (not_le.mpr hfew)

end Discovery

/-! ## What a filter lets through -/

namespace Filter

open Discovery

variable {fs : FileSystem} {root : Path} {c c' : Config} {f f' : Filter}

theorem patterns_subset {given given' : List String} (h : given ⊆ given') :
    patterns given ⊆ patterns given' := by
  intro s hs
  rw [patterns, List.mem_filter] at hs ⊢
  exact ⟨List.map_subset _ h hs.1, hs.2⟩

/-- The filters of two configurations have the same folder and the same ignore rules. -/
theorem ofConfig_other (h : (ofConfig fs root c).outcome.result = .ok f) (c' : Config) :
    f.includes = patterns (asked c) ∧ f.excludes = patterns c.excluded ∧
      (ofConfig fs root c').outcome.result =
        .ok { f with includes := patterns (asked c'), excludes := patterns c'.excluded } := by
  obtain ⟨rules, hrules, h⟩ := Attempt.exists_of_bind_ok h
  obtain ⟨place, hplace, h⟩ := Attempt.exists_of_bind_ok h
  cases h
  refine ⟨rfl, rfl, ?_⟩
  exact Attempt.bind_eq_ok_iff.mpr ⟨rules, hrules, Attempt.bind_eq_ok_iff.mpr ⟨place, hplace, rfl⟩⟩

/-- A filter lets through no more than another one: it has the exclude patterns of the other, and its
include patterns are among those of the other, unless the other has none and includes everything. -/
structure Within (f f' : Filter) : Prop where
  root_eq : f'.root = f.root
  rules_eq : f'.rules = f.rules
  includes : f'.includes = [] ∨ f.includes ≠ [] ∧ f.includes ⊆ f'.includes
  excludes : f'.excludes ⊆ f.excludes

theorem Within.admits (h : f.Within f') {p : Path} (hp : f.admits fs p) : f'.admits fs p := by
  unfold Filter.admits within at hp ⊢
  rw [h.root_eq, h.rules_eq]
  rw [Option.any_eq_true] at hp ⊢
  obtain ⟨place, hplace, hp⟩ := hp
  refine ⟨place, hplace, ?_⟩
  simp only [Bool.and_eq_true, Bool.or_eq_true, Bool.not_eq_true', List.isEmpty_iff, List.any_eq_true,
    List.any_eq_false] at hp ⊢
  obtain ⟨⟨⟨hroot, hincluded⟩, hexcluded⟩, hrules⟩ := hp
  refine ⟨⟨⟨hroot, ?_⟩, fun s hs => hexcluded s (h.excludes hs)⟩, hrules⟩
  rcases h.includes with hall | ⟨hsome, hsubset⟩
  · exact .inl hall
  · obtain ⟨s, hs, hselects⟩ := hincluded.resolve_left hsome
    exact .inr ⟨s, hsubset hs, hselects⟩

/-- A filter that has an answer for a path has it because the path leads somewhere. -/
theorem exists_resolve_of_takes {p : Path} {b : Bool} (h : f.takes fs p = .ok b) :
    ∃ place, fs.resolve p = some place := by
  obtain ⟨place, hplace, -⟩ := exists_of_bind_ok h
  exact ⟨place, placeOf_eq_ok_iff.mp hplace⟩

/-- Where one filter has its answers, another has them too, unless one of its patterns is hollow. -/
theorem Answers.other {target : Path} (h : f.Answers fs target)
    (hhollow : ∀ s ∈ f'.includes ++ f'.excludes, ¬ Selection.IsHollow s) : f'.Answers fs target := by
  intro hfolder p hp
  obtain ⟨b, hb⟩ := h hfolder p hp
  exact exists_takes hhollow (exists_resolve_of_takes hb)

end Filter

/-! ## The places found -/

namespace Discovery

open GoMeter.Filter

variable {fs : FileSystem} {c c' : Config} {root : Path} {targets files files' : List Path}
  {filter filter' : Filter}

/-- The places that some paths lead to. -/
def placesOf (fs : FileSystem) (files : List Path) : Set Place :=
  {place | ∃ p ∈ files, fs.resolve p = some place}

/-- To keep the first of the paths to a file is to keep its place. -/
theorem mem_placesOf_listed {place : Place} :
    place ∈ placesOf fs (listed fs c filter targets) ↔
      ∃ target ∈ targets, ∃ p ∈ candidates fs c filter target, fs.resolve p = some place := by
  constructor
  · rintro ⟨p, hp, hplace⟩
    obtain ⟨target, htarget, hp⟩ := List.mem_flatMap.mp (mem_of_mem_firstsBy fs.resolve hp)
    exact ⟨target, htarget, p, hp, hplace⟩
  · rintro ⟨target, htarget, p, hp, hplace⟩
    obtain ⟨q, hq, hsame⟩ := exists_mem_firstsBy fs.resolve (List.mem_flatMap.mpr ⟨target, htarget, hp⟩)
    exact ⟨q, hq, hsame.trans hplace⟩

theorem isGoFile_mono {p : Path} {b b' : Bool} (hb : b = true → b' = true) (h : isGoFile fs p b) :
    isGoFile fs p b' := by
  cases b <;> cases b' <;> simp_all [isGoFile]

/-- A target offers no fewer candidates to a filter that lets more through. -/
theorem candidates_subset (hfilter : filter.Within filter')
    (htests : c.includeTests = true → c'.includeTests = true) (target : Path) :
    candidates fs c filter target ⊆ candidates fs c' filter' target := by
  intro p hp
  rw [candidates, List.mem_filter] at hp ⊢
  constructor
  · have hoffered := hp.1
    unfold offered at hoffered ⊢
    split_ifs at hoffered ⊢ with hfolder
    · rw [List.mem_mergeSort, List.mem_filter] at hoffered ⊢
      exact ⟨hoffered.1, hfilter.admits hoffered.2⟩
    · exact hoffered
  · refine isGoFile_mono ?_ hp.2
    simp only [Bool.or_eq_true]
    exact Or.imp_left htests

/-- A configuration asks for no more than another one. -/
structure Narrower (c c' : Config) : Prop where
  tests : c.includeTests = true → c'.includeTests = true
  included : patterns (asked c') = [] ∨
    patterns (asked c) ≠ [] ∧ patterns (asked c) ⊆ patterns (asked c')
  excluded : c'.excluded ⊆ c.excluded

/-- The places found for a configuration that asks for less are among those of the other. -/
theorem placesOf_subset (h : Narrower c c') (hends : Ends fs root c targets files)
    (hends' : Ends fs root c' targets files') : placesOf fs files ⊆ placesOf fs files' := by
  obtain ⟨f, hf, -, -, rfl⟩ := ends_iff.mp hends
  obtain ⟨f', hf', -, -, rfl⟩ := ends_iff.mp hends'
  obtain ⟨hincludes, hexcludes, hother⟩ := ofConfig_other hf c'
  have hwithin : f.Within f' := by
    cases hother.symm.trans hf'
    refine ⟨rfl, rfl, ?_, ?_⟩
    · rw [hincludes]
      exact h.included
    · rw [hexcludes]
      exact patterns_subset h.excluded
  intro place hplace
  obtain ⟨target, htarget, p, hp, hresolve⟩ := mem_placesOf_listed.mp hplace
  exact mem_placesOf_listed.mpr
    ⟨target, htarget, p, candidates_subset hwithin h.tests target hp, hresolve⟩

/-- A search returns if its filter has all answers. -/
theorem returns_of_answers (hfilter : (Filter.ofConfig fs root c).outcome.result = .ok filter)
    (hanswers : ∀ target ∈ targetsOf root targets, filter.Answers fs target) :
    (discover fs root c targets).Returns := by
  have houtcome := outcome_discover hfilter
    (foldlM_targets_iff.mpr ⟨completes_of_answers hanswers, rfl⟩)
  exact ⟨_, congrArg Logged.result houtcome⟩

/-- The same include patterns, in any order and number, ask for the same. -/
theorem included_of_same {includes includes' : List String} (h : ∀ s, s ∈ includes ↔ s ∈ includes') :
    patterns includes' = [] ∨ patterns includes ≠ [] ∧ patterns includes ⊆ patterns includes' := by
  have hsubset : patterns includes ⊆ patterns includes' := patterns_subset fun s => (h s).mp
  have hsubset' : patterns includes' ⊆ patterns includes := patterns_subset fun s => (h s).mpr
  by_cases hnil : patterns includes' = []
  · exact .inl hnil
  · refine .inr ⟨?_, hsubset⟩
    intro hempty
    rw [hempty] at hsubset'
    exact hnil (List.subset_nil.mp hsubset')

/-- Configurations with the same patterns, in any order and number, ask for the same. -/
theorem narrower_of_same {includes excludes : List String}
    (hincludes : ∀ s, s ∈ includes ↔ s ∈ c.included)
    (hexcludes : ∀ s, s ∈ excludes ↔ s ∈ c.excluded) :
    Narrower { c with included := includes, excluded := excludes } c ∧
      Narrower c { c with included := includes, excluded := excludes } := by
  have hempty : includes.isEmpty = c.included.isEmpty := by
    rw [Bool.eq_iff_iff, List.isEmpty_iff, List.isEmpty_iff, List.eq_nil_iff_forall_not_mem,
      List.eq_nil_iff_forall_not_mem]
    exact forall_congr' fun s => not_congr (hincludes s)
  have hasked : ∀ s, s ∈ asked { c with included := includes, excluded := excludes } ↔ s ∈ asked c := by
    intro s
    simp only [asked, hempty]
    split
    · rfl
    · exact hincludes s
  exact ⟨⟨id, included_of_same hasked, fun s => (hexcludes s).mpr⟩,
    ⟨id, included_of_same fun s => (hasked s).symm, fun s => (hexcludes s).mp⟩⟩

/-- A further exclude pattern asks for less. -/
theorem narrower_of_more_excludes {excludes : List String} (h : c.excluded ⊆ excludes) :
    Narrower { c with excluded := excludes } c :=
  ⟨id, included_of_same fun _ => Iff.rfl, h⟩

theorem narrower_without_tests (c : Config) : Narrower { c with includeTests := false } c :=
  ⟨fun h => absurd h Bool.false_ne_true, included_of_same fun _ => Iff.rfl, List.Subset.refl _⟩

/-- A further include pattern asks for more, if there was one that selects something. -/
theorem narrower_of_more_includes {includes : List String} (h : c.included ⊆ includes)
    (hsome : ∃ s ∈ c.included, Selection.normalize s ≠ "") :
    Narrower c { c with included := includes } := by
  obtain ⟨s, hs, hnormal⟩ := hsome
  have hasked : asked c = c.included := if_neg (by simpa using List.ne_nil_of_mem hs)
  have hasked' : asked { c with included := includes } = includes :=
    if_neg (by simpa using List.ne_nil_of_mem (h hs))
  have hmem : Selection.normalize s ∈ patterns c.included :=
    List.mem_filter.mpr ⟨List.mem_map_of_mem hs, by simpa using hnormal⟩
  refine ⟨id, .inr ?_, List.Subset.refl _⟩
  rw [hasked, hasked']
  exact ⟨List.ne_nil_of_mem hmem, patterns_subset h⟩

end Discovery

open Discovery GoMeter.Filter

/-- The places that a search finds, where the limit plays no part, depend on the sets of its
patterns only. They become fewer with further exclude patterns, and without tests, and more with
further include patterns besides one that selects something. Other patterns let the search return as
before, unless one of them is hollow. -/
theorem discovered_places_monotone {fs : FileSystem} {root : Path} {c : Config}
    {targets files : List Path} (h : Ends fs root c targets files) :
    (∀ includes excludes files', (∀ s, s ∈ includes ↔ s ∈ c.included) →
      (∀ s, s ∈ excludes ↔ s ∈ c.excluded) →
      Ends fs root { c with included := includes, excluded := excludes } targets files' →
      placesOf fs files' = placesOf fs files) ∧
    (∀ excludes files', c.excluded ⊆ excludes →
      Ends fs root { c with excluded := excludes } targets files' →
      placesOf fs files' ⊆ placesOf fs files) ∧
    ((discover fs root { c with includeTests := false } targets).Returns ∧
      ∀ files', Ends fs root { c with includeTests := false } targets files' →
        placesOf fs files' ⊆ placesOf fs files) ∧
    (∀ includes files', c.included ⊆ includes → (∃ s ∈ c.included, Selection.normalize s ≠ "") →
      Ends fs root { c with included := includes } targets files' →
      placesOf fs files ⊆ placesOf fs files') ∧
    ∀ c' : Config, (∀ s ∈ patterns (asked c') ++ patterns c'.excluded, ¬ Selection.IsHollow s) →
      (discover fs root c' targets).Returns := by
  obtain ⟨filter, hfilter, hanswers, -, -⟩ := ends_iff.mp h
  refine ⟨?_, ?_, ⟨?_, ?_⟩, ?_, ?_⟩
  · intro includes excludes files' hincludes hexcludes h'
    obtain ⟨hback, hforth⟩ := narrower_of_same hincludes hexcludes
    exact Set.Subset.antisymm (placesOf_subset hback h' h) (placesOf_subset hforth h h')
  · intro excludes files' hexcludes h'
    exact placesOf_subset (narrower_of_more_excludes hexcludes) h' h
  · exact returns_of_answers hfilter hanswers
  · intro files' h'
    exact placesOf_subset (narrower_without_tests c) h' h
  · intro includes files' hincludes hsome h'
    exact placesOf_subset (narrower_of_more_includes hincludes hsome) h h'
  · intro c' hhollow
    obtain ⟨-, -, hother⟩ := ofConfig_other hfilter c'
    exact returns_of_answers hother fun target htarget => (hanswers target htarget).other hhollow

theorem goPaths_oneFile : oneFile.isFolder ⟨0, []⟩ = true ∧
    goPaths oneFile ⟨0, []⟩ = [⟨0, ["a.go"]⟩] := by
  have hfind : oneFile.find ⟨0, []⟩ = .ok [] := by
    rw [FileSystem.find, FileSystem.walk]
    rfl
  rw [goPaths, FileSystem.isFolder, FileSystem.target?, FileSystem.descendants, hfind]
  exact ⟨rfl, by decide +kernel⟩

/-- The one file is found if the filter takes it. -/
theorem ends_oneFile {c : Config} {b : Bool} (hmax : 1 < c.maxFiles) (htests : c.includeTests = true)
    (h : (unruled [] c).takes oneFile ⟨0, ["a.go"]⟩ = .ok b) :
    Ends oneFile ⟨0, []⟩ c [] (if b then [⟨0, ["a.go"]⟩] else []) := by
  obtain ⟨hfolder, hpaths⟩ := goPaths_oneFile
  have hlisted : listed oneFile c (unruled [] c) [⟨0, []⟩] =
      if b then [⟨0, ["a.go"]⟩] else [] := by
    have hgo := isGoFile_oneFile ⟨0, ["a.go"]⟩ (by simp)
    rw [listed, List.flatMap_singleton, candidates_of_isFolder hfolder, hpaths, htests,
      List.filter_singleton, ← eq_admits_of_takes h]
    cases b <;> simp [hgo, firstsBy]
  refine ends_iff.mpr ⟨_, ofConfig_oneFile c, ?_, ?_, hlisted.symm⟩
  · intro target htarget _ p hp
    obtain rfl := List.mem_singleton.mp htarget
    rw [hpaths, List.mem_singleton] at hp
    exact ⟨b, hp ▸ h⟩
  · show ((listed oneFile c (unruled [] c) [⟨0, []⟩]).length : Int) < max 1 c.maxFiles
    have hone : (if b then [⟨0, ["a.go"]⟩] else [] : List Path).length ≤ 1 := by cases b <;> decide
    rw [hlisted]
    omega

/-- A further exclude pattern leaves the folder without a file. -/
theorem oneFile_excluded :
    Ends oneFile ⟨0, []⟩ .default [] [⟨0, ["a.go"]⟩] ∧
      Ends oneFile ⟨0, []⟩
        { Config.default with excluded := ["vendor", "a.go", "testdata", ".git"] } [] [] ∧
      placesOf oneFile [] ⊆ placesOf oneFile [⟨0, ["a.go"]⟩] := by
  have hplace : placeOf oneFile ⟨0, ["a.go"]⟩ = .ok ["a.go"] :=
    placeOf_eq_ok_iff.mpr (FileSystem.resolve_of_find (FileSystem.find_file (by decide) rfl))
  have hwith : Ends oneFile ⟨0, []⟩ .default [] [⟨0, ["a.go"]⟩] := by
    refine ends_oneFile (b := true) (by decide) rfl ?_
    rw [takes, hplace]
    decide +kernel
  have hwithout : Ends oneFile ⟨0, []⟩
      { Config.default with excluded := ["vendor", "a.go", "testdata", ".git"] } [] [] := by
    refine ends_oneFile (b := false) (by decide) rfl ?_
    rw [takes, hplace]
    decide +kernel
  refine ⟨hwith, hwithout, (discovered_places_monotone hwith).2.1 _ _ ?_ hwithout⟩
  decide

/-- A hollow pattern ends the search for a path that the pattern after it selects, but not for one
that the pattern before it selects. -/
example : anySelects (.ofText "a.go") (patterns [".", "**/**/."]) = .ok true ∧
    anySelects (.ofText "a.go") (patterns ["**/**/.", "."]) = .error .emptyPattern := by
  decide +kernel

end GoMeter
