import GoMeter.Discovery
import GoMeter.Proofs.FileSystem
import GoMeter.Proofs.Outcome
import Mathlib.Data.List.Infix
import Mathlib.Data.List.Lex
import Mathlib.Data.String.Basic

/-!
# What the search for files finds

The search goes from target to target, keeps a set of the places it has seen, and stops when it has as
many files as it may have. What it finds can be said without any of that: all targets offer their paths,
the Go files among them are kept, of the paths to one file the first is kept, and of the whole list the
first ones are taken.

* `firstsBy`: the first member of a list for every key.
* `Filter.admits`: whether a path below a folder passes the patterns and the ignore rules.
* `Discovery.candidates`, `Discovery.listed`: what one target and what several targets come to.
* `Filter.Answers`, `Filter.Completes`: the filter has the answers that a search needs; it has if no
  pattern is hollow and all links end.
* `Found.add_ofPaths`, `Found.addTarget_eq_ok_iff`, `Found.foldlM_addTarget_eq_ok_iff`: one path, one
  target and all targets.
* `Finds`: what a search has found.
* `discover_lists_first_files`: the files of a run.
-/

namespace GoMeter

/-! ## The first member for every key -/

section Firsts

variable {α β : Type} [DecidableEq β] (key : α → β)

/-- The members of a list without those whose key an earlier member has. -/
def firstsBy : List α → List α
  | [] => []
  | a :: rest => a :: (firstsBy rest).filter fun b => key b ≠ key a

theorem firstsBy_append (as bs : List α) :
    firstsBy key (as ++ bs) =
      firstsBy key as ++ (firstsBy key bs).filter fun b => key b ∉ as.map key := by
  induction as with
  | nil => simp [firstsBy]
  | cons a as ih =>
    simp only [List.cons_append, firstsBy, ih, List.filter_append, List.filter_filter, List.map_cons,
      List.mem_cons, not_or, Bool.decide_and]

theorem mem_of_mem_firstsBy {as : List α} {a : α} (h : a ∈ firstsBy key as) : a ∈ as := by
  induction as with
  | nil => exact h
  | cons b as ih =>
    rcases List.mem_cons.mp h with rfl | h
    · exact List.mem_cons_self
    · exact List.mem_cons_of_mem _ (ih (List.mem_filter.mp h).1)

/-- Every key of a list is found again. -/
theorem exists_mem_firstsBy {as : List α} {a : α} (h : a ∈ as) :
    ∃ b ∈ firstsBy key as, key b = key a := by
  induction as with
  | nil => cases h
  | cons b as ih =>
    by_cases hsame : key b = key a
    · exact ⟨b, List.mem_cons_self, hsame⟩
    · rcases List.mem_cons.mp h with rfl | h
      · exact absurd rfl hsame
      · obtain ⟨c, hc, hkey⟩ := ih h
        refine ⟨c, List.mem_cons_of_mem _ (List.mem_filter.mpr ⟨hc, ?_⟩), hkey⟩
        simpa [hkey] using Ne.symm hsame

theorem pairwise_firstsBy (as : List α) : (firstsBy key as).Pairwise fun a b => key a ≠ key b := by
  induction as with
  | nil => exact .nil
  | cons a as ih =>
    refine .cons (fun b hb => ?_) (ih.filter _)
    have hne := of_decide_eq_true (List.mem_filter.mp hb).2
    exact Ne.symm hne

end Firsts

/-! ## What passes the filter -/

namespace Selection

/-- A pattern that is left without names when `**/` stands for nothing. -/
def IsHollow (pattern : String) : Prop :=
  ∃ reading ∈ readings pattern,
    (Path.ofText reading).isAbsolute = false ∧ (Path.ofText reading).names = []

theorem anyMatches?_ne_none {p : Path} {patterns : List String}
    (h : ∀ s ∈ patterns, ¬ ((Path.ofText s).isAbsolute = false ∧ (Path.ofText s).names = [])) :
    anyMatches? p patterns ≠ none := by
  induction patterns with
  | nil => simp [anyMatches?]
  | cons s rest ih =>
    rw [List.forall_mem_cons] at h
    have hnames : matchesNames? (.ofText s) p ≠ none := by
      unfold matchesNames?
      split_ifs <;> simp_all
    rw [anyMatches?]
    split_ifs
    · exact Option.some_ne_none _
    · split
      · next hnone => exact absurd hnone hnames
      · exact Option.some_ne_none _
      · exact ih h.2

theorem selects?_ne_none {pattern : String} (h : ¬ IsHollow pattern) (p : Path) :
    selects? pattern p ≠ none := by
  unfold selects?
  split_ifs
  · exact Option.some_ne_none _
  · exact anyMatches?_ne_none fun s hs hhollow => h ⟨s, hs, hhollow⟩
  · exact Option.some_ne_none _

end Selection

theorem Discovery.placeOf_eq_ok_iff {fs : FileSystem} {p : Path} {place : Place} :
    placeOf fs p = .ok place ↔ fs.resolve p = some place := by
  unfold placeOf
  cases fs.resolve p <;> simp

namespace Filter

open Discovery

variable (f : Filter) (fs : FileSystem)

/-- The path of a place from the analysed folder on. -/
def within (place : Place) : Path := ⟨0, place.drop f.root.length⟩

/-- Whether a path below a folder is taken. It leads to a place in the analysed folder that one of the
include patterns selects, if there are any, that none of the exclude patterns selects, and that the
ignore rules do not name. -/
def admits (p : Path) : Bool :=
  (fs.resolve p).any fun place =>
    f.root.isPrefixOf place &&
      (f.includes.isEmpty ||
        f.includes.any fun s => Selection.selects? s (f.within place) = some true) &&
      !(f.excludes.any fun s => Selection.selects? s (f.within place) = some true) &&
      !Ignore.ignores f.rules (f.within place).text

theorem eq_any_of_anySelects {p : Path} {patterns : List String} {b : Bool}
    (h : anySelects p patterns = .ok b) :
    b = patterns.any fun s => Selection.selects? s p = some true := by
  induction patterns with
  | nil =>
    cases h
    rfl
  | cons s rest ih =>
    rw [anySelects] at h
    cases hs : Selection.selects? s p with
    | none => simp [hs] at h
    | some selected =>
      cases selected with
      | true => simp_all
      | false =>
        rw [hs] at h
        simpa [hs] using ih h

/-- Patterns that are not hollow have an answer for every path. -/
theorem exists_anySelects {patterns : List String} (h : ∀ s ∈ patterns, ¬ Selection.IsHollow s)
    (p : Path) : ∃ b, anySelects p patterns = .ok b := by
  induction patterns with
  | nil => exact ⟨false, rfl⟩
  | cons s rest ih =>
    rw [List.forall_mem_cons] at h
    rw [anySelects]
    split
    · next hnone => exact absurd hnone (Selection.selects?_ne_none h.1 p)
    · exact ⟨true, rfl⟩
    · exact ih h.2

variable {f fs}

/-- What is selected is taken unless it is excluded or ignored. -/
theorem eq_of_selected {rel : Path} {selected b : Bool}
    (h : (if !selected then pure false
      else do
        let dropped ← anySelects rel f.excludes
        pure (!dropped && !Ignore.ignores f.rules rel.text) : Except DiscoveryFault Bool) = .ok b) :
    b = (selected && !(f.excludes.any fun s => Selection.selects? s rel = some true) &&
      !Ignore.ignores f.rules rel.text) := by
  cases selected with
  | false =>
    cases h
    rfl
  | true =>
    obtain ⟨dropped, hdropped, h⟩ := exists_of_bind_ok h
    cases h
    rw [eq_any_of_anySelects hdropped, Bool.true_and]

/-- An answer of the filter is the right one. -/
theorem eq_admits_of_takes {p : Path} {b : Bool} (h : f.takes fs p = .ok b) : b = f.admits fs p := by
  obtain ⟨place, hplace, h⟩ := exists_of_bind_ok h
  unfold admits
  rw [placeOf_eq_ok_iff.mp hplace, Option.any_some]
  split at h
  · next houtside =>
    cases h
    simp_all
  · next hinside =>
    have hroot : f.root.isPrefixOf place = true := by simpa using hinside
    rw [hroot, Bool.true_and]
    simp only at h
    split at h
    · next hnone =>
      rw [hnone, Bool.true_or]
      exact eq_of_selected h
    · next hsome =>
      obtain ⟨selected, hselected, h⟩ := exists_of_bind_ok h
      rw [Bool.eq_false_iff.mpr hsome, Bool.false_or, within, ← eq_any_of_anySelects hselected]
      exact eq_of_selected h

/-- Without hollow patterns there is an answer for every path that leads somewhere. -/
theorem exists_takes (h : ∀ s ∈ f.includes ++ f.excludes, ¬ Selection.IsHollow s) {p : Path}
    (hp : ∃ place, fs.resolve p = some place) : ∃ b, f.takes fs p = .ok b := by
  rw [List.forall_mem_append] at h
  obtain ⟨place, hplace⟩ := hp
  obtain ⟨selected, hselected⟩ := exists_anySelects h.1 (f.within place)
  obtain ⟨dropped, hdropped⟩ := exists_anySelects h.2 (f.within place)
  rw [within] at hselected hdropped
  simp only [takes, placeOf_eq_ok_iff.mpr hplace, bind, Except.bind, hselected, hdropped, pure,
    Except.pure]
  split_ifs <;> exact ⟨_, rfl⟩

theorem filterM_takes_eq_ok_iff {ps taken : List Path} :
    ps.filterM (f.takes fs) = .ok taken ↔
      (∀ p ∈ ps, ∃ b, f.takes fs p = .ok b) ∧ taken = ps.filter (f.admits fs) := by
  rw [filterM_eq_ok_iff]
  refine and_congr_right fun hall => ?_
  have hsame : ∀ p ∈ ps, ((f.takes fs p).toOption == some true) = f.admits fs p := by
    intro p hp
    obtain ⟨b, hb⟩ := hall p hp
    rw [hb, ← eq_admits_of_takes hb]
    cases b <;> rfl
  rw [List.filter_congr hsame]

end Filter

/-! ## What the targets offer -/

namespace Discovery

variable (fs : FileSystem) (c : Config) (filter : Filter)

/-- The paths below a folder that end as Go files do. -/
def goPaths (target : Path) : List Path :=
  (fs.descendants target).filter fun p => goSuffix.toList.isSuffixOf p.name.toList

/-- The paths that a target offers: a folder those below it that pass the filter, in their order, and
anything else itself. -/
def offered (target : Path) : List Path :=
  if fs.isFolder target then ((goPaths fs target).filter (filter.admits fs)).mergeSort Path.le
  else [target]

/-- Whether a path that a target offers is wanted. Tests may be unwanted, but not as a target. -/
def isWanted (target p : Path) : Bool := isGoFile fs p (c.includeTests || p == target)

/-- The Go files that a target offers. -/
def candidates (target : Path) : List Path := (offered fs filter target).filter (isWanted fs c target)

/-- The Go files that all targets offer, each by the first path to it. -/
def listed (targets : List Path) : List Path :=
  firstsBy fs.resolve (targets.flatMap (candidates fs c filter))

/-- The targets of a run; without any, the analysed folder. -/
def targetsOf (root : Path) (targets : List Path) : List Path :=
  if targets.isEmpty then [root] else targets

variable {fs c filter} {target : Path}

/-- The candidates of a folder are wanted as the configuration says. -/
theorem candidates_of_isFolder (h : fs.isFolder target) :
    candidates fs c filter target =
      (((goPaths fs target).filter (filter.admits fs)).mergeSort Path.le).filter
        fun p => isGoFile fs p c.includeTests := by
  rw [candidates, offered, if_pos h]
  refine List.filter_congr fun p hp => ?_
  have hbelow : p ∈ fs.descendants target :=
    List.mem_of_mem_filter (List.mem_of_mem_filter (List.mem_mergeSort.mp hp))
  rw [isWanted, beq_eq_false_iff_ne.mpr (FileSystem.ne_of_mem_descendants hbelow), Bool.or_false]

theorem candidates_of_not_isFolder (h : ¬ fs.isFolder target) :
    candidates fs c filter target = [target].filter fun p => isGoFile fs p true := by
  rw [candidates, offered, if_neg h, List.filter_singleton, List.filter_singleton, isWanted,
    beq_self_eq_true, Bool.or_true]

theorem isFile_of_isGoFile {withTests : Bool} (h : isGoFile fs target withTests) : fs.isFile target := by
  simp_all [isGoFile]

theorem not_isFolder_of_isGoFile {withTests : Bool} (h : isGoFile fs target withTests) :
    ¬ fs.isFolder target := by
  rw [FileSystem.not_isFolder_of_isFile (isFile_of_isGoFile h)]
  exact Bool.false_ne_true

/-- A target that is a Go file is its own candidate, whatever the patterns and the ignore rules say. -/
theorem candidates_of_isGoFile (c : Config) (filter : Filter)
    (h : isGoFile fs target true) : candidates fs c filter target = [target] := by
  simp [candidates_of_not_isFolder (not_isFolder_of_isGoFile h), h]

end Discovery

namespace Filter

open Discovery

/-- The filter has an answer for every path that a target has to offer. -/
def Answers (f : Filter) (fs : FileSystem) (target : Path) : Prop :=
  fs.isFolder target → ∀ p ∈ goPaths fs target, ∃ b, f.takes fs p = .ok b

/-- The filter has an answer for every path of the targets that are looked at before there are as many
files as there may be. -/
def Completes (f : Filter) (fs : FileSystem) (c : Config) (targets : List Path) : Prop :=
  ∀ before target after, targets = before ++ target :: after →
    c.maxFiles ≤ (listed fs c f before).length ∨ f.Answers fs target

theorem completes_of_not_isHollow (f : Filter) {fs : FileSystem} {c : Config} {targets : List Path}
    (h : ∀ s ∈ f.includes ++ f.excludes, ¬ Selection.IsHollow s)
    (hlinks : ∀ target ∈ targets, ∀ p ∈ goPaths fs target, ∃ place, fs.resolve p = some place) :
    f.Completes fs c targets := by
  rintro before target after rfl
  refine .inr fun _ p hp => exists_takes h ?_
  exact hlinks target List.mem_append_cons_self p hp

/-- The include patterns that a configuration asks for; without any, the one for everything. -/
def asked (c : Config) : List String := if c.included.isEmpty then ["."] else c.included

/-- The filter of a configuration if there are no ignore rules. -/
def unruled (place : Place) (c : Config) : Filter :=
  ⟨place, patterns (asked c), patterns c.excluded, []⟩

theorem ofConfig_unruled {fs : FileSystem} {root : Path} {place : Place} (c : Config)
    (hrules : fs.exists? (root.child ignoreName) = false) (hroot : fs.resolve root = some place) :
    (ofConfig fs root c).outcome.result = .ok (unruled place c) := by
  simp [ofConfig, ignoreRules, hrules, placeOf, hroot, Except.map, unruled, asked]

end Filter

/-! ## One path -/

namespace Found

open Discovery

variable {fs : FileSystem} {c : Config} {filter : Filter}

/-- What has been found when some paths have been looked at: the first of them, up to a limit. -/
def ofPaths (fs : FileSystem) (limit : Int) (ps : List Path) : Found :=
  let files := (firstsBy fs.resolve ps).take limit.toNat
  ⟨files, files.filterMap fs.resolve, limit ≤ (firstsBy fs.resolve ps).length⟩

theorem ofPaths_nil {limit : Int} (h : 1 ≤ limit) : ofPaths fs limit [] = Found.none := by
  have hnot : ¬ limit ≤ 0 := by omega
  simp [ofPaths, firstsBy, Found.none, hnot]

theorem isFull_ofPaths (limit : Int) (ps : List Path) :
    (ofPaths fs limit ps).isFull = decide (limit ≤ (firstsBy fs.resolve ps).length) := rfl

/-- As long as there may be more files, all of them are there. -/
theorem files_ofPaths {limit : Int} {ps : List Path} (h : (firstsBy fs.resolve ps).length ≤ limit) :
    (ofPaths fs limit ps).files = firstsBy fs.resolve ps := by
  have hlength : (firstsBy fs.resolve ps).length ≤ limit.toNat := by omega
  exact List.take_of_length_le hlength

/-- When there are as many files as there may be, no path changes anything. -/
theorem ofPaths_append_of_full {limit : Int} {ps : List Path} (qs : List Path)
    (h : limit ≤ (firstsBy fs.resolve ps).length) :
    ofPaths fs limit (ps ++ qs) = ofPaths fs limit ps := by
  have htake : limit.toNat ≤ (firstsBy fs.resolve ps).length := by omega
  have hlong : limit ≤ (firstsBy fs.resolve (ps ++ qs)).length := by
    rw [firstsBy_append, List.length_append]
    omega
  simp only [ofPaths, h, hlong]
  rw [firstsBy_append, List.take_append_of_le_length htake]

/-- The places are those of all paths that have been looked at. -/
theorem mem_places_ofPaths {limit : Int} {ps : List Path} (place : Place)
    (h : (firstsBy fs.resolve ps).length ≤ limit) :
    place ∈ (ofPaths fs limit ps).places ↔ some place ∈ ps.map fs.resolve := by
  have hplaces : (ofPaths fs limit ps).places = (ofPaths fs limit ps).files.filterMap fs.resolve := rfl
  rw [hplaces, files_ofPaths h, List.mem_filterMap, List.mem_map]
  constructor
  · rintro ⟨q, hq, hplace⟩
    exact ⟨q, mem_of_mem_firstsBy _ hq, hplace⟩
  · rintro ⟨q, hq, hplace⟩
    obtain ⟨q', hq', hsame⟩ := exists_mem_firstsBy fs.resolve hq
    exact ⟨q', hq', hsame.trans hplace⟩

/-- A path that leads to no new file changes nothing. -/
theorem ofPaths_append_of_seen {limit : Int} {ps : List Path} {p : Path}
    (h : fs.resolve p ∈ ps.map fs.resolve) : ofPaths fs limit (ps ++ [p]) = ofPaths fs limit ps := by
  have hfirsts : firstsBy fs.resolve (ps ++ [p]) = firstsBy fs.resolve ps := by
    rw [firstsBy_append]
    simp only [firstsBy, List.filter_nil, List.filter_cons, h, not_true, decide_false,
      Bool.false_eq_true, if_false, List.append_nil]
  simp only [ofPaths, hfirsts]

/-- A path to a new file is put at the end. -/
theorem ofPaths_append_of_new {limit : Int} {ps : List Path} {p : Path} {place : Place}
    (hfull : (firstsBy fs.resolve ps).length < limit) (hplace : fs.resolve p = some place)
    (h : fs.resolve p ∉ ps.map fs.resolve) :
    ofPaths fs limit (ps ++ [p]) =
      ⟨(ofPaths fs limit ps).files ++ [p], (ofPaths fs limit ps).places ++ [place],
        limit ≤ ((ofPaths fs limit ps).files ++ [p]).length⟩ := by
  have hfirsts : firstsBy fs.resolve (ps ++ [p]) = firstsBy fs.resolve ps ++ [p] := by
    rw [firstsBy_append]
    simp only [firstsBy, List.filter_nil, List.filter_cons, h, not_false_eq_true, decide_true, if_true]
  have htake : (firstsBy fs.resolve ps ++ [p]).take limit.toNat = firstsBy fs.resolve ps ++ [p] :=
    List.take_of_length_le (by rw [List.length_append, List.length_singleton]; omega)
  have hfiles := files_ofPaths (Int.le_of_lt hfull)
  simp only [ofPaths] at hfiles
  simp only [ofPaths, hfirsts, htake, hfiles, List.filterMap_append]
  simp [hplace]

theorem add_ofPaths_of_isGoFile {ps : List Path} {p : Path} {withTests : Bool}
    (h : isGoFile fs p withTests) :
    (ofPaths fs c.maxFiles ps).add fs c p withTests = .ok (ofPaths fs c.maxFiles (ps ++ [p])) := by
  unfold add
  rw [isFull_ofPaths, h]
  by_cases hfull : c.maxFiles ≤ (firstsBy fs.resolve ps).length
  · simp [hfull, ofPaths_append_of_full]
  · obtain ⟨place, hplace⟩ := FileSystem.resolve_of_isFile (isFile_of_isGoFile h)
    have hseen := mem_places_ofPaths place (Int.le_of_lt (not_le.mp hfull))
    rw [← hplace] at hseen
    simp only [hfull, decide_false, Bool.not_true, Bool.or_self, Bool.false_eq_true, if_false,
      placeOf_eq_ok_iff.mpr hplace, bind, Except.bind, List.contains_iff_mem, hseen]
    split
    · next hold =>
      rw [ofPaths_append_of_seen hold]
      rfl
    · next hnew =>
      rw [ofPaths_append_of_new (not_le.mp hfull) hplace hnew]
      rfl

/-- Adding a path: it is looked at if it leads to a Go file that is wanted. -/
theorem add_ofPaths (ps : List Path) (p : Path) (withTests : Bool) :
    (ofPaths fs c.maxFiles ps).add fs c p withTests =
      .ok (ofPaths fs c.maxFiles (ps ++ [p].filter fun q => isGoFile fs q withTests)) := by
  by_cases h : isGoFile fs p withTests
  · simp [add_ofPaths_of_isGoFile h, h]
  · simp [add, h]

theorem foldlM_add_ofPaths (ps qs : List Path) (withTests : Bool) :
    qs.foldlM (fun f q => add fs c f q withTests) (ofPaths fs c.maxFiles ps) =
      .ok (ofPaths fs c.maxFiles (ps ++ qs.filter fun q => isGoFile fs q withTests)) := by
  induction qs generalizing ps with
  | nil =>
    rw [List.filter_nil, List.append_nil]
    rfl
  | cons q qs ih =>
    have hsplit : q :: qs = [q] ++ qs := rfl
    rw [List.foldlM_cons, add_ofPaths, hsplit, List.filter_append, ← List.append_assoc]
    exact ih _

/-! ## One target -/

/-- A target comes to its candidates, if it is looked at and the filter has its answers. -/
theorem addTarget_eq_ok_iff {ps : List Path} {target : Path} {found : Found} :
    (ofPaths fs c.maxFiles ps).addTarget fs c filter target = .ok found ↔
      (c.maxFiles ≤ (firstsBy fs.resolve ps).length ∨ filter.Answers fs target) ∧
        found = ofPaths fs c.maxFiles (ps ++ candidates fs c filter target) := by
  unfold addTarget
  rw [isFull_ofPaths]
  by_cases hfull : c.maxFiles ≤ (firstsBy fs.resolve ps).length
  · simp [hfull, ofPaths_append_of_full, eq_comm]
  rw [if_neg (by simpa using hfull), or_iff_right hfull]
  by_cases hfolder : fs.isFolder target
  · rw [if_pos hfolder, candidates_of_isFolder hfolder, ← goPaths]
    constructor
    · intro h
      obtain ⟨taken, htaken, h⟩ := exists_of_bind_ok h
      obtain ⟨hanswers, rfl⟩ := Filter.filterM_takes_eq_ok_iff.mp htaken
      rw [foldlM_add_ofPaths] at h
      cases h
      exact ⟨fun _ => hanswers, rfl⟩
    · rintro ⟨hanswers, rfl⟩
      simp only [Filter.filterM_takes_eq_ok_iff.mpr ⟨hanswers hfolder, rfl⟩, bind, Except.bind]
      exact foldlM_add_ofPaths ..
  · rw [if_neg hfolder, add_ofPaths, candidates_of_not_isFolder hfolder]
    have hanswers : filter.Answers fs target := fun h => absurd h hfolder
    constructor
    · intro h
      cases h
      exact ⟨hanswers, rfl⟩
    · rintro ⟨-, rfl⟩
      rfl

/-! ## All targets -/

/-- What holds at every member of a list holds at the first one, and after it at all others. -/
theorem forall_split_cons_iff {α : Type} {a : α} {as : List α} {P : List α → α → Prop} :
    (∀ before b after, a :: as = before ++ b :: after → P before b) ↔
      P [] a ∧ ∀ before b after, as = before ++ b :: after → P (a :: before) b := by
  constructor
  · intro h
    refine ⟨h [] a as rfl, fun before b after hsplit => h (a :: before) b after ?_⟩
    rw [hsplit, List.cons_append]
  · rintro ⟨hfirst, hrest⟩ before b after hsplit
    cases before with
    | nil =>
      cases hsplit
      exact hfirst
    | cons c before =>
      cases hsplit
      exact hrest before b after rfl

/-- The targets come to their candidates, if the filter has its answers for those that are looked at. -/
theorem foldlM_addTarget_eq_ok_iff {targets ps : List Path} {found : Found} :
    targets.foldlM (addTarget fs c filter) (ofPaths fs c.maxFiles ps) = .ok found ↔
      (∀ before target after, targets = before ++ target :: after →
        c.maxFiles ≤ (firstsBy fs.resolve (ps ++ before.flatMap (candidates fs c filter))).length ∨
          filter.Answers fs target) ∧
        found = ofPaths fs c.maxFiles (ps ++ targets.flatMap (candidates fs c filter)) := by
  induction targets generalizing ps with
  | nil => simp [pure, Except.pure, eq_comm]
  | cons target targets ih =>
    rw [List.foldlM_cons, forall_split_cons_iff]
    simp only [List.flatMap_cons, List.flatMap_nil, List.append_nil, ← List.append_assoc]
    constructor
    · intro h
      obtain ⟨next, hnext, h⟩ := exists_of_bind_ok h
      obtain ⟨hfirst, rfl⟩ := addTarget_eq_ok_iff.mp hnext
      obtain ⟨hrest, rfl⟩ := ih.mp h
      exact ⟨⟨hfirst, hrest⟩, rfl⟩
    · rintro ⟨⟨hfirst, hrest⟩, rfl⟩
      simp only [addTarget_eq_ok_iff.mpr ⟨hfirst, rfl⟩, bind, Except.bind]
      exact ih.mpr ⟨hrest, rfl⟩

end Found

/-! ## The files of a run -/

namespace Path

theorem le_iff {p q : Path} : p.le q ↔ p.key ≤ q.key := by
  rw [le, Bool.not_eq_true', decide_eq_false_iff_not, not_lt]

theorem le_trans (p q r : Path) (hpq : p.le q) (hqr : q.le r) : p.le r :=
  le_iff.mpr ((le_iff.mp hpq).trans (le_iff.mp hqr))

theorem le_total (p q : Path) : p.le q || q.le p := by
  rw [Bool.or_eq_true, le_iff, le_iff]
  exact LinearOrder.le_total p.key q.key

end Path

namespace Discovery

variable {fs : FileSystem} {c : Config} {root : Path} {targets files : List Path}

/-- A folder offers the paths that pass, sorted. -/
theorem offered_sorted (filter : Filter) {target : Path} (h : fs.isFolder target) :
    (offered fs filter target).Perm ((goPaths fs target).filter (filter.admits fs)) ∧
      (offered fs filter target).Pairwise fun p q => p.le q := by
  rw [offered, if_pos h]
  exact ⟨List.mergeSort_perm .., List.pairwise_mergeSort Path.le_trans Path.le_total _⟩

/-- The targets, all together. -/
theorem foldlM_targets_eq_ok_iff {filter : Filter} {found : Found} (hmax : 1 ≤ c.maxFiles) :
    targets.foldlM (Found.addTarget fs c filter) Found.none = .ok found ↔
      filter.Completes fs c targets ∧
        found = Found.ofPaths fs c.maxFiles (targets.flatMap (candidates fs c filter)) := by
  rw [← Found.ofPaths_nil hmax, Found.foldlM_addTarget_eq_ok_iff]
  rfl

/-- The warning about the limit changes no file. -/
theorem result_warned (isFull : Bool) (warning : Logged Unit) (files : List Path) :
    (if isFull then (do warning; pure files) else pure files :
      Attempt DiscoveryFault (List Path)).outcome.result = .ok files := by
  split <;> simp [Except.map]

/-- When a run finds its files, and which. -/
theorem discover_eq_ok_iff (hmax : 1 ≤ c.maxFiles) :
    (discover fs root c targets).outcome.result = .ok files ↔
      ∃ filter, (Filter.ofConfig fs root c).outcome.result = .ok filter ∧
        filter.Completes fs c (targetsOf root targets) ∧
        files = (listed fs c filter (targetsOf root targets)).take c.maxFiles.toNat := by
  rw [discover, Attempt.bind_eq_ok_iff]
  refine exists_congr fun filter => and_congr_right fun _ => ?_
  rw [Attempt.bind_eq_ok_iff]
  constructor
  · rintro ⟨found, hfound, hfiles⟩
    obtain ⟨hcompletes, rfl⟩ := (foldlM_targets_eq_ok_iff hmax).mp hfound
    rw [result_warned] at hfiles
    cases hfiles
    exact ⟨hcompletes, rfl⟩
  · rintro ⟨hcompletes, rfl⟩
    exact ⟨_, (foldlM_targets_eq_ok_iff hmax).mpr ⟨hcompletes, rfl⟩, result_warned ..⟩

theorem exists_mem_listed (filter : Filter) {target : Path} (hmem : target ∈ targets)
    (hfile : isGoFile fs target true) :
    ∃ p ∈ listed fs c filter targets, fs.resolve p = fs.resolve target := by
  refine exists_mem_firstsBy fs.resolve (List.mem_flatMap.mpr ⟨target, hmem, ?_⟩)
  rw [candidates_of_isGoFile c filter hfile]
  exact List.mem_singleton_self target

/-- Adding a path adds nothing but a file. -/
theorem isFile_of_add {f f' : Found} {p : Path} {withTests : Bool} (hf : ∀ q ∈ f.files, fs.isFile q)
    (h : f.add fs c p withTests = .ok f') : ∀ q ∈ f'.files, fs.isFile q := by
  unfold Found.add at h
  split at h
  · cases h
    exact hf
  · next hwanted =>
    have hgo : isGoFile fs p withTests := by simp_all
    obtain ⟨place, -, h⟩ := exists_of_bind_ok h
    split at h
    · cases h
      exact hf
    · cases h
      intro q hq
      rcases List.mem_append.mp hq with hq | hq
      · exact hf q hq
      · exact List.mem_singleton.mp hq ▸ isFile_of_isGoFile hgo

theorem isFile_of_addTarget {filter : Filter} {f f' : Found} {target : Path}
    (hf : ∀ q ∈ f.files, fs.isFile q) (h : f.addTarget fs c filter target = .ok f') :
    ∀ q ∈ f'.files, fs.isFile q := by
  unfold Found.addTarget at h
  split at h
  · cases h
    exact hf
  split at h
  · obtain ⟨taken, -, h⟩ := exists_of_bind_ok h
    exact foldlM_invariant (fun _ _ _ => isFile_of_add) hf h
  · exact isFile_of_add hf h

/-- The paths of a folder and of some files lead somewhere, in place of running in circles. -/
structure Located (fs : FileSystem) (root : Path) (files : List Path) : Prop where
  root : ∃ base, fs.resolve root = some base
  files : ∀ p ∈ files, ∃ place, fs.resolve p = some place

theorem located_of_discover (h : (discover fs root c targets).outcome.result = .ok files) :
    Located fs root files := by
  obtain ⟨filter, hfilter, h⟩ := Attempt.exists_of_bind_ok h
  obtain ⟨found, hfound, h⟩ := Attempt.exists_of_bind_ok h
  constructor
  · obtain ⟨rules, -, hfilter⟩ := Attempt.exists_of_bind_ok hfilter
    obtain ⟨base, hbase, -⟩ := Attempt.exists_of_bind_ok hfilter
    exact ⟨base, placeOf_eq_ok_iff.mp hbase⟩
  · rw [result_warned] at h
    cases h
    have hfiles : ∀ q ∈ found.files, fs.isFile q :=
      foldlM_invariant (fun _ _ _ => isFile_of_addTarget) (by simp [Found.none]) hfound
    intro p hp
    exact FileSystem.resolve_of_isFile (hfiles p hp)

end Discovery

open Discovery

/-- What a search finds, given the filter of its configuration: the first Go files of those that the
targets offer. -/
structure Finds (fs : FileSystem) (root : Path) (c : Config) (targets : List Path) (filter : Filter)
    (files : List Path) : Prop where
  files_eq : files = (listed fs c filter (targetsOf root targets)).take c.maxFiles.toNat
  /-- The paths below a folder come in their order. -/
  sorted : ∀ target, fs.isFolder target →
    (offered fs filter target).Perm ((goPaths fs target).filter (filter.admits fs)) ∧
      (offered fs filter target).Pairwise fun p q => p.le q
  /-- No file comes twice. -/
  distinct : files.Pairwise fun p q => fs.resolve p ≠ fs.resolve q
  /-- A higher limit adds files at the end only. -/
  extended : ∀ limit more, c.maxFiles ≤ limit →
    (discover fs root { c with maxFiles := limit } targets).outcome.result = .ok more → files <+: more
  /-- A target that is a Go file is found, unless there are too many files before it. -/
  explicit : ∀ target ∈ targetsOf root targets, isGoFile fs target true →
    (∃ p ∈ files, fs.resolve p = fs.resolve target) ∨ files.length = c.maxFiles

theorem finds_of_discover {fs : FileSystem} {root : Path} {c : Config} {targets files : List Path}
    {filter : Filter} (hmax : 1 ≤ c.maxFiles)
    (hfilter : (Filter.ofConfig fs root c).outcome.result = .ok filter)
    (hfiles : (discover fs root c targets).outcome.result = .ok files) :
    Finds fs root c targets filter files := by
  -- The limit has no part in the filter, so searches with different limits list the same files.
  have hlisted {limit : Int} {found : List Path} (hlimit : 1 ≤ limit)
      (hfound : (discover fs root { c with maxFiles := limit } targets).outcome.result = .ok found) :
      found = (listed fs c filter (targetsOf root targets)).take limit.toNat := by
    obtain ⟨filter', hfilter', -, rfl⟩ := (discover_eq_ok_iff hlimit).mp hfound
    have hsame : Except.ok filter' = Except.ok filter := hfilter'.symm.trans hfilter
    cases hsame
    rfl
  obtain rfl := hlisted hmax hfiles
  constructor
  · rfl
  · exact fun target => offered_sorted filter
  · exact (pairwise_firstsBy fs.resolve _).sublist (List.take_sublist _ _)
  · intro limit more hlimit hmore
    rw [hlisted (by omega) hmore]
    exact List.take_prefix_take_left (by omega)
  · intro target hmem hfile
    by_cases hall : (listed fs c filter (targetsOf root targets)).length ≤ c.maxFiles.toNat
    · rw [List.take_of_length_le hall]
      exact .inl (exists_mem_listed filter hmem hfile)
    · rw [List.length_take]
      exact .inr (by omega)

/-- A search with a limit comes to a result if the ignore rules can be read and the filter has its
answers for the targets that are looked at, as it has if no pattern is hollow and all links end.
What it then finds are the first Go files that the targets offer. -/
theorem discover_lists_first_files (fs : FileSystem) (root : Path) (c : Config) (targets : List Path)
    (hmax : 1 ≤ c.maxFiles) :
    ((discover fs root c targets).Returns ↔
      ∃ filter, (Filter.ofConfig fs root c).outcome.result = .ok filter ∧
        filter.Completes fs c (targetsOf root targets)) ∧
    (∀ filter : Filter, (∀ s ∈ filter.includes ++ filter.excludes, ¬ Selection.IsHollow s) →
      (∀ target ∈ targetsOf root targets, ∀ p ∈ goPaths fs target, ∃ place, fs.resolve p = some place) →
      filter.Completes fs c (targetsOf root targets)) ∧
    ∀ filter files, (Filter.ofConfig fs root c).outcome.result = .ok filter →
      (discover fs root c targets).outcome.result = .ok files →
      Finds fs root c targets filter files := by
  refine ⟨⟨?_, ?_⟩, fun filter => filter.completes_of_not_isHollow, ?_⟩
  · rintro ⟨files, hfiles⟩
    obtain ⟨filter, hfilter, hcompletes, -⟩ := (discover_eq_ok_iff hmax).mp hfiles
    exact ⟨filter, hfilter, hcompletes⟩
  · rintro ⟨filter, hfilter, hcompletes⟩
    exact ⟨_, (discover_eq_ok_iff hmax).mpr ⟨filter, hfilter, hcompletes, rfl⟩⟩
  · intro filter files hfilter hfiles
    exact finds_of_discover hmax hfilter hfiles

/-- One file, in the folder that paths start from. -/
def oneFile : FileSystem := ⟨[(["a.go"], .file #[])], []⟩

theorem isGoFile_oneFile : ∀ p ∈ [⟨1, ["a.go"]⟩, ⟨0, ["a.go"]⟩], isGoFile oneFile p true := by
  rw [List.forall_mem_cons, List.forall_mem_singleton, isGoFile, isGoFile,
    FileSystem.isFile_file (by decide) rfl, FileSystem.isFile_file (by decide) rfl]
  decide +kernel

theorem ofConfig_oneFile (c : Config) :
    (Filter.ofConfig oneFile ⟨0, []⟩ c).outcome.result = .ok (Filter.unruled [] c) :=
  Filter.ofConfig_unruled c (FileSystem.exists?_missing (by decide) rfl) (FileSystem.trace.eq_1 ..)

/-- Two paths lead to the file. -/
theorem oneFile_listed_once :
    (1 : Int) ≤ Config.default.maxFiles ∧
      (discover oneFile ⟨0, []⟩ .default [⟨1, ["a.go"]⟩, ⟨0, ["a.go"]⟩]).outcome.result =
        .ok [⟨1, ["a.go"]⟩] := by
  have hmax : (1 : Int) ≤ Config.default.maxFiles := by decide
  obtain ⟨hreturns, -, hlists⟩ := discover_lists_first_files oneFile ⟨0, []⟩ .default
    [⟨1, ["a.go"]⟩, ⟨0, ["a.go"]⟩] hmax
  have hfirst : oneFile.resolve ⟨1, ["a.go"]⟩ = some ["a.go"] :=
    FileSystem.resolve_of_find (FileSystem.find_file (by decide) rfl)
  have hsecond : oneFile.resolve ⟨0, ["a.go"]⟩ = some ["a.go"] :=
    FileSystem.resolve_of_find (FileSystem.find_file (by decide) rfl)
  have hfilter := ofConfig_oneFile .default
  have hcompletes : (Filter.unruled [] .default).Completes oneFile .default
       [⟨1, ["a.go"]⟩, ⟨0, ["a.go"]⟩] := by
    intro before target after hsplit
    refine .inr fun hfolder => absurd hfolder (not_isFolder_of_isGoFile (isGoFile_oneFile _ ?_))
    rw [hsplit]
    exact List.mem_append_cons_self
  obtain ⟨files, hfiles⟩ := hreturns.mpr ⟨_, hfilter, hcompletes⟩
  obtain rfl := (hlists _ files hfilter hfiles).files_eq
  refine ⟨hmax, hfiles.trans ?_⟩
  simp [targetsOf, listed, candidates_of_isGoFile, isGoFile_oneFile, firstsBy, hfirst, hsecond,
    Config.default]

example : Selection.selects? (Selection.normalize "**/**/.") (.ofText "d.go") = none := by
  decide +kernel

end GoMeter
