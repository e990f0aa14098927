import GoMeter.Config.Load
import GoMeter.Config.Show
import GoMeter.Proofs.FileSystem
import GoMeter.Proofs.Outcome
import Mathlib.Data.List.Basic

/-!
# The law of several configuration files

The settings are carried from file to file, each file changing them under its own keys. All of it comes
to one rule a key: the last value that can be read counts, and lists of patterns add up.

* `Value.asTexts?`, `Value.asInteger?`, `Value.asPositive?`, `Value.asTruth?`, `Value.asFormat?`: what a
  value says under a key of each sort.
* `Config.merged`: the settings that several mappings add up to, told key by key.
* `Settings.eq_next_of_merge`: one mapping; `Settings.next_ofMappings`: one mapping after others.
* `Config.eq_ofMappings_of_addFile`, `Config.eq_ofMappings_of_foldlM`: one file, and several.
* `Config.eq_merged_of_load`, `load_follows_merge_law`: the configuration that is loaded is the merged
  one.
-/

namespace GoMeter

/-! ## What a value says -/

namespace Value

/-- The texts of the items of a list. -/
def asTexts? : Value → Option (List String)
  | .list items => some (items.map fun v => String.ofList v.plain)
  | _ => none

/-- The integer that a value converts to; null and truth values stand for none. -/
def asInteger? : Value → Option Int
  | .null | .bool _ => none
  | v => v.toInteger.toOption

theorem asInteger?_eq {v : Value} (hnull : v ≠ .null) (hbool : ∀ b, v ≠ .bool b) :
    v.asInteger? = v.toInteger.toOption := by
  cases v <;> simp_all [asInteger?]

/-- The integer that a value converts to, if it is positive. -/
def asPositive? (v : Value) : Option Int := v.asInteger?.filter fun n => 1 ≤ n

/-- The truth of a truth value, a number or a word. -/
def asTruth? : Value → Option Bool
  | .bool b => some b
  | .int n => some (n != 0)
  | .float x => some (!x.isZero)
  | .text s =>
    if Settings.folded s.toList ∈ Settings.trueWords then some true
    else if Settings.folded s.toList ∈ Settings.falseWords then some false
    else none
  | _ => none

/-- The report format that the text of a value names. -/
def asFormat? : Value → Option ReportFormat
  | .null => none
  | v => ReportFormat.ofWord? (Settings.folded v.plain)

theorem asFormat?_eq {v : Value} (hnull : v ≠ .null) :
    v.asFormat? = ReportFormat.ofWord? (Settings.folded v.plain) := by
  cases v <;> simp_all [asFormat?]

end Value

/-! ## Several mappings -/

namespace Config

variable {α : Type}

/-- What some mappings have under a key, in order. -/
def entries (key : String) (raws : List Value) : List Value := raws.filterMap (·.get? key)

/-- The last entry that can be read. -/
def lastOf (read : Value → Option α) (given : List Value) : Option α :=
  (given.filterMap read).getLast?

/-- Whether there is a list among some entries. -/
def hasList (given : List Value) : Bool := given.any fun v => v.asTexts?.isSome

/-- The lists of texts among some entries, one after the other; `default` if there is none. -/
def patternsOf (default : List String) (given : List Value) : List String :=
  if hasList given then (given.filterMap Value.asTexts?).flatten else default

/-- The settings that several mappings add up to, each told by the entries under its own key. -/
def merged (raws : List Value) : Config where
  included := patternsOf Config.default.included (entries "include" raws)
  excluded := patternsOf Config.default.excluded (entries "exclude" raws)
  includeTests := (lastOf Value.asTruth? (entries "include_tests" raws)).getD true
  maxFiles := (lastOf Value.asPositive? (entries "max_files" raws)).getD 1000
  inlineBudget := (lastOf Value.asInteger? (entries "inline_budget" raws)).getD 80
  maxFuncCalls := (lastOf Value.asInteger? (entries "max_func_calls" raws)).getD 1
  onlyInlineable := (lastOf Value.asTruth? (entries "only_inlineable" raws)).getD false
  showNoinline := (lastOf Value.asTruth? (entries "show_noinline" raws)).getD false
  format := (lastOf Value.asFormat? (entries "format" raws)).getD .json

theorem entries_append (key : String) (raws more : List Value) :
    entries key (raws ++ more) = entries key raws ++ entries key more :=
  List.filterMap_append

theorem entries_singleton (key : String) (raw : Value) :
    entries key [raw] = (raw.get? key).toList := by
  cases h : raw.get? key <;> simp [entries, h]

/-- One more mapping: what it has under the key counts if it can be read. -/
theorem lastOf_concat (read : Value → Option α) (default : α) (key : String) (raws : List Value)
    (raw : Value) :
    (lastOf read (entries key (raws ++ [raw]))).getD default =
      ((raw.get? key).bind read).getD ((lastOf read (entries key raws)).getD default) := by
  rw [entries_append, entries_singleton, lastOf, List.filterMap_append]
  cases hgiven : raw.get? key with
  | none => simp [lastOf]
  | some v => cases hread : read v <;> simp [hread, lastOf]

theorem filterMap_asTexts?_of_not_hasList {given : List Value} (h : hasList given = false) :
    given.filterMap Value.asTexts? = [] := by
  rw [List.filterMap_eq_nil_iff]
  intro v hv
  simpa using List.any_eq_false.mp h v hv

end Config

/-! ## One mapping -/

namespace Settings

/-- The settings after one more mapping, given the lists, the integers and the format that were read of
it. -/
def adopt (s : Settings) (raw : Value) (includes excludes : Option (List String))
    (maxFiles inlineBudget maxFuncCalls : Option Int) (format : ReportFormat) : Settings where
  config :=
    { included := (mergeList s.config.included s.includeSet includes).1
      excluded := (mergeList s.config.excluded s.excludeSet excludes).1
      includeTests := truthAt raw "include_tests" s.config.includeTests
      maxFiles := (positive? maxFiles).getD s.config.maxFiles
      inlineBudget := inlineBudget.getD s.config.inlineBudget
      maxFuncCalls := maxFuncCalls.getD s.config.maxFuncCalls
      onlyInlineable := truthAt raw "only_inlineable" s.config.onlyInlineable
      showNoinline := truthAt raw "show_noinline" s.config.showNoinline
      format := format }
  includeSet := (mergeList s.config.included s.includeSet includes).2
  excludeSet := (mergeList s.config.excluded s.excludeSet excludes).2

theorem merge_eq (s : Settings) (raw : Value) :
    s.merge raw = (do
      let includes ← Attempt.ofExcept (listAt raw "include")
      let excludes ← Attempt.ofExcept (listAt raw "exclude")
      let maxFiles ← integerAt raw "max_files"
      let inlineBudget ← integerAt raw "inline_budget"
      let maxFuncCalls ← integerAt raw "max_func_calls"
      let format ← formatAt raw s.config.format
      pure (s.adopt raw includes excludes maxFiles inlineBudget maxFuncCalls format)) :=
  rfl

/-- The texts that a mapping lists under a key. -/
def textsUnder (raw : Value) (key : String) : Option (List String) :=
  (raw.get? key).bind Value.asTexts?

/-- The integer that a mapping has under a key. -/
def integerUnder (raw : Value) (key : String) : Option Int := (raw.get? key).bind Value.asInteger?

/-- The report format that a mapping names. -/
def formatUnder (raw : Value) (default : ReportFormat) : ReportFormat :=
  ((raw.get? "format").bind Value.asFormat?).getD default

/-- The settings after one more mapping. -/
def next (s : Settings) (raw : Value) : Settings :=
  s.adopt raw (textsUnder raw "include") (textsUnder raw "exclude") (integerUnder raw "max_files")
    (integerUnder raw "inline_budget") (integerUnder raw "max_func_calls")
    (formatUnder raw s.config.format)

/-- The list under a key, if reading it does not fail. -/
theorem eq_of_listAt {raw : Value} {key : String} {given : Option (List String)}
    (h : listAt raw key = .ok given) : given = textsUnder raw key := by
  unfold textsUnder
  unfold listAt at h
  split at h
  · next items hgiven =>
    split_ifs at h
    cases h
    simp [hgiven, Value.asTexts?]
  · next hother =>
    cases h
    cases hgiven : raw.get? key with
    | none => rfl
    | some v =>
      cases v with
      | list items => exact absurd hgiven (hother items)
      | _ => rfl

theorem truthAt_eq (raw : Value) (key : String) (default : Bool) :
    truthAt raw key default = ((raw.get? key).bind Value.asTruth?).getD default := by
  unfold truthAt
  cases raw.get? key with
  | none => rfl
  | some v =>
    cases v with
    | text s =>
      simp only [Option.bind_some, Value.asTruth?, List.contains_iff_mem]
      split_ifs <;> rfl
    | _ => rfl

/-- The integer under a key, if reading it does not fail. -/
theorem eq_of_integerAt {raw : Value} {key : String} {n : Option Int}
    (h : (integerAt raw key).outcome.result = .ok n) :
    n = integerUnder raw key := by
  unfold integerUnder
  unfold integerAt at h
  split at h
  case h_1 hgiven | h_2 hgiven | h_3 hgiven =>
    cases h
    simp [hgiven, Value.asInteger?]
  case h_4 v hnull hbool hgiven =>
    rw [hgiven, Option.bind_some, Value.asInteger?_eq hnull hbool]
    cases hread : v.toInteger with
    | ok m =>
      rw [hread] at h
      cases h
      rfl
    | error fault =>
      rw [hread] at h
      cases fault <;> cases h <;> rfl

/-- The format that is named, if reading it does not fail. -/
theorem eq_of_formatAt {raw : Value} {default f : ReportFormat}
    (h : (formatAt raw default).outcome.result = .ok f) : f = formatUnder raw default := by
  unfold formatUnder
  unfold formatAt at h
  split at h
  case h_1 hgiven | h_2 hgiven =>
    cases h
    simp [hgiven, Value.asFormat?]
  case h_3 v hnull hgiven =>
    rw [hgiven, Option.bind_some, Value.asFormat?_eq hnull]
    split_ifs at h
    · cases hword : ReportFormat.ofWord? (folded v.plain) <;> rw [hword] at h <;> cases h <;> rfl
    · cases h

/-- What one more mapping does to the settings, if it does not fail. -/
theorem eq_next_of_merge {s s' : Settings} {raw : Value}
    (h : (s.merge raw).outcome.result = .ok s') : s' = s.next raw := by
  rw [merge_eq] at h
  obtain ⟨includes, hincludes, h⟩ := Attempt.exists_of_bind_ok h
  obtain ⟨excludes, hexcludes, h⟩ := Attempt.exists_of_bind_ok h
  obtain ⟨maxFiles, hmaxFiles, h⟩ := Attempt.exists_of_bind_ok h
  obtain ⟨budget, hbudget, h⟩ := Attempt.exists_of_bind_ok h
  obtain ⟨calls, hcalls, h⟩ := Attempt.exists_of_bind_ok h
  obtain ⟨format, hformat, h⟩ := Attempt.exists_of_bind_ok h
  cases eq_of_listAt hincludes
  cases eq_of_listAt hexcludes
  cases eq_of_integerAt hmaxFiles
  cases eq_of_integerAt hbudget
  cases eq_of_integerAt hcalls
  cases eq_of_formatAt hformat
  cases h
  rfl

/-- The settings after several mappings. -/
def ofMappings (raws : List Value) : Settings where
  config := .merged raws
  includeSet := Config.hasList (Config.entries "include" raws)
  excludeSet := Config.hasList (Config.entries "exclude" raws)

theorem positive?_integerUnder (raw : Value) (key : String) :
    positive? (integerUnder raw key) = (raw.get? key).bind Value.asPositive? := by
  unfold integerUnder
  cases raw.get? key <;> rfl

/-- One more mapping: its list is added to those before it, if there are any. -/
theorem mergeList_patternsOf (default : List String) (key : String) (raws : List Value)
    (raw : Value) :
    mergeList (Config.patternsOf default (Config.entries key raws))
        (Config.hasList (Config.entries key raws)) (textsUnder raw key) =
      (Config.patternsOf default (Config.entries key (raws ++ [raw])),
        Config.hasList (Config.entries key (raws ++ [raw]))) := by
  rw [textsUnder, Config.entries_append, Config.entries_singleton]
  generalize Config.entries key raws = given
  cases hgiven : raw.get? key with
  | none => simp [mergeList]
  | some v =>
    cases hread : v.asTexts? with
    | none => simp [mergeList, Config.patternsOf, Config.hasList, hread]
    | some new =>
      cases hset : Config.hasList given with
      | true =>
        have hmore : Config.hasList (given ++ [v]) = true := by
          rw [Config.hasList, List.any_append, ← Config.hasList, hset, Bool.true_or]
        simp [mergeList, Config.patternsOf, hset, hmore, hread]
      | false =>
        have hnone := Config.filterMap_asTexts?_of_not_hasList hset
        simp [mergeList, Config.patternsOf, Config.hasList, hread, hnone]

/-- One mapping after others. -/
theorem next_ofMappings (raws : List Value) (raw : Value) :
    (ofMappings raws).next raw = ofMappings (raws ++ [raw]) := by
  unfold next adopt ofMappings Config.merged
  simp only [mergeList_patternsOf, truthAt_eq, positive?_integerUnder, Config.lastOf_concat]
  rfl

end Settings

/-! ## Files -/

namespace Config

/-- The mapping in the file that a path leads to, if there is a file, it can be read, and it holds a
mapping. -/
def mappingAt? (fs : FileSystem) (p : Path) : Option Value :=
  if fs.exists? p then
    match contents fs p with
    | .ok (.value raw) => if raw.isMap then some raw else none
    | _ => none
  else none

/-- The mappings in the files of several paths. -/
def mappings (fs : FileSystem) (ps : List Path) : List Value := ps.filterMap (mappingAt? fs)

variable {fs : FileSystem}

theorem eq_next_of_addMapping {s s' : Settings} {p : Path} {raw : Value}
    (h : (addMapping s p raw).outcome.result = .ok s') : s' = s.next raw := by
  obtain ⟨merged, hmerged, h⟩ := Attempt.exists_of_bind_ok h
  obtain ⟨-, -, h⟩ := Attempt.exists_of_bind_ok h
  cases h
  exact Settings.eq_next_of_merge (Attempt.exists_of_mapFault_ok hmerged)

/-- A mapping without entries changes nothing. -/
theorem next_empty (s : Settings) : s.next (.map []) = s := rfl

/-- One more file: its mapping counts, and a file without one changes nothing. -/
theorem eq_ofMappings_of_addFile {raws : List Value} {p : Path} {s : Settings}
    (h : (addFile fs (.ofMappings raws) p).outcome.result = .ok s) :
    s = .ofMappings (raws ++ (mappingAt? fs p).toList) := by
  unfold addFile at h
  unfold mappingAt?
  cases hexists : fs.exists? p with
  | false =>
    rw [hexists] at h
    obtain ⟨-, -, h⟩ := Attempt.exists_of_bind_ok h
    cases h
    simp
  | true =>
    rw [hexists] at h
    obtain ⟨found, hfound, h⟩ := Attempt.exists_of_bind_ok h
    replace hfound : contents fs p = .ok found := hfound
    rw [hfound]
    cases found with
    | unreadable reason =>
      obtain ⟨-, -, h⟩ := Attempt.exists_of_bind_ok h
      rw [eq_next_of_addMapping h, next_empty]
      simp
    | value raw =>
      cases hmap : raw.isMap with
      | true =>
        simp only [hmap, if_true] at h
        rw [eq_next_of_addMapping h, Settings.next_ofMappings]
        simp [hmap]
      | false =>
        simp only [hmap] at h
        obtain ⟨-, -, h⟩ := Attempt.exists_of_bind_ok h
        cases h
        simp [hmap]

theorem eq_ofMappings_of_foldlM {raws : List Value} {ps : List Path} {s : Settings}
    (h : (ps.foldlM (addFile fs) (.ofMappings raws)).outcome.result = .ok s) :
    s = .ofMappings (raws ++ mappings fs ps) := by
  induction ps generalizing raws with
  | nil =>
    cases h
    simp [mappings]
  | cons p rest ih =>
    obtain ⟨between, hfirst, h⟩ := Attempt.exists_of_bind_ok h
    rw [eq_ofMappings_of_addFile hfirst] at h
    rw [ih h, List.append_assoc]
    cases hp : mappingAt? fs p <;> simp [mappings, hp]

/-- What is found under a key depends on what is listed under it. -/
theorem lookup_congr {α : Type} {key : String} {l l' : List (String × α)}
    (h : List.Forall₂ (fun a b => a.1 = b.1 ∧ (a.1 = key → a.2 = b.2)) l l') :
    l.lookup key = l'.lookup key := by
  induction h with
  | nil => rfl
  | @cons a b l l' hab _ ih =>
    obtain ⟨name, value⟩ := a
    obtain ⟨name', value'⟩ := b
    obtain ⟨hname, hvalue⟩ : name = name' ∧ (name = key → value = value') := hab
    rw [List.lookup_cons, List.lookup_cons, ih, ← hname]
    by_cases hkey : name = key
    · rw [hvalue hkey]
    · have hother : (key == name) = false := by simpa using Ne.symm hkey
      rw [hother]

/-- A setting depends on the entries under its own key only. -/
theorem lookup_settings_congr {raws raws' : List Value} {key : String}
    (h : entries key raws = entries key raws') :
    (merged raws).settings.lookup key = (merged raws').settings.lookup key := by
  refine lookup_congr ?_
  simp only [settings, List.forall₂_cons, List.Forall₂.nil, and_true, true_and]
  refine ⟨?_, ?_, ?_, ?_, ?_, ?_, ?_, ?_, ?_⟩
  all_goals
    rintro rfl
    simp only [merged, h]

end Config

theorem Config.eq_merged_of_load {fs : FileSystem} {root : Path} {paths : Option (List Path)}
    {c : Config} (h : (load fs root paths).outcome.result = .ok c) :
    c = merged (mappings fs (files root paths)) := by
  unfold load at h
  split at h
  · next hmissing =>
    -- No file is asked for, and the usual one is not there.
    cases h
    rw [Bool.and_eq_true, Option.isNone_iff_eq_none, Bool.not_eq_true'] at hmissing
    obtain ⟨rfl, hmissing⟩ := hmissing
    have hnone : mappings fs (files root none) = [] := by
      simp [mappings, files, mappingAt?, hmissing]
    rw [hnone]
    rfl
  · obtain ⟨s, hs, h⟩ := Attempt.exists_of_bind_ok h
    cases h
    have hsettings : s = .ofMappings ([] ++ mappings fs (files root paths)) :=
      eq_ofMappings_of_foldlM hs
    rw [hsettings]
    rfl

/-- A configuration that is loaded is the one that the mappings in its files add up to, key by key: the
lists of patterns one after the other, and of every other setting the last value that can be read. So
two configurations agree on a setting if their files have the same entries under its key. -/
theorem load_follows_merge_law {fs : FileSystem} {root : Path} {paths : Option (List Path)}
    {c : Config} (h : (Config.load fs root paths).outcome.result = .ok c) :
    c = .merged (Config.mappings fs (Config.files root paths)) ∧
      ∀ fs' root' paths' c', (Config.load fs' root' paths').outcome.result = .ok c' →
        ∀ key, Config.entries key (Config.mappings fs (Config.files root paths)) =
            Config.entries key (Config.mappings fs' (Config.files root' paths')) →
          c.settings.lookup key = c'.settings.lookup key := by
  refine ⟨Config.eq_merged_of_load h, fun fs' root' paths' c' h' key hentries => ?_⟩
  rw [Config.eq_merged_of_load h, Config.eq_merged_of_load h']
  exact Config.lookup_settings_congr hentries

theorem Config.contents_eq_value {fs : FileSystem} {p : Path} {bytes : Array UInt8} {text : List Char}
    {v : Value} (hbytes : fs.read p = .ok bytes) (htext : textOf bytes = .ok text)
    (hread : Yaml.read text = .ok v) (htrue : v.isTruthy = true) :
    contents fs p = .ok (.value v) := by
  rw [contents, hbytes]
  simp only [htext, bind, Except.bind, hread, orEmpty, htrue, if_true]
  rfl

/-! ## Files in the root folder -/

/-- Two files in the root folder. -/
def twoFiles (first second : Array UInt8) : FileSystem :=
  ⟨[(["a.yml"], .file first), (["b.yml"], .file second)], []⟩

theorem exists_twoFiles (first second : Array UInt8) :
    (twoFiles first second).exists? ⟨1, ["a.yml"]⟩ = true ∧
      (twoFiles first second).exists? ⟨1, ["b.yml"]⟩ = true ∧
      (twoFiles first second).exists? ⟨1, ["c.yml"]⟩ = false :=
  ⟨FileSystem.exists?_file (by decide) rfl, FileSystem.exists?_file (by decide) rfl,
    FileSystem.exists?_missing (by decide) rfl⟩

theorem read_twoFiles (first second : Array UInt8) :
    (twoFiles first second).read ⟨1, ["a.yml"]⟩ = .ok first ∧
      (twoFiles first second).read ⟨1, ["b.yml"]⟩ = .ok second :=
  ⟨FileSystem.read_file (by decide) rfl, FileSystem.read_file (by decide) rfl⟩

/-- Two files with settings, of which one in the second is no number. -/
def twoSettings : FileSystem :=
  twoFiles "include: [src]\nmax_files: 5\n".toUTF8.data
    "include: [lib, cmd]\nmax_files: many\nformat: MD\n".toUTF8.data

/-- Two files with a missing one between them. -/
theorem twoSettings_merged :
    ∃ c, (Config.load twoSettings ⟨1, []⟩
        (some [⟨0, ["a.yml"]⟩, ⟨0, ["c.yml"]⟩, ⟨0, ["b.yml"]⟩])).outcome.result = .ok c ∧
      c = { included := ["src", "lib", "cmd"], maxFiles := 5, format := .markdown } ∧
      c = .merged (Config.mappings twoSettings
        [⟨1, ["a.yml"]⟩, ⟨1, ["c.yml"]⟩, ⟨1, ["b.yml"]⟩]) := by
  have hload : (Config.load twoSettings ⟨1, []⟩
      (some [⟨0, ["a.yml"]⟩, ⟨0, ["c.yml"]⟩, ⟨0, ["b.yml"]⟩])).outcome.result =
        .ok { included := ["src", "lib", "cmd"], maxFiles := 5, format := .markdown } := by
    simp only [twoSettings, Config.load, Config.files, List.map, Path.join, Path.isAbsolute,
      List.foldlM, Config.addFile, Config.contents, List.nil_append, bne_self_eq_false,
      Bool.false_eq_true, if_false, exists_twoFiles, read_twoFiles]
    decide +kernel
  exact ⟨_, hload, rfl, (load_follows_merge_law hload).1⟩

end GoMeter
