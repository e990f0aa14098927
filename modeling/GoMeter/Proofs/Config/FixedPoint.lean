import GoMeter.Proofs.CommandLine.Steps
import GoMeter.Proofs.Config.Law
import GoMeter.Proofs.Value
import GoMeter.Proofs.Yaml.Characters

/-!
# A configuration that is shown

A configuration can be shown as a file that gives it. Not every configuration would come back from its
file, since a limit below one is passed over when it is read; but none that is loaded has such a limit.

* `Config.one_le_maxFiles_of_load`: what all loaded configurations have in common.
* `Settings.merge_toValue`: merging the data of a configuration.
* `Config.outcome_load_toYaml`: loading the file of a configuration.
* `Program.exec_showConfig`: showing a configuration.
* `shown_config_loads_back`: a configuration that is shown and saved is loaded again as it was.
-/

namespace GoMeter

/-! ## What is loaded -/

namespace Config

variable {α : Type} {fs : FileSystem} {root : Path} {paths : Option (List Path)} {c : Config}

/-- What counts as the last entry is read of one of the entries. -/
theorem exists_of_lastOf {read : Value → Option α} {given : List Value} {a : α}
    (h : lastOf read given = some a) : ∃ v ∈ given, read v = some a :=
  List.mem_filterMap.mp (List.mem_of_getLast? h)

theorem one_le_of_asPositive? {v : Value} {n : Int} (h : v.asPositive? = some n) : 1 ≤ n := by
  simpa using (Option.filter_eq_some_iff.mp h).2

/-- Whatever the files hold, the greatest number of files is positive. -/
theorem one_le_maxFiles_merged (raws : List Value) : 1 ≤ (merged raws).maxFiles := by
  show 1 ≤ (lastOf Value.asPositive? (entries "max_files" raws)).getD 1000
  cases hlast : lastOf Value.asPositive? (entries "max_files" raws) with
  | none => decide
  | some n =>
    obtain ⟨v, -, hread⟩ := exists_of_lastOf hlast
    exact one_le_of_asPositive? hread

theorem one_le_maxFiles_of_load (h : (load fs root paths).outcome.result = .ok c) :
    1 ≤ c.maxFiles := by
  rw [eq_merged_of_load h]
  exact one_le_maxFiles_merged _

end Config

/-! ## What is merged -/

/-- The data of a configuration has its settings under their keys. -/
theorem Config.get?_toValue (c : Config) (key : String) :
    c.toValue.get? key = (c.settings.lookup key).map Setting.toValue := by
  rw [toValue, Value.get?_object]
  induction c.settings with
  | nil => rfl
  | cons setting rest ih =>
    obtain ⟨name, s⟩ := setting
    rw [List.map_cons, List.lookup_cons, List.lookup_cons, ih]
    cases key == name <;> rfl

namespace Settings

theorem listAt_texts {raw : Value} {key : String} {items : List String}
    (h : raw.get? key = some (Setting.texts items).toValue) : listAt raw key = .ok (some items) := by
  have hwritable : (items.map Value.text).all Value.isWritable = true := by simp [Value.isWritable]
  simp [listAt, h, Setting.toValue, hwritable, Function.comp_def, Value.plain]

theorem integerAt_number {raw : Value} {key : String} {n : Int}
    (h : raw.get? key = some (Setting.number n).toValue) : integerAt raw key = pure (some n) := by
  simp [integerAt, h, Setting.toValue, Value.toInteger]

theorem truthAt_truth {raw : Value} {key : String} {b : Bool}
    (h : raw.get? key = some (Setting.truth b).toValue) (default : Bool) :
    truthAt raw key default = b := by
  simp [truthAt, h, Setting.toValue]

theorem formatAt_word {raw : Value} {f : ReportFormat}
    (h : raw.get? "format" = some (Setting.word f.word).toValue) (default : ReportFormat) :
    formatAt raw default = pure f := by
  have hword : ReportFormat.ofWord? (folded f.word.toList) = some f := by
    cases f <;> decide +kernel
  simp [formatAt, h, Setting.toValue, Value.isWritable, Value.plain, hword]

/-- The data of a configuration, merged into the settings before any file, gives the configuration. -/
theorem merge_toValue {c : Config} (h : 1 ≤ c.maxFiles) :
    start.merge c.toValue = pure ⟨c, true, true⟩ := by
  have hget := c.get?_toValue
  have hfiles : positive? (some c.maxFiles) = some c.maxFiles := by simp [positive?, h]
  rw [merge_eq, listAt_texts (hget "include"), listAt_texts (hget "exclude"),
    integerAt_number (hget "max_files"), integerAt_number (hget "inline_budget"),
    integerAt_number (hget "max_func_calls"), formatAt_word (hget "format")]
  show (pure (start.adopt c.toValue (some c.included) (some c.excluded) (some c.maxFiles)
    (some c.inlineBudget) (some c.maxFuncCalls) c.format) : Attempt IntegerFault Settings) = _
  rw [adopt, hfiles, truthAt_truth (hget "include_tests"), truthAt_truth (hget "only_inlineable"),
    truthAt_truth (hget "show_noinline")]
  rfl

end Settings

/-! ## What is saved -/

namespace Config

variable {fs : FileSystem} {root : Path} {paths : Option (List Path)} {p : Path} {c : Config}

theorem contents_toYaml (hfile : fs.read p = .ok c.toYaml.toUTF8.data)
    (hread : Yaml.read c.toYaml.toList = .ok c.toValue) : contents fs p = .ok (.value c.toValue) := by
  have htext : textOf c.toYaml.toUTF8.data = .ok c.toYaml.toList := by
    have hbytes := textOf_toUTF8 c.isLegible_toYaml
    rwa [String.ofList_toList] at hbytes
  exact contents_eq_value hfile htext hread rfl

theorem getLast?_toYaml (c : Config) : c.toYaml.toList.getLast? = some '\n' := by
  have hlast : c.settings = c.settings.dropLast ++ [("format", .word c.format.word)] := rfl
  rw [toYaml, String.toList_ofList, hlast, List.flatMap_append, List.flatMap_singleton]
  show (_ ++ (_ ++ ['\n'])).getLast? = _
  rw [← List.append_assoc, List.getLast?_concat]

/-- The file of a configuration, if it is the only one, is loaded without a warning. -/
theorem outcome_load_toYaml (hlimit : 1 ≤ c.maxFiles) (hfiles : files root paths = [p])
    (hexists : fs.exists? p) (hfile : fs.read p = .ok c.toYaml.toUTF8.data)
    (hread : Yaml.read c.toYaml.toList = .ok c.toValue) :
    (load fs root paths).outcome = ⟨.ok c, [⟨.debug, .config, "Loaded config " ++ p.text⟩]⟩ := by
  have hadd : addFile fs .start p = addMapping .start p c.toValue := by
    rw [addFile, hexists, contents_toYaml hfile hread]
    rfl
  have hgiven : (paths.isNone && !fs.exists? (root.child usualName)) = false := by
    cases paths with
    | none =>
      obtain rfl : root.child usualName = p := by simpa [files] using hfiles
      simp [hexists]
    | some ps => rfl
  rw [load, hgiven, hfiles]
  simp only [Bool.false_eq_true, if_false, List.foldlM_cons, List.foldlM_nil, hadd, addMapping,
    Settings.merge_toValue hlimit]
  rfl

end Config

namespace Program

variable {path : String} {configs : List String} {s : Session} {place : Place} {c : Config}

/-- A configuration is printed as its file, unless it has an integer that cannot be written. -/
theorem exec_showConfig (hplace : Discovery.placeOf s.files (.ofText path) = .ok place)
    (hload : (Config.load s.files (FileSystem.pathOf place) (namedConfigs configs)).outcome.result =
      .ok c) :
    ∃ after, after.files = s.files ∧ after.printed = s.printed ∧
      (showConfig path configs none).exec s =
        if c.toValue.isWritable then (.ok done, { after with printed := s.printed ++ c.toYaml })
        else (.error (.config (.setting .tooLong)), after) := by
  refine ⟨{ s with messages := s.messages ++
    (Config.load s.files (FileSystem.pathOf place) (namedConfigs configs)).outcome.messages },
    rfl, rfl, ?_⟩
  rw [showConfig, exec_resolved_bind hplace, exec_files_bind, exec_attempt_bind_ok hload,
    exec_requireWritable_bind, exec_bind, exec_deliver_of_none rfl, ended, if_pos c.getLast?_toYaml]
  rfl

end Program

open Program

/-- Every configuration that is loaded allows at least one file and has one of the two formats, and the
data of the file that it is shown as, merged into the defaults, gives the same configuration without a
warning. So it is loaded again as it was from a file with its text, if that text is read as that data;
the text is what is printed when the configuration is shown, which fails only over an integer that is too
long to be written. -/
theorem shown_config_loads_back :
    (∀ fs root paths c, (Config.load fs root paths).outcome.result = .ok c →
      1 ≤ c.maxFiles ∧ (c.format.word = "json" ∨ c.format.word = "md") ∧
      (Settings.start.merge c.toValue).outcome = ⟨.ok ⟨c, true, true⟩, []⟩ ∧
      (Yaml.read c.toYaml.toList = .ok c.toValue →
        ∀ fs' root' paths' p, Config.files root' paths' = [p] → fs'.exists? p →
          fs'.read p = .ok c.toYaml.toUTF8.data →
          (Config.load fs' root' paths').outcome =
            ⟨.ok c, [⟨.debug, .config, "Loaded config " ++ p.text⟩]⟩)) ∧
    ∀ path configs s place c, Discovery.placeOf s.files (.ofText path) = .ok place →
      (Config.load s.files (FileSystem.pathOf place) (namedConfigs configs)).outcome.result = .ok c →
      ∃ after, after.files = s.files ∧ after.printed = s.printed ∧
        (showConfig path configs none).exec s =
          if c.toValue.isWritable then (.ok done, { after with printed := s.printed ++ c.toYaml })
          else (.error (.config (.setting .tooLong)), after) := by
  refine ⟨fun fs root paths c hload => ?_, fun _ _ _ _ _ => exec_showConfig⟩
  have hlimit := Config.one_le_maxFiles_of_load hload
  refine ⟨hlimit, ?_, ?_, ?_⟩
  · cases c.format
    · exact .inl rfl
    · exact .inr rfl
  · rw [Settings.merge_toValue hlimit]
    rfl
  · intro hread fs' root' paths' p hfiles hexists hfile
    exact Config.outcome_load_toYaml hlimit hfiles hexists hfile hread

/-- A file with a number among the folders. -/
def numberedFolder : FileSystem :=
  twoFiles "include: [42]\nexclude: []\nmax_files: 5\nformat: MD\n".toUTF8.data #[]

/-- A number is taken for the name of a folder, and stays one when it is shown. -/
theorem numberedFolder_loads_back :
    ∃ c : Config, c = { included := ["42"], excluded := [], maxFiles := 5, format := .markdown } ∧
      (Config.load numberedFolder ⟨1, []⟩ (some [⟨0, ["a.yml"]⟩])).outcome.result = .ok c ∧
      (Settings.start.merge c.toValue).outcome = ⟨.ok ⟨c, true, true⟩, []⟩ ∧
      (Config.load (twoFiles c.toYaml.toUTF8.data #[]) ⟨1, []⟩
        (some [⟨0, ["a.yml"]⟩])).outcome.result = .ok c := by
  refine ⟨_, rfl, ?_⟩
  generalize hc :
    ({ included := ["42"], excluded := [], maxFiles := 5, format := .markdown } : Config) = c
  have hload : (Config.load numberedFolder ⟨1, []⟩ (some [⟨0, ["a.yml"]⟩])).outcome.result = .ok c := by
    subst hc
    simp only [numberedFolder, Config.load, Config.files, List.map, Path.join, Path.isAbsolute,
      List.foldlM, Config.addFile, Config.contents, List.nil_append, bne_self_eq_false,
      Bool.false_eq_true, if_false, exists_twoFiles, read_twoFiles]
    decide +kernel
  have hread : Yaml.read c.toYaml.toList = .ok c.toValue := by
    subst hc
    decide +kernel
  obtain ⟨-, -, hmerge, hagain⟩ := shown_config_loads_back.1 _ _ _ _ hload
  have hfiles : Config.files ⟨1, []⟩ (some [⟨0, ["a.yml"]⟩]) = [⟨1, ["a.yml"]⟩] := rfl
  have houtcome := hagain hread (twoFiles c.toYaml.toUTF8.data #[]) _ _ _ hfiles
    (exists_twoFiles _ _).1 (read_twoFiles _ _).1
  exact ⟨hload, hmerge, by rw [houtcome]⟩

end GoMeter
