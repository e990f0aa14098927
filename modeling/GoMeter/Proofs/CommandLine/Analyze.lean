import GoMeter.Proofs.CommandLine.Steps
import GoMeter.Proofs.Report.Build
import GoMeter.Proofs.Report.Markdown

/-!
# What a measurement of files comes to

A run that measures files ends with an exit code when it has delivered its report, and the code tells
whether there are failures in the report.

* `Program.exec_analyze`: a run on a target that exists.
* `Report.CanPublish`, `Report.Published`: when a report can be put out, and what a run leaves that
  has done so.
* `report_accounts_for_files`: reports and exit codes.
-/

namespace GoMeter

namespace AnalyzeOptions

/-- The file or folder that is to be measured. -/
def target (o : AnalyzeOptions) : Path := .ofText o.path

/-- The folder that a run analyses. -/
def root (o : AnalyzeOptions) (fs : FileSystem) : Path :=
  if fs.isFolder o.target then o.target else o.target.parent

/-- The settings of a run. -/
def config (o : AnalyzeOptions) (fs : FileSystem) : Attempt ConfigFault Config :=
  (Program.override · o) <$> Config.load fs (o.root fs) (Program.namedConfigs o.configs)

/-- The files that a run measures. -/
def found (o : AnalyzeOptions) (fs : FileSystem) (c : Config) : Attempt DiscoveryFault (List Path) :=
  discover fs (o.root fs) c [o.target]

/-- The file that a run puts its report into, if one is named. -/
def file? (o : AnalyzeOptions) (fs : FileSystem) : Option Path :=
  (Program.nonEmpty? o.output).map fun name => (o.root fs).join (.ofText name)

end AnalyzeOptions

namespace Program

/-! ## A run -/

/-- How a run ends when its report has been put out. -/
def conclude (report : Report) : Program Nat :=
  if report.failures.isEmpty then pure done
  else do
    say .error (Decimal.text report.failures.length ++ " file(s) failed to parse.")
    pure failed

/-- How a run goes on when its report has been built. -/
def publish (c : Config) (report : Report) (output : Option String) (root : Path) : Program Nat := do
  requireWritable (isRenderable c report)
  deliver (render c report) output root
  conclude report

variable {around : Surroundings} {o : AnalyzeOptions} {s : Session} {c : Config} {found : List Path}
  {report : Report}

/-- Nothing but the exit code and the messages depends on the failures. -/
theorem exec_conclude (report : Report) (s : Session) :
    ∃ code final, (conclude report).exec s = (.ok code, final) ∧ final.files = s.files ∧
      final.printed = s.printed ∧ (code = 1 ↔ report.failures ≠ []) ∧
      (code = 0 ↔ report.failures = []) := by
  unfold conclude
  split
  · next h => exact ⟨done, s, rfl, rfl, rfl, by simp_all [done], by simp_all [done]⟩
  · next h =>
    exact ⟨failed, _, rfl, rfl, rfl, by simp_all [failed], by simp_all [failed]⟩

/-- A run on a target that exists has settings, finds files, builds a report, puts it out, and tells of
the failures. -/
theorem exec_analyze (h : s.files.exists? o.target) :
    (analyze around o).exec s =
      (do
        let c ← attempt .config (o.config s.files)
        let found ← attempt .discovery (o.found s.files c)
        say .info ("Analyzing " ++ Decimal.text found.length ++ " Go files under " ++
          (o.root s.files).text)
        let report ← attempt .discovery (Report.build s.files around.time (o.root s.files) found)
        publish c report o.output (o.root s.files) : Program Nat).exec s := by
  have hthere : (!s.files.exists? (.ofText o.path)) = false := by
    simpa [AnalyzeOptions.target] using h
  unfold analyze
  rw [exec_files_bind]
  simp only [hthere, Bool.false_eq_true, if_false]
  rw [exec_attempt_bind, exec_attempt_bind, AnalyzeOptions.config, Attempt.outcome_map,
    AnalyzeOptions.root, AnalyzeOptions.target]
  -- Both sides load the same files; the options are laid over them before or after the step.
  cases (Config.load s.files _ (namedConfigs o.configs)).outcome.result <;> rfl

/-- A run that has its settings and its files comes to their report. -/
theorem exec_analyze_of_found (h : s.files.exists? o.target)
    (hconfig : (o.config s.files).outcome.result = .ok c)
    (hfound : (o.found s.files c).outcome.result = .ok found)
    (hreport : (Report.build s.files around.time (o.root s.files) found).outcome.result = .ok report) :
    ∃ before : Session, before.files = s.files ∧ before.printed = s.printed ∧
      (analyze around o).exec s = (publish c report o.output (o.root s.files)).exec before := by
  rw [exec_analyze h, exec_attempt_bind_ok hconfig, exec_attempt_bind_ok hfound, exec_say_bind,
    exec_attempt_bind_ok hreport]
  refine ⟨_, ?_, ?_, rfl⟩ <;> rfl

/-- A run on a target that exists ends with an exit code only if it has its settings and its files. -/
theorem exists_found_of_exec_analyze {code : Nat} {final : Session} (h : s.files.exists? o.target)
    (hrun : (analyze around o).exec s = (.ok code, final)) :
    ∃ c found, (o.config s.files).outcome.result = .ok c ∧
      (o.found s.files c).outcome.result = .ok found := by
  rw [exec_analyze h] at hrun
  obtain ⟨c, hconfig, hrun⟩ := exists_of_exec_attempt_bind hrun
  obtain ⟨found, hfound, -⟩ := exists_of_exec_attempt_bind hrun
  exact ⟨c, found, hconfig, hfound⟩

end Program

open Discovery Program

/-! ## Reports that are put out -/

namespace Report

/-- A report can be put out in its format if its integers can be written, and if the file can be that is
named. -/
structure CanPublish (report : Report) (c : Config) (file? : Option Path) (fs : FileSystem) : Prop where
  json : c.format = .json → report.toValue.isWritable = true ∧
    ∀ p ∈ file?, ∃ fs', fs.save p report.toJson.toUTF8.data = .ok fs'
  markdown : c.format = .markdown →
    (∀ n ∈ report.shownIntegers c.rows, (Value.int n).isWritable = true) ∧
    ∀ p ∈ file?, ∃ fs', fs.save p (report.markdown c.rows).toUTF8.data = .ok fs'

/-- What a run leaves that has put out a report in its format. Without a file that is named, the
report is printed, and ends a line. Otherwise the file has the bytes of the report. -/
structure Published (report : Report) (c : Config) (file? : Option Path) (s final : Session) : Prop where
  printed : file? = none → final.files = s.files ∧
    (c.format = .json → final.printed = s.printed ++ report.toJson ++ "\n") ∧
    (c.format = .markdown → final.printed = s.printed ++ report.markdown c.rows)
  saved : ∀ p ∈ file?, final.printed = s.printed ∧
    (c.format = .json → s.files.Saved final.files p report.toJson.toUTF8.data) ∧
    (c.format = .markdown → s.files.Saved final.files p (report.markdown c.rows).toUTF8.data)

variable {report : Report} {c : Config} {s final : Session}

theorem canPublish_iff {file? : Option Path} {fs : FileSystem} :
    report.CanPublish c file? fs ↔ isRenderable c report = true ∧
      ∀ p ∈ file?, ∃ fs', fs.save p (render c report).toUTF8.data = .ok fs' := by
  unfold isRenderable render
  constructor
  · intro h
    cases hformat : c.format with
    | json => exact h.json hformat
    | markdown => simpa using h.markdown hformat
  · intro h
    constructor <;> intro hformat <;> simpa [hformat] using h

theorem ended_toJson (report : Report) : ended report.toJson = report.toJson ++ "\n" := by
  have hlast : report.toJson.toList.getLast? = some '}' := by
    rw [toJson, Json.indented, String.toList_ofList]
    exact List.getLast?_concat
  rw [ended, hlast, if_neg (by decide)]

theorem ended_markdown (report : Report) (choice : RowChoice) :
    ended (report.markdown choice) = report.markdown choice :=
  if_pos (getLast?_markdown choice report)

theorem published_of_printed (hfiles : final.files = s.files)
    (hprinted : final.printed = s.printed ++ ended (render c report)) :
    report.Published c none s final where
  printed := by
    refine fun _ => ⟨hfiles, fun hformat => ?_, fun hformat => ?_⟩
    · rw [hprinted, render, hformat, ended_toJson, String.append_assoc]
    · rw [hprinted, render, hformat, ended_markdown]
  saved := by simp

theorem published_of_save {p : Path}
    (hsave : s.files.save p (render c report).toUTF8.data = .ok final.files)
    (hprinted : final.printed = s.printed) : report.Published c (some p) s final where
  printed := by simp
  saved := by
    intro q hq
    obtain rfl := Option.mem_some.mp hq
    refine ⟨hprinted, fun hformat => ?_, fun hformat => ?_⟩ <;>
    · rw [render, hformat] at hsave
      exact FileSystem.saved_of_save hsave

end Report

/-- Only the files and what has been printed count in the session before. -/
theorem Report.Published.of_eq {report : Report} {c : Config} {file? : Option Path}
    {before s final : Session} (h : report.Published c file? before final)
    (hfiles : before.files = s.files) (hprinted : before.printed = s.printed) :
    report.Published c file? s final where
  printed := by simpa only [hfiles, hprinted] using h.printed
  saved := by simpa only [hfiles, hprinted] using h.saved

/-- A run that has put out its report ends with an exit code that tells of the failures. -/
theorem exec_publish_of_deliver {c : Config} {report : Report} {output : Option String} {root : Path}
    {before after : Session} (hrender : isRenderable c report = true)
    (h : (deliver (render c report) output root).exec before = (.ok (), after)) :
    ∃ code final, (publish c report output root).exec before = (.ok code, final) ∧
      final.files = after.files ∧ final.printed = after.printed ∧
      (code = 1 ↔ report.failures ≠ []) ∧ (code = 0 ↔ report.failures = []) := by
  have hrun : (publish c report output root).exec before = (conclude report).exec after := by
    rw [publish, exec_requireWritable_bind, if_pos hrender, exec_bind, h]
  rw [hrun]
  exact exec_conclude report after

/-- What putting out a report comes to. -/
theorem exec_publish (o : AnalyzeOptions) (fs : FileSystem) (c : Config) (report : Report)
    (s : Session) :
    (¬ report.CanPublish c (o.file? fs) s.files ∧
      ∃ fault after, (publish c report o.output (o.root fs)).exec s = (.error fault, after)) ∨
    report.CanPublish c (o.file? fs) s.files ∧
      ∃ code final, (publish c report o.output (o.root fs)).exec s = (.ok code, final) ∧
        report.Published c (o.file? fs) s final ∧
        (code = 1 ↔ report.failures ≠ []) ∧ (code = 0 ↔ report.failures = []) := by
  rw [Report.canPublish_iff, AnalyzeOptions.file?]
  by_cases hrender : isRenderable c report = true
  case neg =>
    refine .inl ⟨fun h => hrender h.1, .config (.setting .tooLong), s, ?_⟩
    rw [publish, exec_requireWritable_bind, if_neg hrender]
  cases hname : nonEmpty? o.output with
  | none =>
    refine .inr ⟨⟨hrender, by simp⟩, ?_⟩
    have hdeliver : (deliver (render c report) o.output (o.root fs)).exec s = _ :=
      exec_deliver_of_none hname
    obtain ⟨code, final, hrun, hfiles, hprinted, hcode⟩ := exec_publish_of_deliver hrender hdeliver
    exact ⟨code, final, hrun, Report.published_of_printed hfiles hprinted, hcode⟩
  | some name =>
    cases hsave : s.files.save ((o.root fs).join (.ofText name)) (render c report).toUTF8.data with
    | ok fs' =>
      refine .inr ⟨⟨hrender, by simpa using ⟨fs', hsave⟩⟩, ?_⟩
      obtain ⟨after, hdeliver, hafter, hprinted⟩ := exec_deliver_of_save hname hsave
      obtain ⟨code, final, hrun, hfiles, hprinted', hcode⟩ := exec_publish_of_deliver hrender hdeliver
      refine ⟨code, final, hrun, Report.published_of_save ?_ (hprinted'.trans hprinted), hcode⟩
      rw [hsave, hfiles, hafter]
    | error fault =>
      refine .inl ⟨?_, .system fault, ?_⟩
      · rintro ⟨-, hcan⟩
        obtain ⟨fs', hfs'⟩ := hcan _ rfl
        rw [hsave] at hfs'
        cases hfs'
      · obtain ⟨after, hdeliver⟩ := exec_deliver_of_not_save hname hsave
        refine ⟨after, ?_⟩
        rw [publish, exec_requireWritable_bind, if_pos hrender, exec_bind, hdeliver]

/-- The files that a run finds can be reported. Every file of a report has one entry, which tells of
a failure if the file cannot be read or is refused; other contents of one file change no entry but
its own. A run on a target that exists, once it has found its files, ends with an exit code unless
the report has an integer that cannot be written, or its file cannot be. Then the report has been
printed or put into the file, in the format that was asked for, and the code is 1 if there are
failures in the report and 0 if there are none. -/
theorem report_accounts_for_files :
    (∀ fs root c targets files, (discover fs root c targets).outcome.result = .ok files →
      Located fs root files) ∧
    (∀ fs time root files, Located fs root files →
      (∃ report, (Report.build fs time root files).outcome.result = .ok report ∧
        report.Accounts fs root files) ∧
      ∀ fs' place, fs.SameBut fs' place →
        (∃ report', (Report.build fs' time root files).outcome.result = .ok report' ∧
          report'.Accounts fs' root files) ∧
        ∀ p, fs.find p ≠ .ok place → entryOf fs' root p = entryOf fs root p) ∧
    ∀ around o s, s.files.exists? o.target →
      (∀ c found, (o.config s.files).outcome.result = .ok c →
        (o.found s.files c).outcome.result = .ok found →
        ∃ report,
          (Report.build s.files around.time (o.root s.files) found).outcome.result = .ok report ∧
          report.Accounts s.files (o.root s.files) found ∧
          ((∃ code final, (analyze around o).exec s = (.ok code, final)) ↔
            report.CanPublish c (o.file? s.files) s.files) ∧
          ∀ code final, (analyze around o).exec s = (.ok code, final) →
            report.Published c (o.file? s.files) s final ∧
              (code = 1 ↔ report.failures ≠ []) ∧ (code = 0 ↔ report.failures = [])) ∧
      ∀ code final, (analyze around o).exec s = (.ok code, final) →
        ∃ c found, (o.config s.files).outcome.result = .ok c ∧
          (o.found s.files c).outcome.result = .ok found := by
  refine ⟨fun _ _ _ _ _ => located_of_discover, ?_, ?_⟩
  · intro fs time root files hlocated
    refine ⟨Report.exists_build time hlocated, fun fs' place hsame => ⟨?_, ?_⟩⟩
    · exact Report.exists_build time (hlocated.of_sameBut hsame)
    · exact fun p hp => entryOf_eq hsame hp
  · intro around o s htarget
    refine ⟨fun c found hconfig hfound => ?_, fun code final => exists_found_of_exec_analyze htarget⟩
    obtain ⟨report, hreport, haccounts⟩ :=
      Report.exists_build around.time (located_of_discover hfound)
    obtain ⟨before, hfiles, hprinted, hrun⟩ := exec_analyze_of_found htarget hconfig hfound hreport
    refine ⟨report, hreport, haccounts, ?_⟩
    rcases exec_publish o s.files c report before with
      ⟨hcannot, fault, after, hend⟩ | ⟨hcan, code, final, hend, hpublished, hcode⟩
    · refine ⟨iff_of_false ?_ (hfiles ▸ hcannot), fun code final hcode => ?_⟩
      · rintro ⟨code, final, hcode⟩
        rw [hrun, hend] at hcode
        cases hcode
      · rw [hrun, hend] at hcode
        cases hcode
    · refine ⟨iff_of_true ⟨code, final, hrun.trans hend⟩ (hfiles ▸ hcan), fun code' final' hend' => ?_⟩
      rw [hrun, hend] at hend'
      cases hend'
      exact ⟨hpublished.of_eq hfiles hprinted, hcode⟩

/-! ## A folder with two files -/

/-- Two Go files in the folder that paths start from. -/
def twoSources (first second : String) : FileSystem :=
  ⟨[(["a.go"], .file first.toUTF8.data), (["b.go"], .file second.toUTF8.data)], []⟩

section TwoSources

variable (first second : String)

theorem find_twoSources :
    (twoSources first second).find ⟨0, []⟩ = .ok [] ∧
      (twoSources first second).find ⟨0, ["a.go"]⟩ = .ok ["a.go"] ∧
      (twoSources first second).find ⟨0, ["b.go"]⟩ = .ok ["b.go"] := by
  refine ⟨?_, FileSystem.find_file (by decide) rfl, FileSystem.find_file (by decide) rfl⟩
  rw [FileSystem.find, FileSystem.walk]
  rfl

theorem isFolder_twoSources : (twoSources first second).isFolder ⟨0, []⟩ = true := by
  rw [FileSystem.isFolder, FileSystem.target?, (find_twoSources first second).1]
  rfl

theorem goPaths_twoSources :
    goPaths (twoSources first second) ⟨0, []⟩ = [⟨0, ["a.go"]⟩, ⟨0, ["b.go"]⟩] := by
  rw [goPaths, FileSystem.descendants, (find_twoSources first second).1]
  rfl

theorem takes_twoSources : ∀ p ∈ ([⟨0, ["a.go"]⟩, ⟨0, ["b.go"]⟩] : List Path),
    (Filter.unruled [] .default).takes (twoSources first second) p = .ok true := by
  obtain ⟨-, ha, hb⟩ := find_twoSources first second
  rw [List.forall_mem_cons, List.forall_mem_singleton, Filter.takes, Filter.takes,
    placeOf_eq_ok_iff.mpr (FileSystem.resolve_of_find ha),
    placeOf_eq_ok_iff.mpr (FileSystem.resolve_of_find hb)]
  decide +kernel

theorem isGoFile_twoSources : ∀ p ∈ ([⟨0, ["a.go"]⟩, ⟨0, ["b.go"]⟩] : List Path),
    isGoFile (twoSources first second) p true := by
  rw [List.forall_mem_cons, List.forall_mem_singleton, isGoFile, isGoFile,
    FileSystem.isFile_file (by decide) rfl, FileSystem.isFile_file (by decide) rfl]
  decide +kernel

theorem listed_twoSources (format : ReportFormat) :
    listed (twoSources first second) { Config.default with format } (.unruled [] .default) [⟨0, []⟩] =
      [⟨0, ["a.go"]⟩, ⟨0, ["b.go"]⟩] := by
  obtain ⟨-, ha, hb⟩ := find_twoSources first second
  have hadmits : ([⟨0, ["a.go"]⟩, ⟨0, ["b.go"]⟩] : List Path).filter
      ((Filter.unruled [] .default).admits (twoSources first second)) =
        [⟨0, ["a.go"]⟩, ⟨0, ["b.go"]⟩] :=
    List.filter_eq_self.mpr fun p hp =>
      (Filter.eq_admits_of_takes (takes_twoSources first second p hp)).symm
  have hwanted : ([⟨0, ["a.go"]⟩, ⟨0, ["b.go"]⟩] : List Path).filter
      (fun p => isGoFile (twoSources first second) p true) = [⟨0, ["a.go"]⟩, ⟨0, ["b.go"]⟩] :=
    List.filter_eq_self.mpr (isGoFile_twoSources first second)
  have hsorted : ([⟨0, ["a.go"]⟩, ⟨0, ["b.go"]⟩] : List Path).mergeSort Path.le =
      [⟨0, ["a.go"]⟩, ⟨0, ["b.go"]⟩] := List.mergeSort_of_pairwise (by decide +kernel)
  rw [listed, List.flatMap_singleton, candidates_of_isFolder (isFolder_twoSources first second),
    goPaths_twoSources, hadmits, hsorted]
  show firstsBy _ (List.filter (fun p => isGoFile (twoSources first second) p true) _) = _
  rw [hwanted]
  simp [firstsBy, FileSystem.resolve_of_find ha, FileSystem.resolve_of_find hb]

/-- The default settings, with any format, take both files. -/
theorem discover_twoSources (format : ReportFormat) :
    (discover (twoSources first second) ⟨0, []⟩ { Config.default with format }
      [⟨0, []⟩]).outcome.result = .ok [⟨0, ["a.go"]⟩, ⟨0, ["b.go"]⟩] := by
  have hmax : (1 : Int) ≤ Config.default.maxFiles := by decide
  have hfilter : (Filter.ofConfig (twoSources first second) ⟨0, []⟩
      { Config.default with format }).outcome.result = .ok (.unruled [] .default) :=
    Filter.ofConfig_unruled _ (FileSystem.exists?_missing (by decide) rfl)
      (FileSystem.resolve_of_find (find_twoSources first second).1)
  refine (discover_eq_ok_iff hmax).mpr ⟨_, hfilter, ?_, ?_⟩
  · intro before target after hsplit
    have htarget : target = ⟨0, []⟩ := by
      have hmem : target ∈ targetsOf ⟨0, []⟩ [⟨0, []⟩] := hsplit ▸ List.mem_append_cons_self
      simpa [targetsOf] using hmem
    refine .inr fun _ p hp => ⟨true, takes_twoSources first second p ?_⟩
    rwa [htarget, goPaths_twoSources] at hp
  · show _ = (listed _ _ (.unruled [] .default) [⟨0, []⟩]).take 1000
    rw [listed_twoSources]
    rfl

/-- The entries of the two files. -/
theorem entryOf_twoSources :
    entryOf (twoSources first second) ⟨0, []⟩ ⟨0, ["a.go"]⟩ =
        (outcomeOf "a.go" (.ok first.toUTF8.data)).result ∧
      entryOf (twoSources first second) ⟨0, []⟩ ⟨0, ["b.go"]⟩ =
        (outcomeOf "b.go" (.ok second.toUTF8.data)).result := by
  obtain ⟨hroot, ha, hb⟩ := find_twoSources first second
  have hplace := placeOf_eq_ok_iff.mpr (FileSystem.resolve_of_find hroot)
  constructor
  · have hname : reportName (twoSources first second) ⟨0, []⟩ ⟨0, ["a.go"]⟩ = .ok "a.go" := by
      rw [reportName, placeOf_eq_ok_iff.mpr (FileSystem.resolve_of_find ha), hplace]
      rfl
    rw [entryOf_of_reportName hname, FileSystem.read_file (by decide) rfl]
  · have hname : reportName (twoSources first second) ⟨0, []⟩ ⟨0, ["b.go"]⟩ = .ok "b.go" := by
      rw [reportName, placeOf_eq_ok_iff.mpr (FileSystem.resolve_of_find hb), hplace]
      rfl
    rw [entryOf_of_reportName hname, FileSystem.read_file (by decide) rfl]

theorem sameBut_twoSources (other : String) :
    (twoSources first second).SameBut (twoSources first other) ["b.go"] := by
  refine ⟨rfl, fun q hq => ?_, _, _, rfl, rfl⟩
  have hkey : (q == ["b.go"]) = false := by simpa using hq
  simp only [twoSources, FileSystem.entry?, List.lookup_cons, hkey]

end TwoSources

/-- The second of two files breaks off. -/
def brokenSources : FileSystem := twoSources "package p\nfunc f() {}\n" "package p\nfunc f(\n"

/-- What is reported of the two files. -/
def brokenReport : Report :=
  ⟨1, "", ".", [⟨"a.go", [⟨2, 0, 0, false, false⟩]⟩], [⟨"b.go", some 2, "line 2: syntax error"⟩]⟩

theorem build_brokenSources :
    (Report.build brokenSources "" ⟨0, []⟩ [⟨0, ["a.go"]⟩, ⟨0, ["b.go"]⟩]).outcome.result =
      .ok brokenReport := by
  have hrecords : (measureSource ⟨"package p\nfunc f() {}\n".toUTF8.data⟩).outcome.result =
      .ok [⟨2, 0, 0, false, false⟩] := by decide +kernel
  have hrefused : (measureSource ⟨"package p\nfunc f(\n".toUTF8.data⟩).outcome.result =
      .error ⟨2, .malformed⟩ := by decide +kernel
  have hmessage : (⟨2, .malformed⟩ : Refusal).message = "line 2: syntax error" := by decide +kernel
  have hlocated : Located brokenSources ⟨0, []⟩ [⟨0, ["a.go"]⟩, ⟨0, ["b.go"]⟩] :=
    located_of_discover (discover_twoSources _ _ .json)
  rw [Report.build_eq_ok "" hlocated, List.map_cons, List.map_singleton, brokenSources,
    (entryOf_twoSources _ _).1, (entryOf_twoSources _ _).2, result_outcomeOf_ok, result_outcomeOf_ok,
    hrecords, hrefused]
  simp only [hmessage]
  rfl

/-- The options of a run on the folder that paths start from, with a format and perhaps a file for the
report. -/
def folderOptions (format : ReportFormat) (output : Option String) : AnalyzeOptions :=
  ⟨".", [], format, output, false, false, none, none, false⟩

theorem isFolder_brokenSources : brokenSources.isFolder ⟨0, []⟩ = true := isFolder_twoSources _ _

section FolderOptions

variable (format : ReportFormat) (output : Option String)

theorem target_folderOptions : (folderOptions format output).target = ⟨0, []⟩ := by
  have hpath : Path.ofText "." = ⟨0, []⟩ := by decide +kernel
  exact hpath

theorem exists_folderOptions : brokenSources.exists? (folderOptions format output).target = true := by
  rw [target_folderOptions, FileSystem.exists?, FileSystem.target?, brokenSources,
    (find_twoSources _ _).1]
  rfl

theorem root_folderOptions : (folderOptions format output).root brokenSources = ⟨0, []⟩ := by
  rw [AnalyzeOptions.root, target_folderOptions, if_pos isFolder_brokenSources]

theorem config_folderOptions :
    ((folderOptions format output).config brokenSources).outcome.result =
      .ok { Config.default with format } := by
  have hmissing : brokenSources.exists? (Path.child ⟨0, []⟩ Config.usualName) = false :=
    FileSystem.exists?_missing (by decide) rfl
  have hnone : namedConfigs (folderOptions format output).configs = none := rfl
  rw [AnalyzeOptions.config, root_folderOptions, Attempt.outcome_map, hnone, Config.load, hmissing]
  rfl

theorem found_folderOptions :
    ((folderOptions format output).found brokenSources { Config.default with format }).outcome.result =
      .ok [⟨0, ["a.go"]⟩, ⟨0, ["b.go"]⟩] := by
  rw [AnalyzeOptions.found, root_folderOptions, target_folderOptions]
  exact discover_twoSources _ _ format

end FolderOptions

/-- One of two files cannot be measured. Both formats report of both files, printed or put into a
file, and the exit code is 1. When the file is mended, the entry of the other one is as it was. -/
theorem brokenSources_reported :
    (∃ final, (analyze ⟨#[], ""⟩ (folderOptions .json none)).exec ⟨brokenSources, "", []⟩ =
        (.ok 1, final) ∧
      final.files = brokenSources ∧ final.printed = brokenReport.toJson ++ "\n") ∧
    (∃ final, (analyze ⟨#[], ""⟩ (folderOptions .markdown (some "report.md"))).exec
        ⟨brokenSources, "", []⟩ = (.ok 1, final) ∧
      final.printed = "" ∧
      final.files.read ⟨0, ["report.md"]⟩ = .ok (brokenReport.markdown {}).toUTF8.data) ∧
    entryOf (twoSources "package p\nfunc f() {}\n" "package p\n") ⟨0, []⟩ ⟨0, ["a.go"]⟩ =
      entryOf brokenSources ⟨0, []⟩ ⟨0, ["a.go"]⟩ := by
  have hrun (format : ReportFormat) (output : Option String) :
      (brokenReport.CanPublish { Config.default with format }
        ((folderOptions format output).file? brokenSources) brokenSources →
      ∃ final, (analyze ⟨#[], ""⟩ (folderOptions format output)).exec ⟨brokenSources, "", []⟩ =
          (.ok 1, final) ∧
        brokenReport.Published { Config.default with format }
          ((folderOptions format output).file? brokenSources) ⟨brokenSources, "", []⟩ final) := by
    obtain ⟨report, hreport, -, hends, htells⟩ := (report_accounts_for_files.2.2 ⟨#[], ""⟩
      (folderOptions format output) ⟨brokenSources, "", []⟩ (exists_folderOptions format output)).1 _ _
      (config_folderOptions format output) (found_folderOptions format output)
    rw [root_folderOptions, build_brokenSources] at hreport
    obtain rfl := Except.ok.inj hreport
    intro hcan
    obtain ⟨code, final, hrun⟩ := hends.mpr hcan
    obtain ⟨hpublished, hone, -⟩ := htells code final hrun
    obtain rfl := hone.mpr (by decide)
    exact ⟨final, hrun, hpublished⟩
  refine ⟨?_, ?_, ?_⟩
  · have hcan : brokenReport.CanPublish { Config.default with format := .json } none brokenSources :=
      ⟨fun _ => ⟨by decide +kernel, by simp⟩, by simp⟩
    obtain ⟨final, hend, hpublished⟩ := hrun .json none hcan
    obtain ⟨hfiles, hprinted, -⟩ := hpublished.printed rfl
    exact ⟨final, hend, hfiles, by simpa using hprinted rfl⟩
  · have hfile : (folderOptions .markdown (some "report.md")).file? brokenSources =
        some ⟨0, ["report.md"]⟩ := by
      rw [AnalyzeOptions.file?, root_folderOptions]
      decide +kernel
    obtain ⟨final, hend, hpublished⟩ := hrun .markdown (some "report.md") <| by
      refine ⟨by simp, fun _ => ⟨by decide +kernel, ?_⟩⟩
      rw [hfile]
      simpa using FileSystem.exists_save_missing (by decide) isFolder_brokenSources rfl
    obtain ⟨hprinted, -, hsaved⟩ := hpublished.saved _ hfile
    exact ⟨final, hend, hprinted, (hsaved rfl).read_eq⟩
  · have hfind := find_twoSources "package p\nfunc f() {}\n" "package p\nfunc f(\n"
    have hlocated : Located brokenSources ⟨0, []⟩ [⟨0, ["a.go"]⟩, ⟨0, ["b.go"]⟩] :=
      report_accounts_for_files.1 _ _ _ _ _ (discover_twoSources _ _ .json)
    refine ((report_accounts_for_files.2.1 _ "" _ _ hlocated).2 _ _
      (sameBut_twoSources _ _ "package p\n")).2 _ ?_
    rw [brokenSources, hfind.2.1]
    decide

end GoMeter
