import GoMeter.Proofs.Discovery
import GoMeter.Report.Build

/-!
# What a report says of each file

Every file of a report has one entry of its own, which depends on the contents of that file and of no
other. The report lists the entries of both kinds in the order of the files.

* `entryOf`: the entry of a file.
* `Entered`: what an entry has to say, given what can be read and measured.
* `Report.Accounts`: a report of some files.
* `Report.exists_build`: a report is built, and accounts for the files.
* `entryOf_eq`: other contents of one file change the entry of that file only.
-/

namespace GoMeter

namespace FileOutcome

/-- The name of a file in its entry. -/
def name : FileOutcome → String
  | measured f => f.file
  | failed f => f.file

/-- The records of a measured file. -/
def measured? : FileOutcome → Option FileReport
  | measured f => some f
  | failed _ => none

/-- Why a file has no records. -/
def failure? : FileOutcome → Option FailedFile
  | measured _ => none
  | failed f => some f

end FileOutcome

/-- The entry of a file. A file without a place has no name in a report; its path stands for it. -/
def entryOf (fs : FileSystem) (root p : Path) : FileOutcome :=
  (outcomeOf ((reportName fs root p).toOption.getD p.text) (fs.read p)).result

/-- An entry says of a file what reading and measuring it comes to. It tells of a failure if, and only
if, one of the two fails. -/
structure Entered (fs : FileSystem) (root p : Path) (entry : FileOutcome) : Prop where
  name_eq : reportName fs root p = .ok entry.name
  failed_iff : (∃ f, entry = .failed f) ↔
    (∃ fault, fs.read p = .error fault) ∨
      ∃ bytes refusal, fs.read p = .ok bytes ∧
        (measureSource ⟨bytes⟩).outcome.result = .error refusal
  unreadable : ∀ fault, fs.read p = .error fault →
    entry = .failed ⟨entry.name, none, "unreadable (" ++ fault.message ++ ")"⟩
  refused : ∀ bytes refusal, fs.read p = .ok bytes →
    (measureSource ⟨bytes⟩).outcome.result = .error refusal →
    entry = .failed ⟨entry.name, some refusal.line, refusal.message⟩
  measured : ∀ bytes records, fs.read p = .ok bytes →
    (measureSource ⟨bytes⟩).outcome.result = .ok records →
    entry = .measured ⟨entry.name, records⟩

/-- A report has one entry for every file, those of either kind in the order of the files. -/
structure Report.Accounts (report : Report) (fs : FileSystem) (root : Path) (files : List Path) :
    Prop where
  files_eq : report.files = files.filterMap fun p => (entryOf fs root p).measured?
  failures_eq : report.failures = files.filterMap fun p => (entryOf fs root p).failure?
  complete : report.files.length + report.failures.length = files.length
  entered : ∀ p ∈ files, Entered fs root p (entryOf fs root p)

/-! ## One file -/

section File

variable {fs fs' : FileSystem} {root p : Path} {place : Place}

theorem exists_reportName (hroot : ∃ base, fs.resolve root = some base)
    (hp : ∃ place, fs.resolve p = some place) : ∃ name, reportName fs root p = .ok name := by
  obtain ⟨base, hbase⟩ := hroot
  obtain ⟨place, hplace⟩ := hp
  simp [reportName, Discovery.placeOf, hbase, hplace, bind, Except.bind, pure, Except.pure]

/-- What becomes of bytes is what their measurement comes to. -/
theorem result_outcomeOf_ok (name : String) (bytes : Array UInt8) :
    (outcomeOf name (.ok bytes)).result =
      match (measureSource ⟨bytes⟩).outcome.result with
      | .error refusal => .failed ⟨name, some refusal.line, refusal.message⟩
      | .ok records => .measured ⟨name, records⟩ := by
  simp only [outcomeOf, bind, Logged.andThen]
  cases (measureSource ⟨bytes⟩).outcome.result <;> rfl

theorem name_outcomeOf (name : String) (bytes : Except SystemFault (Array UInt8)) :
    (outcomeOf name bytes).result.name = name := by
  cases bytes with
  | error fault => rfl
  | ok bytes =>
    rw [result_outcomeOf_ok]
    cases (measureSource ⟨bytes⟩).outcome.result <;> rfl

theorem entered_outcomeOf {name : String} (hname : reportName fs root p = .ok name) :
    Entered fs root p (outcomeOf name (fs.read p)).result where
  name_eq := by rw [name_outcomeOf, hname]
  failed_iff := by
    cases hread : fs.read p with
    | error fault => exact iff_of_true ⟨_, rfl⟩ (.inl ⟨fault, rfl⟩)
    | ok bytes =>
      rw [result_outcomeOf_ok]
      cases hmeasured : (measureSource ⟨bytes⟩).outcome.result <;> simp [hmeasured]
  unreadable := by
    intro fault hread
    rw [hread]
    rfl
  refused := by
    intro bytes refusal hread hmeasured
    rw [name_outcomeOf, hread, result_outcomeOf_ok, hmeasured]
  measured := by
    intro bytes records hread hmeasured
    rw [name_outcomeOf, hread, result_outcomeOf_ok, hmeasured]

theorem entryOf_of_reportName {name : String} (h : reportName fs root p = .ok name) :
    entryOf fs root p = (outcomeOf name (fs.read p)).result := by
  rw [entryOf, h]
  rfl

theorem fileOutcome_eq_ok (hroot : ∃ base, fs.resolve root = some base)
    (hp : ∃ place, fs.resolve p = some place) :
    (fileOutcome fs root p).outcome.result = .ok (entryOf fs root p) ∧
      Entered fs root p (entryOf fs root p) := by
  obtain ⟨name, hname⟩ := exists_reportName hroot hp
  rw [entryOf_of_reportName hname]
  refine ⟨?_, entered_outcomeOf hname⟩
  rw [fileOutcome, hname, Attempt.bind_eq_ok_iff]
  exact ⟨name, rfl, by rw [Attempt.outcome_lift]⟩

/-- Other contents of another file leave an entry as it is. -/
theorem entryOf_eq (h : fs.SameBut fs' place) (hp : fs.find p ≠ .ok place) :
    entryOf fs' root p = entryOf fs root p := by
  have hname : reportName fs' root p = reportName fs root p := by
    simp only [reportName, Discovery.placeOf, h.resolve_eq, h.base_eq]
  rw [entryOf, entryOf, hname, h.read_eq hp]

theorem Discovery.Located.of_sameBut {files : List Path} (h : Located fs root files)
    (hsame : fs.SameBut fs' place) : Located fs' root files where
  root := by simpa only [hsame.resolve_eq] using h.root
  files := by simpa only [hsame.resolve_eq] using h.files

end File

/-! ## All files -/

namespace Report

variable {fs : FileSystem} {root : Path} {files : List Path}

theorem length_measured_add_length_failed (outcomes : List FileOutcome) :
    (outcomes.filterMap FileOutcome.measured?).length +
      (outcomes.filterMap FileOutcome.failure?).length = outcomes.length := by
  induction outcomes with
  | nil => rfl
  | cons o outcomes ih =>
    cases o <;>
      simp only [List.filterMap_cons, FileOutcome.measured?, FileOutcome.failure?, List.length_cons] <;>
      omega

/-- A report is built from the entries of its files. -/
theorem build_eq_ok (time : String) (h : Discovery.Located fs root files) :
    (build fs time root files).outcome.result =
      .ok (ofOutcomes time root (files.map (entryOf fs root))) := by
  have hentries : (files.mapM (fileOutcome fs root)).outcome.result =
      .ok (files.map (entryOf fs root)) := by
    rw [Attempt.mapM_eq_ok_iff, List.forall₂_map_right_iff]
    exact List.forall₂_same.mpr fun p hp => (fileOutcome_eq_ok h.root (h.files p hp)).1
  rw [build, Attempt.bind_eq_ok_iff]
  exact ⟨_, hentries, rfl⟩

/-- A report is built, and accounts for the files. -/
theorem exists_build (time : String) (h : Discovery.Located fs root files) :
    ∃ report, (build fs time root files).outcome.result = .ok report ∧
      report.Accounts fs root files := by
  refine ⟨_, build_eq_ok time h, ?_⟩
  constructor
  · exact List.filterMap_map
  · exact List.filterMap_map
  · rw [← files.length_map (entryOf fs root)]
    exact length_measured_add_length_failed _
  · exact fun p hp => (fileOutcome_eq_ok h.root (h.files p hp)).2

end Report

end GoMeter
