import GoMeter.Proofs.Json.Characters
import GoMeter.Proofs.Json.RoundTrip
import GoMeter.Proofs.Outcome
import GoMeter.Report.Json

/-!
# Reports are read back

A report is written with all that it holds, and what is written gives the report back, through the
fields of the mappings, the text, and the file that the text is put into. The one thing that the format
does not keep is an integer with more digits than are read.

* `Report.integers`: the integers of a report.
* `Report.ofValue_toValue`: a report and its mapping.
* `Report.plain_toValue`: the mapping is one that JSON text keeps.
* `report_read_back`: reports and lists of records are read back from their texts.
-/

namespace GoMeter

open Json (WithinLimit Plain)

/-! ## Records -/

namespace FunctionRecord

theorem ofValue_toValue (r : FunctionRecord) : ofValue r.toValue = .ok r := rfl

theorem ofValues_map_toValue (rs : List FunctionRecord) : ofValues (rs.map toValue) = .ok rs := by
  have hmaps : (rs.map toValue).filter Value.isMap = rs.map toValue := by
    rw [List.filter_eq_self]
    intro v hv
    obtain ⟨r, -, rfl⟩ := List.mem_map.mp hv
    rfl
  rw [ofValues, hmaps]
  exact mapM_map_eq_ok fun r _ => ofValue_toValue r

theorem plain_toValue {r : FunctionRecord} (h : ∀ n ∈ r.integers, WithinLimit n) : Plain r.toValue := by
  obtain ⟨hline, hsize, hcalls⟩ : WithinLimit r.line ∧ WithinLimit r.size ∧ WithinLimit r.calls := by
    simpa [integers] using h
  exact .object (by simp) (by
    simp [Plain.int hline, Plain.int hsize, Plain.int hcalls, Plain.bool])

end FunctionRecord

/-! ## Files -/

namespace FileReport

/-- The integers of a file. -/
def integers (f : FileReport) : List Int := f.functions.flatMap FunctionRecord.integers

/-- A file as a mapping. -/
def toValue (f : FileReport) : Value :=
  .object [("file", .text f.file), ("functions", .list (f.functions.map FunctionRecord.toValue))]

theorem fileOf_toValue (f : FileReport) : Report.fileOf f.toValue = .ok f := by
  have hfunctions : Report.fieldOf f.toValue "functions" (.list []) =
    .ok (.list (f.functions.map FunctionRecord.toValue)) := rfl
  have hfile : Report.fieldOf f.toValue "file" (.text "") = .ok (.text f.file) := rfl
  simp [Report.fileOf, Report.textField, hfunctions, hfile, Report.itemsOf,
    FunctionRecord.ofValues_map_toValue, Value.plain, bind, Except.bind, pure, Except.pure]

theorem plain_toValue {f : FileReport} (h : ∀ n ∈ f.integers, WithinLimit n) : Plain f.toValue := by
  have hfunctions : Plain (.list (f.functions.map FunctionRecord.toValue)) :=
    .list_map fun r hr => FunctionRecord.plain_toValue fun n hn =>
      h n (List.mem_flatMap.mpr ⟨r, hr, hn⟩)
  exact .object (by simp) (by simp [Plain.text, hfunctions])

end FileReport

namespace FailedFile

/-- A failed file as a mapping. -/
def toValue (f : FailedFile) : Value :=
  .object [("file", .text f.file), ("line", (f.line.map Value.int).getD .null),
    ("message", .text f.message)]

theorem failureOf_toValue (f : FailedFile) : Report.failureOf f.toValue = .ok f := by
  have hline : Report.fieldOf f.toValue "line" .null = .ok ((f.line.map Value.int).getD .null) := rfl
  have hfile : Report.fieldOf f.toValue "file" (.text "") = .ok (.text f.file) := rfl
  have hmessage : Report.fieldOf f.toValue "message" (.text "") = .ok (.text f.message) := rfl
  obtain ⟨file, line, message⟩ := f
  cases line <;>
    simp [Report.failureOf, Report.textField, hline, hfile, hmessage, Value.plain, Value.toInteger, bind,
      Except.bind, pure, Except.pure]

theorem plain_toValue {f : FailedFile} (h : ∀ n ∈ f.integers, WithinLimit n) : Plain f.toValue := by
  have hline : Plain ((f.line.map Value.int).getD .null) := by
    cases hcase : f.line with
    | none => exact .null
    | some n => exact .int (h n (by simp [integers, hcase]))
  exact .object (by simp) (by simp [Plain.text, hline])

end FailedFile

/-! ## Reports -/

namespace Report

/-- The integers of a report. -/
def integers (r : Report) : List Int :=
  r.schemaVersion :: r.files.flatMap FileReport.integers ++ r.failures.flatMap FailedFile.integers

theorem toValue_eq (r : Report) :
    r.toValue = .object [("schema_version", .int r.schemaVersion),
      ("generated_at", .text r.generatedAt), ("root", .text r.root),
      ("files", .list (r.files.map FileReport.toValue)),
      ("parse_failures", .list (r.failures.map FailedFile.toValue))] := rfl

/-- The mapping of a report gives the report back. -/
theorem ofValue_toValue (r : Report) : ofValue r.toValue = .ok r := by
  -- Every field is found under the key that it was written with, so no default takes its place.
  have hfiles : fieldOf r.toValue "files" (.list []) =
    .ok (.list (r.files.map FileReport.toValue)) := rfl
  have hfailures : fieldOf r.toValue "parse_failures" (.list []) =
    .ok (.list (r.failures.map FailedFile.toValue)) := rfl
  have hschema : FunctionRecord.intField r.toValue "schema_version" currentSchema =
    .ok r.schemaVersion := rfl
  have htime : fieldOf r.toValue "generated_at" (.text "") = .ok (.text r.generatedAt) := rfl
  have hroot : fieldOf r.toValue "root" (.text "") = .ok (.text r.root) := rfl
  simp [ofValue, textField, hfiles, hfailures, hschema, htime, hroot, itemsOf,
    mapM_map_eq_ok fun f _ => FileReport.fileOf_toValue f,
    mapM_map_eq_ok fun f _ => FailedFile.failureOf_toValue f, Value.plain, bind, Except.bind, pure,
    Except.pure]

theorem plain_toValue {r : Report} (h : ∀ n ∈ r.integers, WithinLimit n) : Plain r.toValue := by
  obtain ⟨⟨hschema, hfiles⟩, hfailures⟩ : (WithinLimit r.schemaVersion ∧
      ∀ n ∈ r.files.flatMap FileReport.integers, WithinLimit n) ∧
      ∀ n ∈ r.failures.flatMap FailedFile.integers, WithinLimit n := by
    rwa [integers, List.forall_mem_append, List.forall_mem_cons] at h
  have hfiles : Plain (.list (r.files.map FileReport.toValue)) :=
    .list_map fun f hf => FileReport.plain_toValue fun n hn =>
      hfiles n (List.mem_flatMap.mpr ⟨f, hf, hn⟩)
  have hfailures : Plain (.list (r.failures.map FailedFile.toValue)) :=
    .list_map fun f hf => FailedFile.plain_toValue fun n hn =>
      hfailures n (List.mem_flatMap.mpr ⟨f, hf, hn⟩)
  rw [toValue_eq]
  exact .object (by simp) (by simp [Plain.text, Plain.int hschema, hfiles, hfailures])

/-- A report is read back from its text. -/
theorem ofJson_toJson {r : Report} (h : ∀ n ∈ r.integers, WithinLimit n) : ofJson r.toJson = .ok r := by
  have hread : readJson r.toJson = .ok r.toValue := by
    rw [readJson, toJson, Json.indented, (plain_toValue h).read_write Json.Layout.setsApart_twoBlanks]
  rw [ofJson, hread]
  exact ofValue_toValue r

end Report

/-- Records are read back from their text. -/
theorem recordsOfJson_recordsToJson {rs : List FunctionRecord}
    (h : ∀ r ∈ rs, ∀ n ∈ r.integers, WithinLimit n) : recordsOfJson (recordsToJson rs) = .ok rs := by
  have hplain : Plain (.list (rs.map FunctionRecord.toValue)) :=
    .list_map fun r hr => FunctionRecord.plain_toValue (h r hr)
  have hread : readJson (recordsToJson rs) = .ok (.list (rs.map FunctionRecord.toValue)) := by
    rw [readJson, recordsToJson, Json.compact, hplain.read_write Json.Layout.setsApart_oneLine]
  rw [recordsOfJson, hread]
  exact FunctionRecord.ofValues_map_toValue rs

/-- Reports and lists of records whose integers are within the limit on digits are read back from
their texts. The text of a report is also what the file that it is put into is read as, where every line
end becomes a line feed. -/
theorem report_read_back :
    (∀ r : Report, (∀ n ∈ r.integers, WithinLimit n) →
      Report.ofJson r.toJson = .ok r ∧ Config.textOf r.toJson.toUTF8.data = .ok r.toJson.toList) ∧
    ∀ rs : List FunctionRecord, (∀ r ∈ rs, ∀ n ∈ r.integers, WithinLimit n) →
      recordsOfJson (recordsToJson rs) = .ok rs := by
  refine ⟨fun r hr => ⟨Report.ofJson_toJson hr, ?_⟩, fun rs hrs => recordsOfJson_recordsToJson hrs⟩
  have htext := Config.textOf_toUTF8 (Json.isLegible_write Json.Layout.legible_twoBlanks 0 r.toValue)
  rw [Report.toJson, Json.indented, htext, String.toList_ofList]

/-- A report with characters of every way to be written, and with an integer that has as many digits
as are read. -/
def crowdedReport : Report where
  schemaVersion := -3
  generatedAt := ""
  root := "a\"b\\c/d\te\r\n\x00\x7f"
  files := [⟨"größe.go", [⟨10 ^ (Json.digitLimit - 1), 0, -7, true, false⟩]⟩, ⟨"𝄞.go", []⟩]
  failures := [⟨"x.go", none, "\uffff"⟩, ⟨"y.go", some 12, "𐀀 \u2028"⟩]

theorem crowdedReport_read_back :
    (∀ n ∈ crowdedReport.integers, WithinLimit n) ∧
      Report.ofJson crowdedReport.toJson = .ok crowdedReport ∧
      Config.textOf crowdedReport.toJson.toUTF8.data = .ok crowdedReport.toJson.toList ∧
      recordsOfJson (recordsToJson [⟨10 ^ (Json.digitLimit - 1), 0, -7, true, false⟩]) =
        .ok [⟨10 ^ (Json.digitLimit - 1), 0, -7, true, false⟩] := by
  have hsmall {n : Int} (h : n.natAbs < 10 ^ 2) : WithinLimit n :=
    Json.withinLimit_of_lt (by decide) (by decide) h
  have hlong : WithinLimit (10 ^ (Json.digitLimit - 1)) := by
    refine Json.withinLimit_of_lt (by decide) le_rfl ?_
    rw [Int.natAbs_pow, show (10 : Int).natAbs = 10 from rfl, Nat.pow_lt_pow_iff_right (by decide)]
    decide
  have hreport : ∀ n ∈ crowdedReport.integers, WithinLimit n := by
    have hintegers : crowdedReport.integers = [-3, 10 ^ (Json.digitLimit - 1), 0, -7, 12] := rfl
    rw [hintegers]
    simp only [List.forall_mem_cons]
    exact ⟨hsmall (by decide), hlong, hsmall (by decide), hsmall (by decide), hsmall (by decide),
      by simp⟩
  refine ⟨hreport, (report_read_back.1 _ hreport).1, (report_read_back.1 _ hreport).2,
    report_read_back.2 _ ?_⟩
  simp only [List.forall_mem_cons, FunctionRecord.integers]
  exact ⟨⟨hlong, hsmall (by decide), hsmall (by decide), by simp⟩, by simp⟩

end GoMeter
