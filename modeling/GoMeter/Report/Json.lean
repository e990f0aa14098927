import GoMeter.Data.Integer
import GoMeter.Json.Reader
import GoMeter.Json.Writer
import GoMeter.Report.Basic

/-!
# Reports in JSON

Records and reports as JSON text and back. Reading is lenient: a missing field has a default, a
number may be given as text, and records that are no mappings are passed over.

* `FunctionRecord.toValue`, `FunctionRecord.ofValue`: one record.
* `Report.toValue`, `Report.ofValue`: a report.
* `recordsToJson`, `recordsOfJson`: a list of records on one line.
* `Report.toJson`, `Report.ofJson`: a report with one item a line.
-/

namespace GoMeter

/-- Why a text is no report. -/
inductive ReportFault where
  /-- The text is not JSON, or holds a number that is too long. -/
  | json (error : Json.ReadError)
  /-- The text is not a list of records. -/
  | notList
  /-- A value of this type stands where a mapping is needed. -/
  | notMapping (type : String)
  /-- A value of this type stands where a list is needed. -/
  | notIterable (type : String)
  /-- A value stands where an integer is needed. -/
  | notInteger (fault : IntegerFault)
  deriving DecidableEq, Repr

/-- The wording of a fault. -/
def ReportFault.message : ReportFault → String
  | .json .malformed => "malformed JSON"
  | .json (.tooManyDigits n) => (IntegerFault.tooManyDigits n).message
  | .notList => "expected a JSON array of function records"
  | .notMapping type => "'" ++ type ++ "' object has no attribute 'get'"
  | .notIterable type => "'" ++ type ++ "' object is not iterable"
  | .notInteger fault => fault.message

namespace FunctionRecord

/-- A record as a mapping. -/
def toValue (r : FunctionRecord) : Value :=
  .object [("line", .int r.line), ("astCount", .int r.size), ("funcCallCount", .int r.calls),
    ("hasNoinline", .bool r.noinline), ("hasAnyCalls", .bool r.anyCalls)]

/-- An integer field of a mapping. -/
def intField (v : Value) (key : String) (default : Int) : Except ReportFault Int :=
  match v.get? key with
  | none => .ok default
  | some x =>
    match x.toInteger with
    | .ok n => .ok n
    | .error fault => .error (.notInteger fault)

/-- A truth value of a mapping. -/
def boolField (v : Value) (key : String) : Bool := ((v.get? key).map Value.isTruthy).getD false

/-- The record of a mapping. -/
def ofValue (v : Value) : Except ReportFault FunctionRecord := do
  let line ← intField v "line" 1
  let size ← intField v "astCount" 0
  let calls ← intField v "funcCallCount" 0
  pure ⟨line, size, calls, boolField v "hasNoinline", boolField v "hasAnyCalls"⟩

/-- The records among some values: those that are mappings. -/
def ofValues (vs : List Value) : Except ReportFault (List FunctionRecord) :=
  (vs.filter Value.isMap).mapM ofValue

end FunctionRecord

/-- Records on one line. -/
def recordsToJson (rs : List FunctionRecord) : String :=
  Json.compact (.list (rs.map FunctionRecord.toValue))

/-- The value of a JSON text. -/
def readJson (text : String) : Except ReportFault Value :=
  match Json.read text with
  | .ok v => .ok v
  | .error e => .error (.json e)

/-- The records of a JSON text. -/
def recordsOfJson (text : String) : Except ReportFault (List FunctionRecord) := do
  match ← readJson text with
  | .list vs => FunctionRecord.ofValues vs
  | _ => throw .notList

namespace Report

/-- A report as a mapping. -/
def toValue (r : Report) : Value :=
  .object [("schema_version", .int r.schemaVersion), ("generated_at", .text r.generatedAt),
    ("root", .text r.root),
    ("files", .list (r.files.map fun f =>
      .object [("file", .text f.file), ("functions", .list (f.functions.map FunctionRecord.toValue))])),
    ("parse_failures", .list (r.failures.map fun f =>
      .object [("file", .text f.file), ("line", (f.line.map Value.int).getD .null),
        ("message", .text f.message)]))]

/-- A field of a mapping, or `default` if the mapping has none. -/
def fieldOf (v : Value) (key : String) (default : Value) : Except ReportFault Value :=
  if v.isMap then .ok ((v.get? key).getD default) else .error (.notMapping v.typeName)

/-- What is met when a value is gone through: the items of a list, the keys of a mapping, the
characters of a text. -/
def itemsOf : Value → Except ReportFault (List Value)
  | .list vs => .ok vs
  | .map entries => .ok (entries.map Prod.fst)
  | .text s => .ok (s.toList.map fun c => .text (String.singleton c))
  | v => .error (.notIterable v.typeName)

/-- A text field of a mapping; any value has a text. -/
def textField (v : Value) (key : String) : Except ReportFault String := do
  let x ← fieldOf v key (.text "")
  pure (String.ofList x.plain)

/-- The file of a mapping. -/
def fileOf (v : Value) : Except ReportFault FileReport := do
  let functions ← FunctionRecord.ofValues (← itemsOf (← fieldOf v "functions" (.list [])))
  let file ← textField v "file"
  pure ⟨file, functions⟩

/-- The failed file of a mapping. -/
def failureOf (v : Value) : Except ReportFault FailedFile := do
  let line ← fieldOf v "line" .null
  let file ← textField v "file"
  let message ← textField v "message"
  match line with
  | .null => pure ⟨file, none, message⟩
  | x =>
    match x.toInteger with
    | .ok n => pure ⟨file, some n, message⟩
    | .error fault => throw (.notInteger fault)

/-- The report of a mapping. -/
def ofValue (v : Value) : Except ReportFault Report := do
  let files ← (← itemsOf (← fieldOf v "files" (.list []))).mapM fileOf
  let failures ← (← itemsOf (← fieldOf v "parse_failures" (.list []))).mapM failureOf
  let schema ← FunctionRecord.intField v "schema_version" currentSchema
  let generatedAt ← textField v "generated_at"
  let root ← textField v "root"
  pure ⟨schema, generatedAt, root, files, failures⟩

/-- A report with one item a line. -/
def toJson (r : Report) : String := Json.indented r.toValue

/-- The report of a JSON text. -/
def ofJson (text : String) : Except ReportFault Report := do
  ofValue (← readJson text)

end Report

end GoMeter
