import GoMeter.FunctionRecord

/-!
# Reports

A report lists the measured files in order, each with its records, and apart from them the files
that could not be measured.

* `RowChoice`: which records a reader wants to see, and which count as candidates for inlining.
-/

namespace GoMeter

/-- A file that could not be measured. -/
structure FailedFile where
  file : String
  line : Option Int
  message : String
  deriving DecidableEq, Repr

/-- The integers of a failed file: its line, if it has one. -/
def FailedFile.integers (f : FailedFile) : List Int := f.line.toList

/-- A measured file. -/
structure FileReport where
  file : String
  functions : List FunctionRecord
  deriving DecidableEq, Repr

/-- The result of measuring several files. -/
structure Report where
  schemaVersion : Int
  generatedAt : String
  root : String
  files : List FileReport
  failures : List FailedFile
  deriving DecidableEq, Repr

namespace Report

/-- The version of the report format. -/
def currentSchema : Int := 1

/-- The number of records in a report. -/
def functionCount (r : Report) : Nat :=
  r.files.foldl (fun n f => n + f.functions.length) 0

end Report

/-- Which records are shown, and which count as candidates for inlining. -/
structure RowChoice where
  onlyInlineable : Bool := false
  showNoinline : Bool := false
  inlineBudget : Int := 80
  maxFuncCalls : Int := 1
  deriving DecidableEq, Repr, Inhabited

namespace RowChoice

/-- Whether a function is small enough and calls little enough to be inlined. -/
def isCandidate (choice : RowChoice) (r : FunctionRecord) : Bool :=
  r.size < choice.inlineBudget && r.calls ≤ choice.maxFuncCalls

/-- Whether a record is shown. -/
def shows (choice : RowChoice) (r : FunctionRecord) : Bool :=
  (!choice.onlyInlineable || choice.isCandidate r) && (choice.showNoinline || !r.noinline)

/-- The records that are shown, in order. -/
def visible (choice : RowChoice) (rs : List FunctionRecord) : List FunctionRecord :=
  rs.filter choice.shows

end RowChoice

end GoMeter
