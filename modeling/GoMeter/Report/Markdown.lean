import GoMeter.Number.Decimal
import GoMeter.Report.Basic

/-!
# Reports in Markdown

A report starts with a list of its key figures. Every file with a visible record has a heading and a
table; then come a note on inexact sizes or on the absence of functions, and the files that could
not be measured.

* `FunctionRecord.title`: the size of a function in words.
* `Report.markdown`: a report as text.
* `Report.shownIntegers`: the integers in this text.
-/

namespace GoMeter

/-- The size of a function in words; a tilde marks one with calls, whose size may be higher. -/
def FunctionRecord.title (r : FunctionRecord) : String :=
  (if r.anyCalls then "~" else "") ++ Decimal.text r.size ++
    (if 1 < r.size then " nodes" else " node")

namespace Report

/-- A number as code. -/
def code (n : Int) : String := "`" ++ Decimal.text n ++ "`"

/-- The key figures. -/
def figures (choice : RowChoice) (r : Report) : List String :=
  ["# gocost report", "",
   "- Generated: `" ++ r.generatedAt ++ "`",
   "- Root: `" ++ r.root ++ "`",
   "- Files: " ++ code r.files.length,
   "- Functions: " ++ code r.functionCount,
   "- Inline budget: " ++ code choice.inlineBudget ++ " nodes, " ++ code choice.maxFuncCalls ++
     " call(s)"] ++
  (if r.failures.isEmpty then [] else ["- Parse failures: " ++ code r.failures.length]) ++ [""]

/-- The table row of a record. -/
def row (choice : RowChoice) (r : FunctionRecord) : String :=
  "| " ++ Decimal.text r.line ++ " | " ++ r.title ++ " | " ++ Decimal.text r.calls ++ " | " ++
    (if choice.isCandidate r then "yes" else "no") ++ " | " ++ (if r.noinline then "yes" else "") ++
    " |"

/-- The heading and the table of a file, if one of its records is visible. -/
def fileTable (choice : RowChoice) (f : FileReport) : List String :=
  let rows := choice.visible f.functions
  if rows.isEmpty then []
  else
    ["## " ++ f.file, "", "| Line | Size | Calls | Candidate | noinline |", "|---:|---|---:|---|---|"]
      ++ rows.map (row choice) ++ [""]

/-- What is known after the tables: how many rows there are, and whether one has calls. -/
structure Tables where
  lines : List String
  shown : Nat
  uncertain : Bool

/-- Adds the table of a file. -/
def Tables.add (choice : RowChoice) (t : Tables) (f : FileReport) : Tables :=
  let rows := choice.visible f.functions
  ⟨t.lines ++ fileTable choice f, t.shown + rows.length, t.uncertain || rows.any (·.anyCalls)⟩

/-- The tables of all files. -/
def tables (choice : RowChoice) (r : Report) : Tables :=
  r.files.foldl (Tables.add choice) ⟨[], 0, false⟩

/-- What a tilde means. -/
def uncertainNote : String :=
  "`~`: Actual nodes count may be higher due to function calls that could be inlined."

/-- The note after the tables. -/
def Tables.note (t : Tables) : List String :=
  if t.shown = 0 then ["No functions to report.", ""]
  else if t.uncertain then [uncertainNote, ""]
  else []

/-- A file that could not be measured. -/
def failureLine (f : FailedFile) : String :=
  "- " ++ f.file ++ ((f.line.map fun n => ":" ++ Decimal.text n).getD "") ++ ": " ++ f.message

/-- The files that could not be measured. -/
def failureLines (r : Report) : List String :=
  if r.failures.isEmpty then []
  else ["## Parse failures", ""] ++ r.failures.map failureLine ++ [""]

/-- The lines of a report. -/
def markdownLines (choice : RowChoice) (r : Report) : List String :=
  let t := r.tables choice
  r.figures choice ++ t.lines ++ t.note ++ r.failureLines

/-- The integers that the lines of a report show. -/
def shownIntegers (choice : RowChoice) (r : Report) : List Int :=
  [choice.inlineBudget, choice.maxFuncCalls, r.files.length, r.functionCount, r.failures.length] ++
    (r.files.flatMap fun f => (choice.visible f.functions).flatMap FunctionRecord.integers) ++
    r.failures.flatMap FailedFile.integers

/-- A report as text. -/
def markdown (choice : RowChoice) (r : Report) : String :=
  "\n".intercalate (r.markdownLines choice)

end Report

end GoMeter
