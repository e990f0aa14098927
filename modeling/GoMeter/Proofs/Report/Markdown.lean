import GoMeter.Proofs.Number.Decimal
import GoMeter.Report.Markdown
import Mathlib.Data.List.Basic

/-!
# What a report in Markdown shows

The lines of a report are read back as Markdown: headings, rows of tables with their cells, items of
lists, and other text. A reader of the report sees one heading for every file with a visible record,
under it a table with one row for each of these records, and under a last heading the files that
could not be measured.

* `Markdown.Line`, `Markdown.outline`: the lines of a text as Markdown, and the tables and lists
  under its headings.
* `RowChoice.Wants`: which records a reader wants to see.
* `Report.foldl_add`: what the tables of some files add up to.
* `Report.lines_fileTable`, `Report.lines_failureLines`: parts of a report, read back.
* `markdown_shows_wanted_records`: what is read in a report.
-/

namespace GoMeter

/-! ## Reading Markdown -/

namespace Markdown

/-- The texts between the bars of a table row, each without the blanks around it. -/
def cells (row : String) : List String :=
  (((row.toList.splitOn '|').drop 1).dropLast).map fun cs => String.ofList (cs.drop 1).dropLast

/-- What a line is. -/
inductive Line where
  | heading (title : String)
  | row (cells : List String)
  | item (text : String)
  | plain (text : String)
  deriving DecidableEq, Repr

/-- What a line is, by the characters that it starts with. -/
def Line.ofText (s : String) : Line :=
  match s.toList with
  | '#' :: '#' :: ' ' :: title => .heading (String.ofList title)
  | '|' :: ' ' :: _ => .row (cells s)
  | '-' :: ' ' :: text => .item (String.ofList text)
  | _ => .plain s

/-- The cells of a line that is a row. -/
def Line.cells? : Line → Option (List String)
  | .row cells => some cells
  | _ => none

/-- The text of a line that is an item. -/
def Line.item? : Line → Option String
  | .item text => some text
  | _ => none

/-- Whether a line is a heading. -/
def Line.isHeading : Line → Bool
  | .heading _ => true
  | _ => false

namespace Line

@[simp] theorem parts_heading (title : String) : (heading title).isHeading = true ∧
    (heading title).cells? = none ∧ (heading title).item? = none := ⟨rfl, rfl, rfl⟩

@[simp] theorem parts_row (cells : List String) : (row cells).isHeading = false ∧
    (row cells).cells? = some cells ∧ (row cells).item? = none := ⟨rfl, rfl, rfl⟩

@[simp] theorem parts_item (text : String) : (item text).isHeading = false ∧
    (item text).cells? = none ∧ (item text).item? = some text := ⟨rfl, rfl, rfl⟩

@[simp] theorem parts_plain (text : String) : (plain text).isHeading = false ∧
    (plain text).cells? = none ∧ (plain text).item? = none := ⟨rfl, rfl, rfl⟩

end Line

/-- A heading with the rows and the items under it. -/
structure Section where
  title : String
  table : List (List String)
  items : List String
  deriving DecidableEq, Repr

/-- The sections of some lines. What is under a heading goes up to the next one. -/
def sections : List Line → List Section
  | [] => []
  | .heading title :: rest =>
    let body := rest.takeWhile fun line => !line.isHeading
    ⟨title, body.filterMap Line.cells?, body.filterMap Line.item?⟩ :: sections rest
  | _ :: rest => sections rest

/-- The sections of a text, given by its lines. -/
def outline (lines : List String) : List Section := sections (lines.map Line.ofText)

/-- The rows of all tables in a text, given by its lines. -/
def rows (lines : List String) : List (List String) := (lines.map Line.ofText).filterMap Line.cells?

/-- A table row with some cells. -/
def barred : List String → List Char
  | [] => ['|']
  | text :: texts => '|' :: ' ' :: (text.toList ++ ' ' :: barred texts)

/-- The bars of a row stand between its cells, and before and after all of them. -/
theorem barred_eq (texts : List String) :
    barred texts =
      ['|'].intercalate ([] :: texts.map (fun text => ' ' :: text.toList ++ [' ']) ++ [[]]) := by
  induction texts with
  | nil => simp [barred, List.intercalate]
  | cons text texts ih =>
    rw [barred, ih, List.map_cons, List.cons_append, List.cons_append, List.cons_append,
      List.intercalate_cons_cons, List.intercalate_cons_of_ne_nil (by simp),
      List.intercalate_cons_of_ne_nil (by simp)]
    simp

theorem cells_eq {row : String} {texts : List String} (h : ∀ text ∈ texts, '|' ∉ text.toList)
    (hrow : row.toList = barred texts) : cells row = texts := by
  have hbars : ∀ cs ∈ [] :: texts.map (fun text => ' ' :: text.toList ++ [' ']) ++ [[]], '|' ∉ cs := by
    simp only [List.cons_append, List.forall_mem_cons, List.forall_mem_append, List.forall_mem_map]
    simpa using h
  rw [cells, hrow, barred_eq, List.splitOn_intercalate _ hbars (by simp)]
  simp [Function.comp_def]

/-- A line with bars around its cells is a row. -/
theorem ofText_row {row text : String} {texts : List String}
    (h : ∀ text' ∈ text :: texts, '|' ∉ text'.toList) (hrow : row.toList = barred (text :: texts)) :
    Line.ofText row = .row (text :: texts) := by
  have hcells := cells_eq h hrow
  rw [barred] at hrow
  rw [Line.ofText, hrow]
  exact congrArg Line.row hcells

theorem ofText_blank : Line.ofText "" = .plain "" := rfl

/-- A line that is nothing else is found in a text if it is found among what its lines are. -/
theorem mem_iff_plain_mem {s : String} (h : Line.ofText s = .plain s) {lines : List String} :
    s ∈ lines ↔ .plain s ∈ lines.map Line.ofText := by
  constructor
  · intro hs
    exact h ▸ List.mem_map_of_mem hs
  · intro hs
    obtain ⟨line, hline, hof⟩ := List.mem_map.mp hs
    unfold Line.ofText at hof
    split at hof
    all_goals first
      | (cases hof; exact hline)
      | cases hof

section Sections

variable {before after rest : List Line}

/-- Lines before the first heading are in no section. -/
theorem sections_append (h : ∀ line ∈ before, line.isHeading = false) :
    sections (before ++ after) = sections after := by
  induction before with
  | nil => rfl
  | cons line before ih =>
    rw [List.forall_mem_cons] at h
    cases line with
    | heading title => cases h.1
    | row cells => exact ih h.2
    | item text => exact ih h.2
    | plain text => exact ih h.2

/-- Up to the next heading there is no row and no item. -/
def Quiet (lines : List Line) : Prop :=
  ∀ line ∈ lines.takeWhile fun line => !line.isHeading, line.cells? = none ∧ line.item? = none

theorem Quiet.filterMap_eq (h : Quiet rest) :
    (rest.takeWhile fun line => !line.isHeading).filterMap Line.cells? = [] ∧
      (rest.takeWhile fun line => !line.isHeading).filterMap Line.item? = [] := by
  rw [List.filterMap_eq_nil_iff, List.filterMap_eq_nil_iff]
  exact ⟨fun line hline => (h line hline).1, fun line hline => (h line hline).2⟩

@[simp] theorem quiet_nil : Quiet [] := by simp [Quiet]

@[simp] theorem quiet_heading (title : String) : Quiet (.heading title :: rest) := by
  simp [Quiet]

@[simp] theorem quiet_plain {text : String} : Quiet (.plain text :: rest) ↔ Quiet rest := by
  simp [Quiet]

/-- A heading and what is under it. -/
theorem sections_heading (title : String) (body : List Line)
    (hbody : ∀ line ∈ body, line.isHeading = false) (hrest : Quiet rest) :
    sections (.heading title :: body ++ rest) =
      ⟨title, body.filterMap Line.cells?, body.filterMap Line.item?⟩ :: sections rest := by
  obtain ⟨hcells, hitems⟩ := hrest.filterMap_eq
  have hbodyNot : ∀ line ∈ body, (!line.isHeading) = true := by simpa using hbody
  rw [List.cons_append, sections, sections_append hbody]
  simp only [List.takeWhile_append_of_pos hbodyNot, List.filterMap_append, hcells, hitems,
    List.append_nil]

/-- The rows of all tables are those before the first heading and those under the headings. -/
theorem filterMap_cells?_eq (lines : List Line) :
    lines.filterMap Line.cells? =
      (lines.takeWhile fun line => !line.isHeading).filterMap Line.cells? ++
        (sections lines).flatMap Section.table := by
  induction lines with
  | nil => rfl
  | cons line lines ih =>
    cases line with
    | heading title => exact ih
    | row cells => exact congrArg (cells :: ·) ih
    | item text => exact ih
    | plain text => exact ih

end Sections

end Markdown

/-! ## Visible records -/

namespace RowChoice

/-- A record is of a function that is small enough and calls little enough. -/
def Favours (choice : RowChoice) (r : FunctionRecord) : Prop :=
  r.size < choice.inlineBudget ∧ r.calls ≤ choice.maxFuncCalls

/-- A reader wants to see a record: functions that are marked against inlining are not hidden, and only
candidates are asked for if it is one. -/
def Wants (choice : RowChoice) (r : FunctionRecord) : Prop :=
  (r.noinline = true → choice.showNoinline = true) ∧ (choice.onlyInlineable = true → choice.Favours r)

instance (choice : RowChoice) (r : FunctionRecord) : Decidable (choice.Favours r) :=
  inferInstanceAs (Decidable (_ ∧ _))

instance (choice : RowChoice) (r : FunctionRecord) : Decidable (choice.Wants r) :=
  inferInstanceAs (Decidable (_ ∧ _))

theorem isCandidate_eq (choice : RowChoice) (r : FunctionRecord) :
    choice.isCandidate r = decide (choice.Favours r) := by
  rw [isCandidate, ← Bool.decide_and]
  rfl

theorem shows_eq (choice : RowChoice) (r : FunctionRecord) :
    choice.shows r = decide (choice.Wants r) := by
  rw [shows, isCandidate_eq, Bool.eq_iff_iff, decide_eq_true_iff, Wants]
  cases choice.onlyInlineable <;> cases choice.showNoinline <;> cases r.noinline <;> simp

theorem visible_eq (choice : RowChoice) (rs : List FunctionRecord) :
    choice.visible rs = rs.filter fun r => choice.Wants r :=
  List.filter_congr fun r _ => choice.shows_eq r

end RowChoice

/-! ## The parts of a report, read back -/

namespace Report

open Markdown

variable (choice : RowChoice) (r : Report)

/-- The titles of the columns. -/
def columns : List String := ["Line", "Size", "Calls", "Candidate", "noinline"]

/-- What the columns say of a record. -/
def cellsOf (record : FunctionRecord) : List String :=
  [Decimal.text record.line, record.title, Decimal.text record.calls,
    if choice.Favours record then "yes" else "no", if record.noinline then "yes" else ""]

/-- What is said of a file that could not be measured. -/
def failureText (f : FailedFile) : String :=
  match f.line with
  | some line => f.file ++ ":" ++ Decimal.text line ++ ": " ++ f.message
  | none => f.file ++ ": " ++ f.message

/-- The records of a file that are wanted. -/
def wantedIn (f : FileReport) : List FunctionRecord :=
  f.functions.filter fun record => choice.Wants record

theorem bar_not_mem_text (n : Int) : '|' ∉ (Decimal.text n).toList := by
  rw [Decimal.text, String.toList_ofList, Decimal.chars]
  intro hbar
  have hdigits : '|' ∉ Decimal.digits n.natAbs := fun h => by
    simpa using Decimal.isDigit_of_mem_digits h
  split at hbar
  · exact hdigits (by simpa using hbar)
  · exact hdigits hbar

theorem ofText_recordRow (record : FunctionRecord) :
    Line.ofText (row choice record) = .row (cellsOf choice record) := by
  refine ofText_row ?_ ?_
  · simp only [List.forall_mem_cons, FunctionRecord.title, String.toList_append, List.mem_append, not_or]
    refine ⟨bar_not_mem_text _, ⟨⟨?_, bar_not_mem_text _⟩, ?_⟩, bar_not_mem_text _, ?_, ?_, by simp⟩
    all_goals split <;> decide
  · have hopen : "| ".toList = ['|', ' '] := rfl
    have hbetween : " | ".toList = [' ', '|', ' '] := rfl
    have hclose : " |".toList = [' ', '|'] := rfl
    unfold row
    simp only [choice.isCandidate_eq, decide_eq_true_eq, String.toList_append, hopen, hbetween, hclose,
      barred, List.append_assoc, List.cons_append, List.nil_append]

theorem lines_fileTable (f : FileReport) :
    (fileTable choice f).map Line.ofText =
      if wantedIn choice f = [] then []
      else Line.heading f.file ::
        ([Line.plain "", Line.row columns, Line.plain "|---:|---|---:|---|---|"] ++
          (wantedIn choice f).map (fun record => Line.row (cellsOf choice record)) ++
          [Line.plain ""]) := by
  have hheading : Line.ofText ("## " ++ f.file) = .heading f.file := by simp [Line.ofText]
  have hcolumns : Line.ofText "| Line | Size | Calls | Candidate | noinline |" = .row columns := by
    decide +kernel
  have hrule : Line.ofText "|---:|---|---:|---|---|" = .plain "|---:|---|---:|---|---|" := by
    decide +kernel
  rw [fileTable, choice.visible_eq, ← wantedIn]
  simp only [List.isEmpty_iff]
  split
  · rfl
  · simp [hheading, hcolumns, hrule, ofText_blank, ofText_recordRow]

theorem ofText_failureLine (f : FailedFile) : Line.ofText (failureLine f) = .item (failureText f) := by
  have hline : failureLine f = "- " ++ failureText f := by
    rw [failureLine, failureText]
    cases f.line <;> simp [String.append_assoc]
  simp [hline, Line.ofText]

theorem lines_failureLines :
    r.failureLines.map Line.ofText =
      if r.failures = [] then []
      else Line.heading "Parse failures" ::
        (Line.plain "" :: r.failures.map (fun f => Line.item (failureText f)) ++ [Line.plain ""]) := by
  have hheading : Line.ofText "## Parse failures" = .heading "Parse failures" := by decide +kernel
  rw [failureLines]
  simp only [List.isEmpty_iff]
  split
  · rfl
  · simp [hheading, ofText_blank, ofText_failureLine]

/-- The key figures are items, with a title before them. -/
theorem of_mem_figures {line : String} (h : line ∈ r.figures choice) :
    line = "# gocost report" ∨ line = "" ∨ ∃ text, Line.ofText line = .item text := by
  rw [figures, List.mem_append, List.mem_append] at h
  rcases h with (h | h) | h
  · simp only [List.mem_cons, List.not_mem_nil, or_false] at h
    rcases h with rfl | rfl | rfl | rfl | rfl | rfl | rfl
    · exact .inl rfl
    · exact .inr (.inl rfl)
    all_goals exact .inr (.inr (by simp [Line.ofText]))
  · split at h
    · cases h
    · rw [List.mem_singleton] at h
      subst h
      exact .inr (.inr (by simp [Line.ofText]))
  · exact .inr (.inl (List.mem_singleton.mp h))

/-- The lines of plain text that every report may have. -/
def frame : List String := ["# gocost report", "", "|---:|---|---:|---|---|"]

/-- There are no headings and no tables among the key figures. -/
theorem parts_of_mem_figures {line : Line} (h : line ∈ (r.figures choice).map Line.ofText) :
    line.isHeading = false ∧ line.cells? = none ∧ ∀ text, line = .plain text → text ∈ frame := by
  have htitle : Line.ofText "# gocost report" = .plain "# gocost report" := by decide +kernel
  obtain ⟨text, htext, rfl⟩ := List.mem_map.mp h
  rcases of_mem_figures choice r htext with rfl | rfl | ⟨item, hitem⟩
  · simp [htitle, frame]
  · simp [ofText_blank, frame]
  · simp [hitem]

/-! ## Sections -/

/-- The section of a file. -/
def fileSection (f : FileReport) : Section :=
  ⟨f.file, columns :: (wantedIn choice f).map (cellsOf choice), []⟩

/-- The section of the files that could not be measured. -/
def failureSections : List Section :=
  if r.failures = [] then [] else [⟨"Parse failures", [], r.failures.map failureText⟩]

variable {rest : List Line}

theorem quiet_fileTables (files : List FileReport) (h : Quiet rest) :
    Quiet ((files.flatMap (fileTable choice)).map Line.ofText ++ rest) := by
  induction files with
  | nil => exact h
  | cons f files ih =>
    rw [List.flatMap_cons, List.map_append, List.append_assoc, lines_fileTable]
    split
    · exact ih
    · exact quiet_heading f.file

/-- Every file with a wanted record has a section, and no other. -/
theorem sections_fileTables (files : List FileReport) (h : Quiet rest) :
    sections ((files.flatMap (fileTable choice)).map Line.ofText ++ rest) =
      (files.filter fun f => wantedIn choice f ≠ []).map (fileSection choice) ++ sections rest := by
  induction files with
  | nil => rfl
  | cons f files ih =>
    rw [List.flatMap_cons, List.map_append, List.append_assoc, lines_fileTable, List.filter_cons]
    by_cases hnone : wantedIn choice f = []
    · simpa [hnone] using ih
    · rw [if_neg hnone, sections_heading f.file _ _ (quiet_fileTables choice files h), ih]
      · simp [hnone, fileSection, List.filterMap_map]
      · simp [or_imp, forall_and]

/-- What could not be measured has a section if there is any. -/
theorem sections_failureLines :
    Quiet (r.failureLines.map Line.ofText) ∧
      sections (r.failureLines.map Line.ofText) = failureSections r := by
  rw [lines_failureLines, failureSections]
  split
  · exact ⟨quiet_nil, rfl⟩
  · have hsection := sections_heading "Parse failures"
      (Line.plain "" :: r.failures.map (fun f => Line.item (failureText f)) ++ [Line.plain ""])
      (by simp [or_imp, forall_and]) quiet_nil
    rw [List.append_nil] at hsection
    refine ⟨quiet_heading _, hsection.trans ?_⟩
    simp [List.filterMap_map, sections]

/-! ## The note after the tables -/

/-- What the tables of some files add up to. -/
theorem foldl_add (files : List FileReport) (t : Tables) :
    files.foldl (Tables.add choice) t =
      ⟨t.lines ++ files.flatMap (fileTable choice), t.shown + (files.flatMap (wantedIn choice)).length,
        t.uncertain || (files.flatMap (wantedIn choice)).any (·.anyCalls)⟩ := by
  induction files generalizing t with
  | nil => simp
  | cons f files ih =>
    have hstep : t.add choice f = ⟨t.lines ++ fileTable choice f, t.shown + (wantedIn choice f).length,
        t.uncertain || (wantedIn choice f).any (·.anyCalls)⟩ := by
      rw [Tables.add, choice.visible_eq, ← wantedIn]
    rw [List.foldl_cons, hstep, ih]
    simp [Nat.add_assoc, Bool.or_assoc]

/-- The note after the tables, given all records in them. -/
def noteOf (records : List FunctionRecord) : List String :=
  if records = [] then ["No functions to report.", ""]
  else if records.any (·.anyCalls) then [uncertainNote, ""]
  else []

theorem uncertainNote_mem_noteOf_iff {records : List FunctionRecord} :
    uncertainNote ∈ noteOf records ↔ ∃ record ∈ records, record.anyCalls = true := by
  have hne : uncertainNote ∉ ["No functions to report.", ""] := by decide
  unfold noteOf
  split_ifs with hnone hcalls
  · simp [hnone, hne]
  · simpa using hcalls
  · simpa using hcalls

theorem nothing_mem_noteOf_iff {records : List FunctionRecord} :
    "No functions to report." ∈ noteOf records ↔ records = [] := by
  have hne : "No functions to report." ∉ [uncertainNote, ""] := by decide
  unfold noteOf
  split_ifs with hnone hcalls
  · simp [hnone]
  · simp [hnone, hne]
  · simp [hnone]

/-- The lines of a report, part by part. -/
theorem markdownLines_eq :
    r.markdownLines choice = r.figures choice ++ (r.files.flatMap (fileTable choice) ++
      (noteOf (r.files.flatMap (wantedIn choice)) ++ r.failureLines)) := by
  rw [markdownLines, tables, foldl_add, Tables.note]
  simp only [Nat.zero_add, List.length_eq_zero_iff, Bool.false_or, List.nil_append, List.append_assoc]
  rfl

/-- Lines of which the last one, if there is one, is blank. -/
def EndsBlank (lines : List String) : Prop := ∀ line ∈ lines.getLast?, line = ""

theorem EndsBlank.append {lines more : List String} (h : EndsBlank lines) (hmore : EndsBlank more) :
    EndsBlank (lines ++ more) := by
  intro line hline
  rw [List.getLast?_append, Option.mem_def, Option.or_eq_some_iff] at hline
  rcases hline with hline | ⟨-, hline⟩
  · exact hmore line hline
  · exact h line hline

theorem endsBlank_concat (lines : List String) : EndsBlank (lines ++ [""]) := by
  simp [EndsBlank]

theorem endsBlank_fileTables (files : List FileReport) :
    EndsBlank (files.flatMap (fileTable choice)) := by
  induction files with
  | nil => simp [EndsBlank]
  | cons f files ih =>
    rw [List.flatMap_cons]
    refine EndsBlank.append ?_ ih
    unfold fileTable
    dsimp only
    split
    · simp [EndsBlank]
    · exact endsBlank_concat _

/-- The last line of a report is blank, and is not the first one. -/
theorem exists_markdownLines_eq :
    ∃ line lines, r.markdownLines choice = line :: lines ++ [""] := by
  have hblank : EndsBlank (r.markdownLines choice) := by
    rw [markdownLines_eq]
    refine (endsBlank_concat _).append ((endsBlank_fileTables choice _).append (.append ?_ ?_))
    · unfold noteOf
      split_ifs <;> simp [EndsBlank]
    · unfold failureLines
      split
      · simp [EndsBlank]
      · exact endsBlank_concat _
  obtain ⟨rest, hrest⟩ : ∃ rest, r.markdownLines choice = "# gocost report" :: "" :: rest := ⟨_, rfl⟩
  obtain ⟨last, hlast⟩ : ∃ last, (r.markdownLines choice).getLast? = some last := by
    rw [hrest]
    exact ⟨_, List.getLast?_cons⟩
  obtain rfl : last = "" := hblank last hlast
  refine ⟨"# gocost report", ("" :: rest).dropLast, ?_⟩
  rw [← List.dropLast_append_getLast? _ hlast, hrest]
  rfl

/-- The text of a report ends a line. -/
theorem getLast?_markdown : (r.markdown choice).toList.getLast? = some '\n' := by
  obtain ⟨line, lines, hlines⟩ := exists_markdownLines_eq choice r
  have hblank (line : List Char) (lines : List (List Char)) :
      ['\n'].intercalate (line :: lines ++ [[]]) = ['\n'].intercalate (line :: lines) ++ ['\n'] := by
    induction lines generalizing line with
    | nil => simp [List.intercalate]
    | cons next lines ih =>
      rw [List.cons_append, List.cons_append, List.intercalate_cons_cons, ← List.cons_append, ih,
        List.intercalate_cons_cons]
      simp
  rw [markdown, hlines, String.toList_intercalate, List.map_append, List.map_cons, List.map_singleton]
  exact hblank .. ▸ List.getLast?_concat

theorem ofText_nothing :
    Line.ofText "No functions to report." = .plain "No functions to report." := by
  decide +kernel

theorem ofText_uncertainNote : Line.ofText uncertainNote = .plain uncertainNote := by
  decide +kernel

theorem lines_noteOf (records : List FunctionRecord) :
    (noteOf records).map Line.ofText = (noteOf records).map Line.plain := by
  unfold noteOf
  split_ifs <;> simp [ofText_nothing, ofText_uncertainNote, ofText_blank]

/-- Up to the next heading the note and what follows it have no row and no item. -/
theorem quiet_note :
    Quiet ((noteOf (r.files.flatMap (wantedIn choice))).map Line.plain ++
      r.failureLines.map Line.ofText) := by
  have hquiet := (sections_failureLines r).1
  unfold noteOf
  split_ifs <;> simpa using hquiet

/-- The sections of a report. -/
theorem outline_markdownLines :
    outline (r.markdownLines choice) =
      (r.files.filter fun f => wantedIn choice f ≠ []).map (fileSection choice) ++
        failureSections r := by
  rw [outline, markdownLines_eq]
  simp only [List.map_append, lines_noteOf]
  rw [sections_append fun line hline => (parts_of_mem_figures choice r hline).1,
    sections_fileTables choice _ (quiet_note choice r), sections_append (by simp),
    (sections_failureLines r).2]

/-- All rows of a report are under its headings. -/
theorem rows_markdownLines :
    rows (r.markdownLines choice) = (outline (r.markdownLines choice)).flatMap Section.table := by
  rw [rows, filterMap_cells?_eq, ← outline, List.append_left_eq_self, List.filterMap_eq_nil_iff]
  rw [markdownLines_eq]
  simp only [List.map_append, lines_noteOf]
  have hplain : ∀ line ∈ (r.figures choice).map Line.ofText, (!line.isHeading) = true := by
    intro line hline
    rw [(parts_of_mem_figures choice r hline).1]
    rfl
  rw [List.takeWhile_append_of_pos hplain, List.forall_mem_append]
  constructor
  · exact fun line hline => (parts_of_mem_figures choice r hline).2.1
  · exact fun line hline => (quiet_fileTables choice r.files (quiet_note choice r) line hline).1

/-- A line of plain text that not every report may have is the note. -/
theorem mem_markdownLines_iff {s : String} (hplain : Line.ofText s = .plain s) (hs : s ∉ frame) :
    s ∈ r.markdownLines choice ↔ s ∈ noteOf (r.files.flatMap (wantedIn choice)) := by
  have hfigures : .plain s ∉ (r.figures choice).map Line.ofText := fun hmem =>
    hs ((parts_of_mem_figures choice r hmem).2.2 s rfl)
  have htables : .plain s ∉ (r.files.flatMap (fileTable choice)).map Line.ofText := by
    rw [List.map_flatMap, List.mem_flatMap]
    rintro ⟨f, -, hmem⟩
    rw [lines_fileTable] at hmem
    split at hmem
    · cases hmem
    · obtain rfl | rfl | rfl : s = "" ∨ s = "|---:|---|---:|---|---|" ∨ s = "" := by simpa using hmem
      all_goals exact hs (by decide)
  have hfailures : .plain s ∉ r.failureLines.map Line.ofText := by
    rw [lines_failureLines]
    split
    · simp
    · simp_all [frame]
  rw [mem_iff_plain_mem hplain, markdownLines_eq]
  simp only [List.map_append, List.mem_append, lines_noteOf, hfigures, htables, hfailures, false_or,
    or_false]
  simp

end Report

open Markdown Report

/-- A report in Markdown has one section for every file with a wanted record, in the order of the
files, with one table row for each of these records, in their order, and no other rows; a last
section lists the files that could not be measured. The column for candidates says `yes` of these.
The note on inexact sizes is there if one of the wanted records has calls, and the note that there
is nothing to report if no record is wanted. -/
theorem markdown_shows_wanted_records (choice : RowChoice) (r : Report) :
    outline (r.markdownLines choice) =
      ((r.files.filter fun f => ∃ record ∈ f.functions, choice.Wants record).map fun f =>
        ⟨f.file,
          columns :: (f.functions.filter fun record => choice.Wants record).map (cellsOf choice), []⟩) ++
      (if r.failures = [] then [] else [⟨"Parse failures", [], r.failures.map failureText⟩]) ∧
    rows (r.markdownLines choice) = (outline (r.markdownLines choice)).flatMap Section.table ∧
    (∀ record, (cellsOf choice record)[columns.idxOf "Candidate"]? = some "yes" ↔
      record.size < choice.inlineBudget ∧ record.calls ≤ choice.maxFuncCalls) ∧
    (uncertainNote ∈ r.markdownLines choice ↔
      ∃ f ∈ r.files, ∃ record ∈ f.functions, choice.Wants record ∧ record.anyCalls = true) ∧
    ("No functions to report." ∈ r.markdownLines choice ↔
      ∀ f ∈ r.files, ∀ record ∈ f.functions, ¬ choice.Wants record) ∧
    ¬ (uncertainNote ∈ r.markdownLines choice ∧ "No functions to report." ∈ r.markdownLines choice) := by
  have hwanted : ∀ f, decide (wantedIn choice f ≠ []) =
      decide (∃ record ∈ f.functions, choice.Wants record) := by
    intro f
    simp [wantedIn]
  have huncertain := mem_markdownLines_iff choice r ofText_uncertainNote (by decide)
  have hnothing := mem_markdownLines_iff choice r ofText_nothing (by decide)
  rw [uncertainNote_mem_noteOf_iff] at huncertain
  rw [nothing_mem_noteOf_iff] at hnothing
  refine ⟨?_, rows_markdownLines choice r, fun record => ?_, ?_, ?_, ?_⟩
  · rw [outline_markdownLines, List.filter_congr fun f _ => hwanted f]
    rfl
  · show some (if choice.Favours record then "yes" else "no") = some "yes" ↔ choice.Favours record
    split <;> simp_all
  · rw [huncertain]
    simp only [List.mem_flatMap, wantedIn, List.mem_filter, decide_eq_true_eq]
    constructor
    · rintro ⟨record, ⟨f, hf, hrecord, hwants⟩, hcalls⟩
      exact ⟨f, hf, record, hrecord, hwants, hcalls⟩
    · rintro ⟨f, hf, record, hrecord, hwants, hcalls⟩
      exact ⟨record, ⟨f, hf, hrecord, hwants⟩, hcalls⟩
  · rw [hnothing]
    simp [wantedIn, List.filter_eq_nil_iff]
  · rintro ⟨hnote, hnone⟩
    rw [hnothing] at hnone
    rw [huncertain, hnone] at hnote
    simp at hnote

end GoMeter
