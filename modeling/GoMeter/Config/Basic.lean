import GoMeter.Report.Basic

/-!
# Configurations

What a run measures and how it reports. The records of a report are chosen by `Config.rows`.

* `Config`: the settings, with their defaults.
* `Template`: ready-made configuration files.
-/

namespace GoMeter

/-- The formats of a report. -/
inductive ReportFormat where
  | json | markdown
  deriving DecidableEq, Repr, Inhabited

namespace ReportFormat

/-- The word for a format. -/
def word : ReportFormat → String
  | .json => "json"
  | .markdown => "md"

/-- All formats, by the order of their words. -/
def all : List ReportFormat := [.json, .markdown]

/-- The format of a word. -/
def ofWord? (s : String) : Option ReportFormat := all.find? fun f => f.word == s

end ReportFormat

/-- The settings of a run. -/
structure Config where
  included : List String := ["."]
  excluded : List String := ["vendor", "testdata", ".git"]
  includeTests : Bool := true
  maxFiles : Int := 1000
  inlineBudget : Int := 80
  maxFuncCalls : Int := 1
  onlyInlineable : Bool := false
  showNoinline : Bool := false
  format : ReportFormat := .json
  deriving DecidableEq, Repr, Inhabited

namespace Config

/-- The settings of a run that nothing is said about. -/
def default : Config := {}

/-- Which records a report shows. -/
def rows (c : Config) : RowChoice :=
  ⟨c.onlyInlineable, c.showNoinline, c.inlineBudget, c.maxFuncCalls⟩

/-- The keys of a configuration file, in their usual order. -/
def keys : List String :=
  ["include", "exclude", "include_tests", "max_files", "inline_budget", "max_func_calls",
   "only_inlineable", "show_noinline", "format"]

end Config

/-- A ready-made configuration file. -/
inductive Template where
  | full | inlining | minimal
  deriving DecidableEq, Repr

namespace Template

/-- The name of a template. -/
def name : Template → String
  | .full => "full"
  | .inlining => "inlining"
  | .minimal => "minimal"

/-- All templates, by the order of their names. -/
def all : List Template := [.full, .inlining, .minimal]

/-- The template of a name. -/
def ofName? (s : String) : Option Template := all.find? fun t => t.name == s

/-- The lines of a template. -/
def lines : Template → List String
  | .full =>
    ["# gocost configuration example (paths relative to the analysed root)",
     "include:",
     "  - \".\"",
     "exclude:",
     "  - \"vendor\"",
     "  - \"testdata\"",
     "  - \".git\"",
     "include_tests: true",
     "max_files: 1000",
     "",
     "# Inlining-candidate rule for the Markdown report: fewer than inline_budget",
     "# nodes and at most max_func_calls real calls.",
     "inline_budget: 80",
     "max_func_calls: 1",
     "only_inlineable: false",
     "show_noinline: false",
     "",
     "# Report format: json or md",
     "format: json"]
  | .minimal =>
    ["# gocost minimal configuration",
     "exclude:",
     "  - \"vendor\""]
  | .inlining =>
    ["# gocost configuration for reviewing inlining candidates",
     "exclude:",
     "  - \"vendor\"",
     "  - \"testdata\"",
     "include_tests: false",
     "inline_budget: 80",
     "max_func_calls: 1",
     "only_inlineable: true",
     "show_noinline: false",
     "format: md"]

/-- The text of a template. -/
def text (t : Template) : String := String.join (t.lines.map (· ++ "\n"))

end Template

end GoMeter
