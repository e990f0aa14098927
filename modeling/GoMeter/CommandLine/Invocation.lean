import GoMeter.CommandLine.Options
import GoMeter.Config.Basic

/-!
# Invocations

The commands of the program and their options.

* `Command`: a command with its options.
* `CommandLine.request`: what arguments stand for.
-/

namespace GoMeter

/-- The options that measure a tree of files. -/
structure AnalyzeOptions where
  path : String
  configs : List String
  format : Option ReportFormat
  output : Option String
  onlyInlineable : Bool
  showNoinline : Bool
  inlineBudget : Option Int
  maxFuncCalls : Option Int
  excludeTests : Bool
  deriving DecidableEq, Repr

/-- A command. -/
inductive Command where
  /-- Measures one source. -/
  | count (file : Option String)
  /-- Measures a file or a folder. -/
  | analyze (options : AnalyzeOptions)
  /-- Shows the configuration of a folder. -/
  | showConfig (path : String) (configs : List String) (output : Option String)
  /-- Checks the configuration of a folder. -/
  | checkConfig (path : String) (configs : List String)
  /-- Writes a configuration file. -/
  | init (path : String) (output : Option String) (template : Template) (force : Bool)
  deriving DecidableEq, Repr

/-- A command, and whether it tells what it does. -/
structure Invocation where
  verbose : Bool
  command : Command
  deriving DecidableEq, Repr

namespace CommandLine

/-- What an option says. -/
inductive Given where
  | help | version | verbose | onlyInlineable | showNoinline | excludeTests | force
  | config (path : String)
  | format (f : ReportFormat)
  | output (path : String)
  | inlineBudget (n : Int)
  | maxFuncCalls (n : Int)
  | template (t : Template)
  deriving DecidableEq, Repr

/-- Whether an option ends the reading of arguments. -/
def Given.stops : Given → Bool
  | .help | .version => true
  | _ => false

/-! ## Options -/

/-- An option that stands alone. -/
def flag (name : String) (g : Given) : OptionSpec Given := ⟨[name], .flag g⟩

/-- An option with any text. -/
def text (name : String) (give : String → Given) : OptionSpec Given :=
  ⟨[name], .value fun s => .ok (give s)⟩

/-- An option with an integer. -/
def integer (name : String) (give : Int → Given) : OptionSpec Given :=
  ⟨[name], .value fun s =>
    match readInteger s with
    | .ok n => .ok (give n)
    | .error _ => .error ("invalid int value: " ++ quote s)⟩

/-- An option with one of some words. -/
def oneOf {β : Type} (name : String) (words : List (String × β)) (give : β → Given) :
    OptionSpec Given :=
  ⟨[name], .value fun s =>
    match words.lookup s with
    | some b => .ok (give b)
    | none => .error (choiceReason s (words.map Prod.fst))⟩

/-- The option that asks for help. -/
def helpOption : OptionSpec Given := ⟨["-h", "--help"], .flag .help⟩

/-- The option that names a configuration file. -/
def configOption : OptionSpec Given := text "--config" .config

/-- The option that names the file to write. -/
def outputOption : OptionSpec Given := text "--output" .output

/-! ## Commands -/

/-- The name of the program. -/
def programName : String := "gocost"

/-- The version of the program. -/
def programVersion : String := "0.1.0"

/-- The program itself. -/
def programUsage : Usage Given :=
  ⟨programName,
    [helpOption, flag "--version" .version, ⟨["-v", "--verbose"], .flag .verbose⟩],
    .command "cmd" ["count", "analyze", "config", "init"]⟩

/-- The command that measures one source. -/
def countUsage : Usage Given := ⟨"gocost count", [helpOption], .one⟩

/-- The command that measures a tree of files. -/
def analyzeUsage : Usage Given :=
  ⟨"gocost analyze",
    [helpOption, configOption,
      oneOf "--format" (ReportFormat.all.map fun f => (f.word, f)) .format,
      outputOption, flag "--only-inlineable" .onlyInlineable, flag "--show-noinline" .showNoinline,
      integer "--inline-budget" .inlineBudget, integer "--max-func-calls" .maxFuncCalls,
      flag "--exclude-tests" .excludeTests],
    .one⟩

/-- The commands about configurations. -/
def configUsage : Usage Given :=
  ⟨"gocost config", [helpOption], .command "config_cmd" ["show", "validate"]⟩

/-- The command that shows a configuration. -/
def showUsage : Usage Given := ⟨"gocost config show", [helpOption, configOption, outputOption], .one⟩

/-- The command that checks a configuration. -/
def validateUsage : Usage Given := ⟨"gocost config validate", [helpOption, configOption], .one⟩

/-- The command that writes a configuration file. -/
def initUsage : Usage Given :=
  ⟨"gocost init",
    [helpOption, outputOption, oneOf "--preset" (Template.all.map fun t => (t.name, t)) .template,
      flag "--force" .force],
    .one⟩

/-! ## What options add up to -/

/-- The last value that one of some options gives. -/
def last? {β : Type} (pick : Given → Option β) (gs : List Given) : Option β :=
  (gs.filterMap pick).getLast?

/-- The configuration files. -/
def configsOf (gs : List Given) : List String :=
  gs.filterMap fun
    | .config p => some p
    | _ => none

/-- The file to write. -/
def outputOf (gs : List Given) : Option String :=
  last? (fun
    | .output p => some p
    | _ => none) gs

/-- The folder that is analysed if none is given. -/
def defaultPath : String := "."

/-- The options of a measurement. -/
def analyzeOptions (path : Option String) (gs : List Given) : AnalyzeOptions where
  path := path.getD defaultPath
  configs := configsOf gs
  format := last? (fun
    | .format f => some f
    | _ => none) gs
  output := outputOf gs
  onlyInlineable := gs.contains .onlyInlineable
  showNoinline := gs.contains .showNoinline
  inlineBudget := last? (fun
    | .inlineBudget n => some n
    | _ => none) gs
  maxFuncCalls := last? (fun
    | .maxFuncCalls n => some n
    | _ => none) gs
  excludeTests := gs.contains .excludeTests

/-- The template of a new configuration file. -/
def templateOf (gs : List Given) : Template :=
  (last? (fun
    | .template t => some t
    | _ => none) gs).getD .full

/-! ## Reading -/

/-- What arguments stand for. -/
inductive Request where
  | run (i : Invocation)
  | version
  | help (program : String)
  | misuse (m : Misuse)
  deriving DecidableEq, Repr

/-- What the options of a command ask for before all else. -/
def early? (u : Usage Given) (gs : List Given) : Option Request :=
  gs.findSome? fun
    | .help => some (.help u.program)
    | .version => some .version
    | _ => none

/-- Reads the arguments of a command and goes on with what they say. -/
def reading (u : Usage Given) (args : List String) (next : Parsed Given → Request) : Request :=
  match u.parse Given.stops args with
  | .error m => .misuse m
  | .ok p => (early? u p.given).getD (next p)

/-- The command that is run, unless there are arguments without a meaning. -/
def finish (verbose : Bool) (unknown : List String) (c : Command) : Request :=
  if unknown.isEmpty then .run ⟨verbose, c⟩
  else .misuse ⟨programName, "unrecognized arguments: " ++ " ".intercalate unknown⟩

/-- The name of a command is missing. -/
def missing (u : Usage Given) (label : String) : Request :=
  .misuse ⟨u.program, "the following arguments are required: " ++ label⟩

/-- A command with at most one operand. -/
def simple (verbose : Bool) (unknown : List String) (u : Usage Given) (args : List String)
    (command : Option String → List Given → Command) : Request :=
  reading u args fun p => finish verbose (unknown ++ p.unknown) (command p.operand p.given)

/-- A command about configurations. -/
def configRequest (verbose : Bool) (unknown : List String) (args : List String) : Request :=
  reading configUsage args fun p =>
    let unknown := unknown ++ p.unknown
    match p.command with
    | none => missing configUsage "config_cmd"
    | some ("show", args) =>
      simple verbose unknown showUsage args fun path gs =>
        .showConfig (path.getD defaultPath) (configsOf gs) (outputOf gs)
    | some (_, args) =>
      simple verbose unknown validateUsage args fun path gs =>
        .checkConfig (path.getD defaultPath) (configsOf gs)

/-- What arguments stand for. -/
def request (args : List String) : Request :=
  reading programUsage args fun p =>
    let verbose := p.given.contains .verbose
    match p.command with
    | none => missing programUsage "cmd"
    | some ("count", args) => simple verbose p.unknown countUsage args fun file _ => .count file
    | some ("analyze", args) =>
      simple verbose p.unknown analyzeUsage args fun path gs => .analyze (analyzeOptions path gs)
    | some ("config", args) => configRequest verbose p.unknown args
    | some (_, args) =>
      simple verbose p.unknown initUsage args fun path gs =>
        .init (path.getD defaultPath) (outputOf gs) (templateOf gs) (gs.contains .force)

end CommandLine

end GoMeter
