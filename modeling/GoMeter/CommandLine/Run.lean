import GoMeter.CommandLine.Invocation
import GoMeter.Config.Show
import GoMeter.Report.Build
import GoMeter.Report.Json
import GoMeter.Report.Markdown

/-!
# Runs

A run of the program takes arguments, what stands on its input, the time and the files, and leaves
an exit code, what it has printed, its messages and the changed files.

* `Session`: what a run has done so far.
* `run`: a whole run.
-/

namespace GoMeter

/-- What ends a run without an exit code. -/
inductive RunFault where
  | config (fault : ConfigFault)
  | discovery (fault : DiscoveryFault)
  | system (fault : SystemFault)
  deriving DecidableEq, Repr

/-- The wording of what ended a run. -/
def RunFault.message : RunFault → String
  | .config fault => fault.message
  | .discovery fault => fault.message
  | .system fault => fault.message

/-- What a run starts from. -/
structure Surroundings where
  input : Array UInt8
  time : String

/-- What a run has done so far. -/
structure Session where
  files : FileSystem
  printed : String
  messages : List Message

/-- A part of a run. -/
abbrev Program := ExceptT RunFault (StateM Session)

namespace Program

/-- The files at this point of a run. -/
def files : Program FileSystem := do pure (← get).files

/-- Says something. -/
def say (level : Level) (text : String) : Program Unit :=
  modify fun s => { s with messages := s.messages ++ [⟨level, .commandLine, text⟩] }

/-- Prints a text. -/
def print (text : String) : Program Unit := modify fun s => { s with printed := s.printed ++ text }

/-- Does what may fail and has messages. -/
def attempt {ε α : Type} (f : ε → RunFault) (x : Attempt ε α) : Program α := do
  modify fun s => { s with messages := s.messages ++ x.outcome.messages }
  match x.outcome.result with
  | .ok a => pure a
  | .error fault => throw (f fault)

/-- Changes the files. -/
def change (f : FileSystem → Except SystemFault FileSystem) : Program Unit := do
  match f (← files) with
  | .ok fs => modify fun s => { s with files := fs }
  | .error fault => throw (.system fault)

/-- Writes a file, in folders that are made if they are missing. -/
def writeFile (p : Path) (text : String) : Program Unit := do
  change fun fs => fs.makeFolders p.parent
  change fun fs => fs.write p text.toUTF8.data

/-- A text that is not empty. -/
def nonEmpty? (s : Option String) : Option String := s.filter (· != "")

/-- Integers with too many digits cannot be written, be they settings or parts of a report. -/
def requireWritable (writable : Bool) : Program Unit :=
  if writable then pure () else throw (.config (.setting .tooLong))

/-- A text with a line feed at its end. -/
def ended (text : String) : String :=
  if text.toList.getLast? = some '\n' then text else text ++ "\n"

/-- Puts a result into a file below a folder, or prints it. -/
def deliver (text : String) (output : Option String) (root : Path) : Program Unit := do
  match nonEmpty? output with
  | none => print (ended text)
  | some name =>
    let p := root.join (.ofText name)
    writeFile p text
    say .info ("Wrote " ++ p.text)

/-- The absolute path that a path leads to. -/
def resolved (path : String) : Program Path := do
  let fs ← files
  match Discovery.placeOf fs (.ofText path) with
  | .ok place => pure (FileSystem.pathOf place)
  | .error fault => throw (.discovery fault)

/-- The configuration files that are named, if any are. -/
def namedConfigs (configs : List String) : Option (List Path) :=
  if configs.isEmpty then none else some (configs.map Path.ofText)

/-- The exit code of a run that did what it was asked for. -/
def done : Nat := 0

/-- The exit code of a run that did not. -/
def failed : Nat := 1

/-! ## Commands -/

/-- What stands in a file or on the input. -/
def sourceBytes (around : Surroundings) (file : Option String) :
    Program (Except SystemFault (Array UInt8)) := do
  match (nonEmpty? file).filter (· != "-") with
  | some name => pure ((← files).read (.ofText name))
  | none => pure (.ok around.input)

/-- Measures one source. -/
def count (around : Surroundings) (file : Option String) : Program Nat := do
  match ← sourceBytes around file with
  | .error fault =>
    say .error ("Failed to read input (" ++ fault.message ++ ").")
    pure failed
  | .ok bytes =>
    let measured := (measureSource ⟨bytes⟩).outcome
    modify fun s => { s with messages := s.messages ++ measured.messages }
    match measured.result with
    | .error refusal =>
      say .error ("Parse failure: " ++ refusal.message)
      pure failed
    | .ok records =>
      requireWritable (Value.list (records.map FunctionRecord.toValue)).isWritable
      print (recordsToJson records ++ "\n")
      pure done

/-- The settings of a measurement: options win over files. -/
def override (c : Config) (o : AnalyzeOptions) : Config :=
  { c with
    format := o.format.getD c.format
    onlyInlineable := c.onlyInlineable || o.onlyInlineable
    showNoinline := c.showNoinline || o.showNoinline
    inlineBudget := o.inlineBudget.getD c.inlineBudget
    maxFuncCalls := o.maxFuncCalls.getD c.maxFuncCalls
    includeTests := c.includeTests && !o.excludeTests }

/-- A report in a format. -/
def render (c : Config) (r : Report) : String :=
  match c.format with
  | .json => r.toJson
  | .markdown => r.markdown c.rows

/-- Whether the integers in a report in a format can be written. -/
def isRenderable (c : Config) (r : Report) : Bool :=
  match c.format with
  | .json => r.toValue.isWritable
  | .markdown => (r.shownIntegers c.rows).all fun n => (Value.int n).isWritable

/-- Measures a file or a folder. -/
def analyze (around : Surroundings) (o : AnalyzeOptions) : Program Nat := do
  let fs ← files
  let target := Path.ofText o.path
  if !fs.exists? target then
    say .error ("Path " ++ target.text ++ " not found.")
    pure failed
  else
    let root := if fs.isFolder target then target else target.parent
    let loaded ← attempt .config (Config.load fs root (namedConfigs o.configs))
    let c := override loaded o
    let found ← attempt .discovery (discover fs root c [target])
    say .info ("Analyzing " ++ Decimal.text found.length ++ " Go files under " ++ root.text)
    let report ← attempt .discovery (Report.build fs around.time root found)
    requireWritable (isRenderable c report)
    deliver (render c report) o.output root
    if report.failures.isEmpty then pure done
    else
      say .error (Decimal.text report.failures.length ++ " file(s) failed to parse.")
      pure failed

/-- Writes a configuration file. -/
def init (path : String) (output : Option String) (template : Template) (force : Bool) :
    Program Nat := do
  let root ← resolved path
  let target := root.join (.ofText ((nonEmpty? output).getD Config.usualName))
  if (← files).exists? target && !force then
    say .error ("Config " ++ target.text ++ " already exists. Use --force to overwrite.")
    pure failed
  else
    writeFile target template.text
    say .info ("Wrote config to " ++ target.text)
    pure done

/-- Shows the configuration of a folder. -/
def showConfig (path : String) (configs : List String) (output : Option String) : Program Nat := do
  let root ← resolved path
  let c ← attempt .config (Config.load (← files) root (namedConfigs configs))
  requireWritable c.toValue.isWritable
  deliver c.toYaml output root
  pure done

/-- Checks the configuration of a folder. -/
def checkConfig (path : String) (configs : List String) : Program Nat := do
  let root ← resolved path
  let fs ← files
  let usual := root.child Config.usualName
  if configs.isEmpty && !fs.exists? usual then
    say .error ("Config " ++ usual.text ++ " not found.")
    pure failed
  else
    let paths := Config.files root (namedConfigs configs)
    let complaints ← attempt .config (Attempt.ofExcept (Config.check fs paths))
    if complaints.isEmpty then
      say .info "Config valid."
      pure done
    else
      complaints.forM (say .error)
      pure failed

/-- Carries out a command. -/
def perform (around : Surroundings) : Command → Program Nat
  | .count file => count around file
  | .analyze options => analyze around options
  | .showConfig path configs output => showConfig path configs output
  | .checkConfig path configs => checkConfig path configs
  | .init path output template force => init path output template force

end Program

/-- How a run ended. -/
structure Outcome where
  /-- The exit code, or what stood in its way. -/
  exit : Except RunFault Nat
  printed : String
  /-- The lines of the messages that are shown. -/
  lines : List String
  files : FileSystem

/-- The exit code of a run whose arguments are not understood. -/
def misused : Nat := 2

/-- A short account of how a program is used. -/
def helpText (program : String) : String :=
  "usage: " ++ program ++ " [options] [arguments]\n"

/-- A whole run. -/
def run (files : FileSystem) (around : Surroundings) (args : List String) : Outcome :=
  match CommandLine.request args with
  | .misuse m => ⟨.ok misused, "", [m.line], files⟩
  | .version =>
    ⟨.ok Program.done, CommandLine.programName ++ " " ++ CommandLine.programVersion ++ "\n", [], files⟩
  | .help program => ⟨.ok Program.done, helpText program, [], files⟩
  | .run i =>
    let (exit, s) := (Program.perform around i.command).run.run ⟨files, "", []⟩
    ⟨exit, s.printed, (s.messages.filter (Message.isShown i.verbose)).map Message.line, s.files⟩

end GoMeter
