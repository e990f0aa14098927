import GoMeter.Discovery
import GoMeter.Go.Grammar
import GoMeter.Measure

/-!
# Building a report

Every file of a run has one entry in the report: its records, or the reason why it has none. A file that
cannot be measured does not affect the others.

* `measureSource`: the records of a source.
* `Report.build`: the report of some files.
-/

namespace GoMeter

/-- The records of a source, with what there is to say on the way. -/
def measureSource (src : Source) : Attempt Refusal (List FunctionRecord) := do
  let root ← Attempt.ofExcept (Go.parse src)
  Attempt.ofExcept (checkTree src root)
  Logged.say .debug .parse ("Parsed " ++ Decimal.text src.bytes.size ++ " bytes (" ++
    Decimal.text root.namedChildren.length ++ " top-level nodes)")
  let records ← Attempt.ofExcept (measure src root)
  Logged.say .debug .measure ("Analyzed " ++ Decimal.text records.length ++ " functions")
  pure records

/-- The name of a file in a report: its path below the analysed folder, or its path as it was found. -/
def reportName (fs : FileSystem) (root p : Path) : Except DiscoveryFault String := do
  let place ← Discovery.placeOf fs p
  let base ← Discovery.placeOf fs root
  pure (if base.isPrefixOf place then Path.text ⟨0, place.drop base.length⟩ else p.text)

/-- What became of a file. -/
inductive FileOutcome where
  | measured (f : FileReport)
  | failed (f : FailedFile)
  deriving DecidableEq, Repr

/-- Says that a file is passed over. -/
def skipping (name reason : String) : Logged Unit :=
  Logged.say .warning .commandLine ("Skipping " ++ name ++ ": " ++ reason)

/-- What becomes of a file with a name and, if it can be read, bytes. -/
def outcomeOf (name : String) (bytes : Except SystemFault (Array UInt8)) : Logged FileOutcome :=
  match bytes with
  | .error fault => do
    skipping name fault.message
    pure (.failed ⟨name, none, "unreadable (" ++ fault.message ++ ")"⟩)
  | .ok bytes => do
    match ← (measureSource ⟨bytes⟩).outcome with
    | .error refusal =>
      skipping name refusal.message
      pure (.failed ⟨name, some refusal.line, refusal.message⟩)
    | .ok records =>
      Logged.say .debug .commandLine (name ++ ": " ++ Decimal.text records.length ++ " functions")
      pure (.measured ⟨name, records⟩)

/-- What becomes of a file. -/
def fileOutcome (fs : FileSystem) (root p : Path) : Attempt DiscoveryFault FileOutcome := do
  let name ← Attempt.ofExcept (reportName fs root p)
  outcomeOf name (fs.read p)

/-- The report of what became of some files. -/
def Report.ofOutcomes (generatedAt : String) (root : Path) (outcomes : List FileOutcome) : Report where
  schemaVersion := Report.currentSchema
  generatedAt := generatedAt
  root := root.text
  files := outcomes.filterMap fun
    | .measured f => some f
    | .failed _ => none
  failures := outcomes.filterMap fun
    | .measured _ => none
    | .failed f => some f

/-- The report of some files. -/
def Report.build (fs : FileSystem) (generatedAt : String) (root : Path) (files : List Path) :
    Attempt DiscoveryFault Report := do
  let outcomes ← files.mapM (fileOutcome fs root)
  pure (Report.ofOutcomes generatedAt root outcomes)

end GoMeter
