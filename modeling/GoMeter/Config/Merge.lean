import GoMeter.Config.Basic
import GoMeter.Data.Integer
import GoMeter.Log

/-!
# Settings from data

Several configuration files may be given. Each changes the settings before it; the lists of patterns of
the first file that has them replace the defaults, and those of later files are added. A setting of the
wrong type is passed over, with a warning where it could have been meant as a number or a format.

* `Settings.merge`: the settings after one more file.
-/

namespace GoMeter

/-- Settings, and whether a file has set the lists of patterns. -/
structure Settings where
  config : Config
  includeSet : Bool
  excludeSet : Bool
  deriving DecidableEq, Repr

namespace Settings

/-- The settings before any file. -/
def start : Settings := ⟨.default, false, false⟩

/-- A list of texts; an item that cannot be written is a failure. -/
def listAt (raw : Value) (key : String) : Except IntegerFault (Option (List String)) :=
  match raw.get? key with
  | some (.list items) =>
    if items.all Value.isWritable then .ok (some (items.map fun v => String.ofList v.plain))
    else .error .tooLong
  | _ => .ok none

/-- A list of patterns after one more file. -/
def mergeList (old : List String) (isSet : Bool) (given : Option (List String)) :
    List String × Bool :=
  match given with
  | none => (old, isSet)
  | some new => (if isSet then old ++ new else new, true)

/-- An integer, with a warning if there is another value; infinity is a failure. -/
def integerAt (raw : Value) (key : String) : Attempt IntegerFault (Option Int) :=
  match raw.get? key with
  | none | some .null | some (.bool _) => pure none
  | some v =>
    match v.toInteger with
    | .ok n => pure (some n)
    | .error .infinite => throw .infinite
    | .error _ => do
      Logged.say .warning .config ("Ignoring non-integer " ++ key ++ "=" ++ String.ofList v.shown ++ ".")
      pure none

/-- The words for true. -/
def trueWords : List String := ["true", "yes", "1", "on"]

/-- The words for false. -/
def falseWords : List String := ["false", "no", "0", "off"]

/-- A text without blanks around it, in lower case. -/
def folded (cs : List Char) : String := String.ofList (Text.lower (Text.strip cs))

/-- A truth value; a number other than zero is true. -/
def truthAt (raw : Value) (key : String) (default : Bool) : Bool :=
  match raw.get? key with
  | some (.bool b) => b
  | some (.int n) => n != 0
  | some (.float x) => !x.isZero
  | some (.text s) =>
    let word := folded s.toList
    if trueWords.contains word then true
    else if falseWords.contains word then false
    else default
  | _ => default

/-- A report format, with a warning if there is another value; one that cannot be written is a
failure. -/
def formatAt (raw : Value) (default : ReportFormat) : Attempt IntegerFault ReportFormat :=
  match raw.get? "format" with
  | none | some .null => pure default
  | some v =>
    if v.isWritable then
      match ReportFormat.ofWord? (folded v.plain) with
      | some f => pure f
      | none => do
        Logged.say .warning .config
          ("Unknown report format " ++ String.ofList v.shown ++ "; using " ++ default.word ++ ".")
        pure default
    else throw .tooLong

/-- The greatest number of files, if a file names one that is positive. -/
def positive? (n : Option Int) : Option Int := n.filter fun n => 1 ≤ n

/-- The settings after one more file. -/
def merge (s : Settings) (raw : Value) : Attempt IntegerFault Settings := do
  let base := s.config
  let includes ← Attempt.ofExcept (listAt raw "include")
  let (included, includeSet) := mergeList base.included s.includeSet includes
  let excludes ← Attempt.ofExcept (listAt raw "exclude")
  let (excluded, excludeSet) := mergeList base.excluded s.excludeSet excludes
  let maxFiles ← integerAt raw "max_files"
  let inlineBudget ← integerAt raw "inline_budget"
  let maxFuncCalls ← integerAt raw "max_func_calls"
  let format ← formatAt raw base.format
  let config : Config :=
    { included := included
      excluded := excluded
      includeTests := truthAt raw "include_tests" base.includeTests
      maxFiles := (positive? maxFiles).getD base.maxFiles
      inlineBudget := inlineBudget.getD base.inlineBudget
      maxFuncCalls := maxFuncCalls.getD base.maxFuncCalls
      onlyInlineable := truthAt raw "only_inlineable" base.onlyInlineable
      showNoinline := truthAt raw "show_noinline" base.showNoinline
      format := format }
  pure ⟨config, includeSet, excludeSet⟩

end Settings

end GoMeter
