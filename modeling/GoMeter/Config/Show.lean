import GoMeter.Config.Basic
import GoMeter.Data.Value
import GoMeter.Yaml.Writer

/-!
# Configurations as data and as text

A configuration is a mapping from keys to lists of texts, truth values, numbers and words. That mapping
is the data of the file that gives the configuration, and the file is its text.

* `Config.toValue`: the data of the configuration file that gives these settings.
* `Config.toYaml`: the text of that file.
-/

namespace GoMeter

/-- The value of a key. -/
inductive Setting where
  | texts (items : List String)
  | truth (b : Bool)
  | number (n : Int)
  /-- A word that needs no quotes. -/
  | word (s : String)
  deriving DecidableEq, Repr

namespace Setting

/-- A setting as data. -/
def toValue : Setting → Value
  | .texts items => .list (items.map .text)
  | .truth b => .bool b
  | .number n => .int n
  | .word s => .text s

/-- A key with its setting, as lines of a file. -/
def entry (key : String) : Setting → List Char
  | .texts items => Yaml.listEntry key items
  | .truth b => Yaml.plainEntry key (if b then "true" else "false")
  | .number n => Yaml.plainEntry key (Decimal.text n)
  | .word s => Yaml.plainEntry key s

end Setting

namespace Config

/-- All keys in their usual order, each with its setting. -/
def settings (c : Config) : List (String × Setting) :=
  [("include", .texts c.included),
   ("exclude", .texts c.excluded),
   ("include_tests", .truth c.includeTests),
   ("max_files", .number c.maxFiles),
   ("inline_budget", .number c.inlineBudget),
   ("max_func_calls", .number c.maxFuncCalls),
   ("only_inlineable", .truth c.onlyInlineable),
   ("show_noinline", .truth c.showNoinline),
   ("format", .word c.format.word)]

/-- The data of the configuration file that gives these settings. -/
def toValue (c : Config) : Value := .object (c.settings.map fun (key, s) => (key, s.toValue))

/-- The configuration file that gives these settings. -/
def toYaml (c : Config) : String :=
  String.ofList (c.settings.flatMap fun (key, s) => s.entry key)

end Config

end GoMeter
