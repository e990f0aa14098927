import GoMeter.Config.Basic
import GoMeter.Data.Integer

/-!
# Complaints about configuration data

Strict counterpart of reading a configuration: unknown keys and values of the wrong type are listed,
unknown keys first, in the order of the data.

* `Config.complaints`: what is wrong with the data of a configuration file.
-/

namespace GoMeter.Config

/-- A complaint about a list of texts. -/
def listComplaint (raw : Value) (key : String) : List String :=
  let isText : Value → Bool
    | .text _ => true
    | _ => false
  match raw.get? key with
  | none => []
  | some (.list items) => if items.all isText then [] else [key ++ " must be a list of strings"]
  | some _ => [key ++ " must be a list of strings"]

/-- A complaint about an integer with a least value. -/
def integerComplaint (raw : Value) (key : String) (least : Int) : List String :=
  match raw.get? key with
  | none | some .null => []
  | some (.int n) => if n < least then [key ++ " must be >= " ++ Decimal.text least] else []
  | some _ => [key ++ " must be an integer"]

/-- A complaint about a truth value. -/
def truthComplaint (raw : Value) (key : String) : List String :=
  match raw.get? key with
  | none | some .null | some (.bool _) => []
  | some _ => [key ++ " must be a boolean"]

/-- A complaint about the report format. -/
def formatComplaint (raw : Value) : List String :=
  match raw.get? "format" with
  | none | some .null => []
  | some (.text s) =>
    if (ReportFormat.ofWord? (String.ofList (Text.lower s.toList))).isSome then []
    else ["format must be one of: " ++ ", ".intercalate (ReportFormat.all.map (·.word))]
  | some _ => ["format must be a string"]

/-- A complaint about a key that is not known. -/
def keyComplaint (key : Value) : List String :=
  match key with
  | .text s => if keys.contains s then [] else ["Unknown key: " ++ s]
  | k => ["Unknown key: " ++ String.ofList k.plain]

/-- The keys of a mapping. -/
def keysOf : Value → List Value
  | .map entries => entries.map Prod.fst
  | _ => []

/-- What is wrong with the data of a configuration file. -/
def complaints (raw : Value) : List String :=
  (keysOf raw).flatMap keyComplaint ++
    listComplaint raw "include" ++ listComplaint raw "exclude" ++
    truthComplaint raw "include_tests" ++ truthComplaint raw "only_inlineable" ++
    truthComplaint raw "show_noinline" ++
    integerComplaint raw "max_files" 1 ++ integerComplaint raw "inline_budget" 0 ++
    integerComplaint raw "max_func_calls" 0 ++ formatComplaint raw

end GoMeter.Config
