import GoMeter.Data.Stamp
import GoMeter.Number.Binary64

/-!
# Data values

Configuration files and reports hold values of one dynamic type. The entries of a mapping keep the
order in which their keys first appeared.

* `Value`: the values.
* `Value.get?`: the value under a text key.
-/

namespace GoMeter

/-- A value of a data file. -/
inductive Value where
  | null
  | bool (b : Bool)
  | int (n : Int)
  | float (x : Binary64)
  | text (s : String)
  | stamp (s : Stamp)
  | list (items : List Value)
  | map (entries : List (Value × Value))
  deriving Repr, Inhabited

namespace Value

/-- The value under a text key. -/
def get? (v : Value) (key : String) : Option Value :=
  match v with
  | .map entries =>
    entries.findSome? fun (k, x) =>
      match k with
      | .text s => if s = key then some x else none
      | _ => none
  | _ => none

/-- Whether a value is a mapping. -/
def isMap : Value → Bool
  | .map _ => true
  | _ => false

/-- A mapping with text keys. -/
def object (fields : List (String × Value)) : Value :=
  .map (fields.map fun (k, v) => (.text k, v))

end Value

end GoMeter
