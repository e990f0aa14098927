/-!
# Function records

What is reported of one function: the line on which it starts, the size of its body, the calls in it
that are likely to cost something, whether it is marked against inlining, and whether it calls
anything at all.
-/

namespace GoMeter

/-- What is reported of a function. -/
structure FunctionRecord where
  line : Int
  size : Int
  calls : Int
  noinline : Bool
  anyCalls : Bool
  deriving DecidableEq, Repr, Inhabited

/-- The integers of a record. -/
def FunctionRecord.integers (r : FunctionRecord) : List Int := [r.line, r.size, r.calls]

end GoMeter
