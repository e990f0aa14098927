import GoMeter.Lines.Directive
import GoMeter.Syntax.Kind

/-!
# Refused sources

A source that cannot be measured is refused for one cause, on one physical line.
-/

namespace GoMeter

/-- Why a source is refused. -/
inductive Cause where
  /-- The source is no Go file. -/
  | malformed
  /-- A token of this kind is missing. -/
  | missing (kind : Kind)
  /-- The file does not open with its package clause. -/
  | packageExpected
  /-- An import follows another declaration. -/
  | lateImport
  /-- A statement stands outside every function. -/
  | strayStatement
  /-- A line directive is malformed. -/
  | directive (fault : Directive.Fault)
  deriving DecidableEq, Repr

/-- A cause with the line it is reported on. -/
structure Refusal where
  line : Nat
  cause : Cause
  deriving DecidableEq, Repr

/-- The wording of a cause. -/
def Cause.message : Cause → String
  | .malformed => "syntax error"
  | .missing kind => "missing " ++ kind.spelling
  | .packageExpected => "expected 'package'"
  | .lateImport => "imports must appear before other declarations"
  | .strayStatement => "non-declaration statement outside function body"
  | .directive fault => fault.message

/-- The wording of a refusal. -/
def Refusal.message (r : Refusal) : String :=
  "line " ++ toString r.line ++ ": " ++ r.cause.message

end GoMeter
