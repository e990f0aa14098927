import GoMeter.Go.Expressions

/-!
# Declarations

Declarations of variables, constants, types, functions and methods, the package clause and imports.
In `type T [n]int` the bracket opens an array type, in `type T[P any] int` a list of type
parameters; the first reading is preferred where both are possible.
-/

namespace GoMeter.Go

open GoMeter.Go.Parser

variable (rules : Rules)

/-- One specification, or several in parentheses, which are then handed to `group` with the start of
the parenthesis. -/
def specifications (spec : Parser Node) (group : Nat → List Node → Parser (List Node)) :
    Parser (List Node) := do
  if ← sees "(" then
    let start := (← advance).start
    let specs ← lineList ")" spec
    let _ ← expect ")"
    group start specs
  else pure [← spec]

/-- Specifications that stand in the declaration itself. -/
def ungrouped (_ : Nat) (specs : List Node) : Parser (List Node) := pure specs

/-- Specifications in a node of their own. -/
def grouped (kind : Kind) (start : Nat) (specs : List Node) : Parser (List Node) := do
  pure [← node kind start specs]

/-- The values after an equals sign, if there is one. -/
def valuesOf : Parser (List Node) := do
  if ← accept "=" then pure [(← expressionList rules false).filling .value] else pure []

/-- A specification of variables: names with a type, values or both. -/
def varSpec : Parser Node := do
  let start := (← peek).start
  let names ← sepList "," name
  let type ← if ← sees "=" then pure [] else do
    pure [(← rules .type).filling .type]
  let values ← valuesOf rules
  node .varSpec start (names.map (fun t => (leaf .identifier t).filling .name) ++ type ++ values)

/-- A declaration of variables. -/
def varDeclaration : Parser Node := do
  let start := (← expect "var").start
  let specs ← specifications (varSpec rules) (grouped .varSpecList)
  node .varDeclaration start specs

/-- Names with commas between them, the commas included. -/
def namesWithCommas : Parser (List Node) := do
  let parts ← repeating
    (fun done => do
      let n := leaf .identifier (← name)
      if ← sees "," then
        let comma ← advance
        pure (mark .comma comma :: n :: done, true)
      else pure (n :: done, false))
    []
  pure (parts.reverse.map (·.filling .name))

/-- A specification of constants: names, then possibly a type and values. -/
def constSpec : Parser Node := do
  let start := (← peek).start
  let names ← namesWithCommas
  let type ← if ← seesType then pure [(← rules .type).filling .type] else pure []
  let values ← valuesOf rules
  if !type.isEmpty && values.isEmpty then fail
  node .constSpec start (names ++ type ++ values)

/-- A declaration of constants. -/
def constDeclaration : Parser Node := do
  let start := (← expect "const").start
  let specs ← specifications (constSpec rules) ungrouped
  node .constDeclaration start specs

/-- Stops unless a specification may end here. -/
def specEnd : Parser Unit := do
  let t ← peek
  if isSemicolon t || t.shape == .endOfFile || (← sees ")") || (← sees closeBrace) then pure ()
  else fail

/-- A type specification without type parameters. -/
def plainTypeSpec : Parser Node := do
  let t ← name
  let target := (leaf .typeIdentifier t).filling .name
  let isAlias ← accept "="
  let type ← rules .type
  specEnd
  node (if isAlias then .typeAlias else .typeSpec) t.start [target, type.filling .type]

/-- A type specification with type parameters. -/
def genericTypeSpec : Parser Node := do
  let t ← name
  let params ← typeParameters rules
  let isAlias ← accept "="
  let type ← rules .type
  node (if isAlias then .typeAlias else .typeSpec) t.start
    [(leaf .typeIdentifier t).filling .name, params.filling .typeParameters, type.filling .type]

/-- A type specification. -/
def typeSpec : Parser Node := do
  if ← seesAt 1 "[" then attempt (plainTypeSpec rules) (genericTypeSpec rules)
  else plainTypeSpec rules

/-- A declaration of types. -/
def typeDeclaration : Parser Node := do
  let start := (← expect "type").start
  let specs ← specifications (typeSpec rules) ungrouped
  node .typeDeclaration start specs

/-- The body of a function, if there is one. -/
def bodyOf : Parser (List Node) := do
  if ← sees openBrace then pure [(← rules .block).filling .body] else pure []

/-- A declaration of a function. -/
def functionDeclaration : Parser Node := do
  let start := (← expect "func").start
  let label := (leaf .identifier (← name)).filling .name
  let params ← if ← sees "[" then do
      pure [(← typeParameters rules).filling .typeParameters]
    else pure []
  let parts ← signature rules
  let body ← bodyOf rules
  node .functionDeclaration start (label :: params ++ parts ++ body)

/-- A declaration of a method. -/
def methodDeclaration : Parser Node := do
  let start := (← expect "func").start
  let receiver ← rules .parameters
  let label := (leaf .fieldIdentifier (← name)).filling .name
  let parts ← signature rules
  let body ← bodyOf rules
  node .methodDeclaration start (receiver.filling .receiver :: label :: parts ++ body)

/-- The package clause. -/
def packageClause : Parser Node := do
  let start := (← expect "package").start
  let t ← name
  node .packageClause start [leaf .packageIdentifier t]

/-- One import. -/
def importSpec : Parser Node := do
  let t ← peek
  let label ←
    if ← sees "." then do
      pure [(leaf .dot (← advance)).filling .name]
    else if ← seesName then do
      let kind := if t.shape == .name "_" then .blankIdentifier else .packageIdentifier
      pure [(leaf kind (← advance)).filling .name]
    else pure []
  let path ← stringLiteral
  node .importSpec t.start (label ++ [path.filling .path])

/-- A declaration of imports. -/
def importDeclaration : Parser Node := do
  let start := (← expect "import").start
  let specs ← specifications importSpec (grouped .importSpecList)
  node .importDeclaration start specs

end GoMeter.Go
