import GoMeter.Go.Declarations

/-!
# Statements

Blocks, simple statements, control flow. A statement list ends each statement with a semicolon,
which may be left out before a closing brace; a semicolon where a statement is expected is an empty
statement.

* `simpleStatement`: expressions, sends, assignments and declarations with `:=`.
* `statementRule`: every statement.
* `blockRule`: a braced list of statements.
-/

namespace GoMeter.Go

open GoMeter.Go.Parser

variable (rules : Rules)

/-! ## Simple statements -/

/-- The operators that assign. -/
def assignOperators : List String :=
  ["=", "+=", "-=", "*=", "/=", "%=", "&=", "|=", "^=", "<<=", ">>=", "&^="]

/-- The only expression of a list. -/
def single (list : Node) : Parser Node :=
  match list.children with
  | [x] => pure x
  | _ => fail

/-- What follows the left side of a simple statement. -/
def simpleRest (header : Bool) (left : Node) : Parser Node := do
  if ← accept ":=" then
    let right ← expressionList rules header
    node .shortVarDeclaration left.start [left.filling .left, right.filling .right]
  else if ← seesAny assignOperators then
    let _ ← advance
    let right ← expressionList rules header
    node .assignmentStatement left.start [left.filling .left, right.filling .right]
  else
    let x ← single left
    if ← accept "++" then node .incStatement x.start [x]
    else if ← accept "--" then node .decStatement x.start [x]
    else if ← accept "<-" then
      let sent ← value rules header
      node .sendStatement x.start [x.filling .channel, sent.filling .value]
    else pure (wrap .expressionStatement x x [x])

/-- A simple statement. -/
def simpleStatement (header : Bool) : Parser Node := do
  let left ← expressionList rules header
  simpleRest rules header left

/-- The expression of an expression statement. -/
def conditionOf (statement : Node) : Parser Node :=
  match statement.kind, statement.children with
  | .expressionStatement, [x] => pure x
  | _, _ => fail

/-! ## Statement lists -/

/-- Whether a list of statements ends here. -/
def seesListEnd : Parser Bool := seesAny [closeBrace, "case", "default"]

/-- Takes what ends a statement. After an empty statement the end of the line is enough. -/
def statementEnd (statement : Node) : Parser Unit := do
  if statement.kind = .emptyStatement then
    if (← seesSemicolon) && !(← peek).startsLine then
      let _ ← advance
    else pure ()
  else if ← acceptSemicolon then pure ()
  else if ← sees closeBrace then pure ()
  else fail

/-- The statements up to the end of a block or a clause, as one node if there are any. -/
def statementList : Parser (List Node) := do
  let start := (← peek).start
  let done ← repeating
    (fun done => do
      if ← seesListEnd then pure (done, false)
      else
        let s ← rules .statement
        statementEnd s
        pure (s :: done, true))
    []
  if done.isEmpty then pure [] else do
    pure [← node .statementList start done.reverse]

/-- A braced list of statements. -/
def blockRule : Parser Node := do
  let start := (← expect openBrace).start
  let body ← statementList rules
  let _ ← expect closeBrace
  node .block start body

/-! ## Control flow -/

/-- An `if` statement; what follows `else` is another statement. -/
def ifStatement : Parser Node := do
  let start := (← expect "if").start
  let first ← simpleStatement rules true
  let head ←
    if ← acceptSemicolon then do
      let second ← simpleStatement rules true
      let condition ← conditionOf second
      pure [first.filling .initializer, condition.filling .condition]
    else do
      let condition ← conditionOf first
      pure [condition.filling .condition]
  let body ← rules .block
  let alternative ←
    if ← accept "else" then do
      if (← sees "if") || (← sees openBrace) then
        pure [(← rules .statement).filling .alternative]
      else fail
    else pure []
  node .ifStatement start (head ++ body.filling .consequence :: alternative)

/-- The range of a loop after the left side it may have. -/
def rangeRest (start : Nat) (left : List Node) : Parser Node := do
  let _ ← expect "range"
  let right ← value rules true
  node .rangeClause start (left ++ [right.filling .right])

/-- The condition and the update of a loop after its first semicolon. -/
def forRest (start : Nat) (init : List Node) : Parser Node := do
  let condition ←
    if ← seesSemicolon then pure [] else do
      pure [(← value rules true).filling .condition]
  if ← acceptSemicolon then pure () else fail
  let update ←
    if ← sees openBrace then pure [] else do
      pure [(← simpleStatement rules true).filling .update]
  node .forClause start (init ++ condition ++ update)

/-- The head of a loop: nothing, a range, three clauses, or a condition. -/
def forHead : Parser (List Node) := do
  let start := (← peek).start
  if ← sees openBrace then pure []
  else if ← sees "range" then pure [← rangeRest rules start []]
  else if ← acceptSemicolon then pure [← forRest rules start []]
  else
    let left ← expressionList rules true
    if (← sees ":=") && (← seesAt 1 "range") then
      let define ← advance
      pure [← rangeRest rules start [left.filling .left, mark .define define]]
    else if (← sees "=") && (← seesAt 1 "range") then
      let _ ← advance
      pure [← rangeRest rules start [left.filling .left]]
    else
      let first ← simpleRest rules true left
      if ← acceptSemicolon then pure [← forRest rules start [first.filling .initializer]]
      else pure [← conditionOf first]

/-- A loop. -/
def forStatement : Parser Node := do
  let start := (← expect "for").start
  let head ← forHead rules
  let body ← rules .block
  node .forStatement start (head ++ [body.filling .body])

/-- The clause `default`. -/
def defaultCase : Parser Node := do
  let start := (← expect "default").start
  let _ ← expect ":"
  let body ← statementList rules
  node .defaultCase start body

/-- The clauses of a switch or select statement in braces, of which those with `case` are read by
`clause`. -/
def clauses (clause : Parser Node) : Parser (List Node) := do
  let _ ← expect openBrace
  let done ← repeating
    (fun done => do
      if ← sees "case" then pure ((← clause) :: done, true)
      else if ← sees "default" then pure ((← defaultCase rules) :: done, true)
      else pure (done, false))
    []
  let _ ← expect closeBrace
  pure done.reverse

/-- A clause with expressions. -/
def expressionCase : Parser Node := do
  let start := (← expect "case").start
  let values ← expressionList rules false
  let _ ← expect ":"
  let body ← statementList rules
  node .expressionCase start (values.filling .value :: body)

/-- Types with commas between them, the commas included. -/
def typesWithCommas : Parser (List Node) := do
  let parts ← repeating
    (fun done => do
      let type ← rules .type
      if ← sees "," then
        let comma ← advance
        pure (mark .comma comma :: type :: done, true)
      else pure (type :: done, false))
    []
  pure (parts.reverse.map (·.filling .type))

/-- A clause with types. -/
def typeCase : Parser Node := do
  let start := (← expect "case").start
  let types ← typesWithCommas rules
  let _ ← expect ":"
  let body ← statementList rules
  node .typeCase start (types ++ body)

/-- Takes the `.(type)` that makes a switch a type switch, if it is next. -/
def acceptTypeGuard : Parser Bool := do
  if (← sees ".") && (← seesAt 1 "(") && (← seesAt 2 "type") then
    let _ ← advance
    let _ ← advance
    let _ ← advance
    let _ ← expect ")"
    pure true
  else pure false

/-- The subject of a type switch: an expression, or a declaration of one name. -/
def typeSubject (statement : Node) : Parser (List Node) :=
  match statement.kind, statement.children with
  | .expressionStatement, [x] => pure [x.filling .value]
  | .shortVarDeclaration, [left, right] => do
    let x ← single right
    pure [left.filling .alias, x.filling .value]
  | _, _ => fail

/-- The rest of a switch after its subject `statement`. -/
def switchRest (start : Nat) (init : List Node) (statement : Node) : Parser Node := do
  if ← acceptTypeGuard then
    let subject ← typeSubject statement
    let cases ← clauses rules (typeCase rules)
    node .typeSwitchStatement start (init ++ subject ++ cases)
  else
    let value ← conditionOf statement
    let cases ← clauses rules (expressionCase rules)
    node .expressionSwitchStatement start (init ++ value.filling .value :: cases)

/-- The rest of a switch after its initial statement. -/
def switchTail (start : Nat) (init : List Node) : Parser Node := do
  if ← sees openBrace then
    let cases ← clauses rules (expressionCase rules)
    node .expressionSwitchStatement start (init ++ cases)
  else
    let statement ← simpleStatement rules true
    switchRest rules start init statement

/-- A switch over values or types. -/
def switchStatement : Parser Node := do
  let start := (← expect "switch").start
  if ← sees openBrace then switchTail rules start []
  else if ← acceptSemicolon then switchTail rules start []
  else
    let first ← simpleStatement rules true
    if ← acceptSemicolon then switchTail rules start [first.filling .initializer]
    else switchRest rules start [] first

/-- The communication of a clause of a select statement. -/
def communication : Parser Node := do
  let left ← expressionList rules false
  if ← sees ":=" then
    let define ← advance
    let right ← expression rules
    node .receiveStatement left.start [left.filling .left, mark .define define, right.filling .right]
  else if ← accept "=" then
    let right ← expression rules
    node .receiveStatement left.start [left.filling .left, right.filling .right]
  else
    let x ← single left
    if ← accept "<-" then
      let value ← expression rules
      node .sendStatement x.start [x.filling .channel, value.filling .value]
    else pure (wrap .receiveStatement x x [x.filling .right])

/-- A clause of a select statement. -/
def communicationCase : Parser Node := do
  let start := (← expect "case").start
  let comm ← communication rules
  let _ ← expect ":"
  let body ← statementList rules
  node .communicationCase start (comm.filling .communication :: body)

/-- A select statement. -/
def selectStatement : Parser Node := do
  let start := (← expect "select").start
  let cases ← clauses rules (communicationCase rules)
  node .selectStatement start cases

/-- A jump with the label it may have. -/
def jump (kind : Kind) : Parser Node := do
  let start := (← advance).start
  if ← seesName then
    let label ← name
    node kind start [leaf .labelName label]
  else node kind start []

/-- A `return` with the values it may have. -/
def returnStatement : Parser Node := do
  let start := (← expect "return").start
  if (← seesSemicolon) || (← seesListEnd) then node .returnStatement start []
  else
    let values ← expressionList rules false
    node .returnStatement start [values]

/-- A labeled statement; before a closing brace the label stands alone. -/
def labeledStatement : Parser Node := do
  let label ← name
  let _ ← expect ":"
  let target := (leaf .labelName label).filling .label
  if ← sees closeBrace then node .labeledStatement label.start [target]
  else
    let statement ← rules .statement
    node .labeledStatement label.start [target, statement]

/-- A statement that starts another goroutine or is put off to the end of the function. -/
def callStatement (kind : Kind) : Parser Node := do
  let start := (← advance).start
  let call ← expression rules
  node kind start [call]

/-- A statement. -/
def statementRule : Parser Node := do
  let t ← peek
  match t.shape with
  | .semicolon false => pure (leaf .emptyStatement (← advance))
  | .symbol "var" => varDeclaration rules
  | .symbol "const" => constDeclaration rules
  | .symbol "type" => typeDeclaration rules
  | .symbol "return" => returnStatement rules
  | .symbol "go" => callStatement rules .goStatement
  | .symbol "defer" => callStatement rules .deferStatement
  | .symbol "if" => ifStatement rules
  | .symbol "for" => forStatement rules
  | .symbol "switch" => switchStatement rules
  | .symbol "select" => selectStatement rules
  | .symbol "break" => jump .breakStatement
  | .symbol "continue" => jump .continueStatement
  | .symbol "goto" => do
    if ← seesNameAt 1 then jump .gotoStatement else fail
  | .symbol "fallthrough" => pure (leaf .fallthroughStatement (← advance))
  | .name _ => do
    if ← seesAt 1 ":" then labeledStatement rules else simpleStatement rules false
  | .symbol s => if s = openBrace then rules .block else simpleStatement rules false
  | _ => simpleStatement rules false

end GoMeter.Go
