import GoMeter.Go.Types

/-!
# Expressions

Operands with what follows them, unary and binary operators, literals. In the header of a statement
with a block, a brace after a type name opens that block; inside brackets of any kind it opens a
composite literal again.

* `unaryRule`: an operand with its prefixes, selectors, indices, calls and literal values.
* `expressionRule`: binary operators by precedence.
* `literalValueRule`: the elements of a composite literal.
-/

namespace GoMeter.Go

open GoMeter.Go.Parser

variable (rules : Rules)

/-- An expression, in the header of a statement with a block or not. -/
def value (header : Bool) : Parser Node := do
  asValue (← rules (.expression header 1))

/-- An expression outside every header. -/
def expression : Parser Node := value rules false

/-- An expression or a type outside every header. -/
def expressionOrType : Parser Node := rules (.expression false 1)

/-- An expression list with commas. -/
def expressionList (header : Bool) : Parser Node := do
  let start := (← peek).start
  let items ← sepList "," (value rules header)
  node .expressionList start items

/-- The kind of a name in an expression. -/
def nameKind : String → Kind
  | "nil" => .nilLiteral
  | "true" => .trueLiteral
  | "false" => .falseLiteral
  | "iota" => .iotaLiteral
  | _ => .identifier

/-- What is known of an operand while its selectors, indices and calls are read. -/
structure Operand where
  node : Node
  /-- Whether it is the bare name of a builtin whose first argument is a type. -/
  takesType : Bool

/-! ## Composite literals -/

/-- An element of a composite literal. -/
def literalElement : Parser Node := do
  let inner ← if ← sees openBrace then rules .literalValue else expression rules
  pure (wrap .literalElement inner inner [inner])

/-- An element with the key it may have. -/
def keyedElement : Parser Node := do
  let first ← literalElement rules
  if ← accept ":" then
    let value ← literalElement rules
    node .keyedElement first.start [first.filling .key, value.filling .value]
  else pure first

/-- A braced list of elements. -/
def literalValueRule : Parser Node := do
  let start := (← expect openBrace).start
  let elements ← commaList closeBrace (keyedElement rules)
  let _ ← expect closeBrace
  node .literalValue start elements

/-- A composite literal of a type. -/
def compositeLiteral (type : Node) : Parser Node := do
  let body ← rules .literalValue
  node .compositeLiteral type.start [type.filling .type, body.filling .body]

/-- Whether a type of this kind may be followed by a literal value also in a header. -/
def isLiteralType : Kind → Bool
  | .arrayType | .implicitLengthArrayType | .sliceType | .mapType | .structType => true
  | _ => false

/-! ## Calls and conversions -/

/-- An argument, which may be spread. -/
def argument : Parser Node := do
  let value ← expression rules
  if ← accept "..." then node .variadicArgument value.start [value] else pure value

/-- Arguments in parentheses. -/
def argumentList : Parser Node := do
  let start := (← expect "(").start
  let args ← commaList ")" (argument rules)
  let _ ← expect ")"
  node .argumentList start args

/-- Arguments in parentheses of which the first is a type. -/
def typeArgumentList : Parser Node := do
  let start := (← expect "(").start
  let type ← rules .type
  let more ← if ← accept "," then commaList ")" (expression rules) else pure []
  let _ ← expect ")"
  node .argumentList start (type :: more)

/-- The only argument of a list, if it is not spread. -/
def onlyArgument? (args : Node) : Option Node :=
  match args.children with
  | [a] => if a.kind = .variadicArgument then none else some a
  | _ => none

/-- A call. -/
def callOf (callee : Node) (typeArgs : List Node) (args : Node) : Node :=
  wrap .callExpression callee args
    (callee.filling .callee :: typeArgs.map (·.filling .typeArguments) ++ [args.filling .arguments])

/-- A conversion, whose argument stands in `args`. -/
def conversionOf (type operand args : Node) : Node :=
  wrap .typeConversionExpression type args [type.filling .type, operand.filling .operand]

/-- A call of an operand that is followed by an opening parenthesis. -/
def callRest (x : Operand) : Parser Node := do
  if x.takesType then
    let args ← attempt (typeArgumentList rules) (argumentList rules)
    pure (callOf x.node [] args)
  else
    let args ← argumentList rules
    if isTypeOnly x.node.kind then
      match onlyArgument? args with
      | some a => pure (conversionOf x.node a args)
      | none => fail
    else
      let reading :=
        if x.node.kind = .parenthesizedExpression && mentionsArguments x.node then
          typeReading? x.node
        else none
      match reading, onlyArgument? args with
      | some type, some a => pure (conversionOf type a args)
      | _, _ => pure (callOf x.node [] args)

/-! ## Indices -/

/-- The end of a slice, and after it the capacity it may have. -/
def sliceBounds : Parser (List Node) := do
  let stop ← expression rules
  if ← accept ":" then
    let capacity ← expression rules
    pure [stop.filling .stop, capacity.filling .capacity]
  else pure [stop.filling .stop]

/-- The part of a slice after its first colon. -/
def sliceRest (operand : Node) (start : List Node) : Parser Node := do
  let bounds ← if ← sees "]" then pure [] else sliceBounds rules
  let _ ← expect "]"
  node .sliceExpression operand.start (operand.filling .operand :: start ++ bounds)

/-- An operand with items in brackets after it, as an expression of its own: an index, or a generic
function or type with its arguments. -/
def subscriptOf? (x : Operand) (opening closing : Node) (items : List Node) : Option Node :=
  match items with
  | [index] =>
    if isTypeOnly index.kind then instantiation
    else
      some (wrap .indexExpression x.node closing
        [x.node.filling .operand, opening, index.filling .index, closing])
  | _ => instantiation
where
  /-- The operand as a type with type arguments. -/
  instantiation : Option Node :=
    match nameReading? x.node, items.mapM typeReading? with
    | some base, some args =>
      some (wrap .typeInstantiationExpression base closing
        (base.filling .type :: opening :: args ++ [closing]))
    | _, _ => none

/-- A call of an operand with items in brackets after it. With one plain argument and items that can
be types it converts to a generic type; a single item that is an expression is an index; anything
else are type arguments of the call. -/
def subscriptCall? (x : Operand) (opening closing : Node) (items : List Node) (args : Node) :
    Option Node :=
  let base := if x.takesType then none else nameReading? x.node
  match base, items.mapM typeReading?, onlyArgument? args with
  | some base, some types, some a => some (conversionOf (genericType base opening closing types) a args)
  | _, types, _ =>
    match items with
    | [index] =>
      if isTypeOnly index.kind then types.map withTypes
      else
        (subscriptOf? x opening closing items).map fun callee => callOf callee [] args
    | _ => types.map withTypes
where
  /-- The call with its type arguments. -/
  withTypes (types : List Node) : Node :=
    callOf x.node [argumentsBetween opening closing types] args

/-- What follows an operand and its opening bracket. -/
def subscriptRest (header : Bool) (x : Operand) : Parser Node := do
  let opening := mark (.other "[") (← expect "[")
  if ← accept ":" then sliceRest rules x.node []
  else
    let first ← expressionOrType rules
    if ← accept ":" then sliceRest rules x.node [(← asValue first).filling .start]
    else
      let more ← if ← accept "," then commaList "]" (expressionOrType rules) else pure []
      let closing := mark (.other "]") (← expect "]")
      let items := first :: more
      if ← sees "(" then
        let args ← argumentList rules
        match subscriptCall? x opening closing items args with
        | some n => pure n
        | none => fail
      else
        match nameReading? x.node, items.mapM typeReading? with
        | some base, some types =>
          if !header && (← sees openBrace) then
            compositeLiteral rules (genericType base opening closing types)
          else
            match subscriptOf? x opening closing items with
            | some n => pure n
            | none => fail
        | _, _ =>
          match subscriptOf? x opening closing items with
          | some n => pure n
          | none => fail

/-! ## Operands -/

/-- A selector or a type assertion after a point. -/
def selectorRest (x : Node) : Parser Node := do
  let _ ← expect "."
  if ← accept "(" then
    let type ← rules .type
    let _ ← expect ")"
    node .typeAssertionExpression x.start [x.filling .operand, type.filling .type]
  else
    let member ← name
    node .selectorExpression x.start
      [x.filling .operand, (leaf .fieldIdentifier member).filling .member]

/-- A function literal, or a function type if no body follows. -/
def functionOperand : Parser Node := do
  let start := (← expect "func").start
  let parts ← signature rules
  if ← sees openBrace then
    let body ← rules .block
    node .funcLiteral start (parts ++ [body.filling .body])
  else node .functionType start parts

/-- An expression or a type in parentheses. -/
def parenthesized : Parser Node := do
  let start := (← expect "(").start
  let inner ← expressionOrType rules
  let _ ← expect ")"
  node (if isTypeOnly inner.kind then .parenthesizedType else .parenthesizedExpression) start [inner]

/-- What stands at the head of an expression, before selectors, indices and calls. -/
def operand : Parser Operand := do
  let t ← peek
  match t.shape with
  | .name s =>
    let _ ← advance
    pure ⟨leaf (nameKind s) t, s = "new" || s = "make"⟩
  | .int => plain (leaf .intLiteral (← advance))
  | .float => plain (leaf .floatLiteral (← advance))
  | .imaginary => plain (leaf .imaginaryLiteral (← advance))
  | .rune => plain (leaf .runeLiteral (← advance))
  | .string => plain (← stringLiteral)
  | .rawString => plain (← stringLiteral)
  | .symbol "(" => plain (← parenthesized rules)
  | .symbol "func" => plain (← functionOperand rules)
  | .symbol "[" => plain (← rules .type)
  | .symbol "struct" => plain (← rules .type)
  | .symbol "interface" => plain (← rules .type)
  | .symbol "map" => plain (← rules .type)
  | .symbol "chan" => plain (← rules .type)
  | .symbol "<-" => plain (← rules .type)
  | _ => fail
where
  /-- An operand that is no builtin. -/
  plain (n : Node) : Parser Operand := pure ⟨n, false⟩

/-- Takes one selector, index, call or literal value after an operand; says whether there was one. A
point before `(type)` belongs to a type switch and is left. -/
def postfixStep (header : Bool) (x : Operand) : Parser (Operand × Bool) := do
  let typeOnly := isTypeOnly x.node.kind
  if (← sees ".") && !typeOnly then
    if (← seesAt 1 "(") && (← seesAt 2 "type") then pure (x, false)
    else more (← selectorRest rules x.node)
  else if ← sees "(" then more (← callRest rules x)
  else if (← sees "[") && !typeOnly then more (← subscriptRest rules header x)
  else if ← sees openBrace then
    if isLiteralType x.node.kind then more (← compositeLiteral rules x.node)
    else if header || x.takesType then pure (x, false)
    else
      match nameReading? x.node with
      | some type => more (← compositeLiteral rules type)
      | none => pure (x, false)
  else pure (x, false)
where
  /-- Goes on with what has been read. -/
  more (n : Node) : Parser (Operand × Bool) := pure (⟨n, false⟩, true)

/-- An operand with everything that follows it directly. -/
def primary (header : Bool) : Parser Node := do
  let x ← operand rules
  let x ← repeating (postfixStep rules header) x
  pure x.node

/-- The operators that may stand before an operand. -/
def unaryOperators : List String := ["+", "-", "!", "^", "*", "&", "<-"]

/-- The kind of an operator as a node. -/
def operatorKind : Shape → Kind
  | .symbol "*" => .star
  | .symbol s => .other s
  | _ => .other ""

/-- An operand with its prefixes. A star before a type is a pointer type. -/
def unaryRule (header : Bool) : Parser Node := do
  let t ← peek
  if (← seesAny unaryOperators) && !((← sees "<-") && (← seesAt 1 "chan")) then
    let op ← advance
    let x ← rules (.unary header)
    if op.shape == .symbol "*" && isTypeOnly x.kind then node .pointerType t.start [x]
    else
      let x ← asValue x
      node .unaryExpression t.start [mark (operatorKind op.shape) op, x.filling .operand]
  else primary rules header

/-- How strongly a binary operator binds; nothing for other tokens. -/
def precedence? : Shape → Option Nat
  | .symbol s =>
    if s = "||" then some 1
    else if s = "&&" then some 2
    else if ["==", "!=", "<", "<=", ">", ">="].contains s then some 3
    else if ["+", "-", "|", "^"].contains s then some 4
    else if ["*", "/", "%", "<<", ">>", "&", "&^"].contains s then some 5
    else none
  | _ => none

/-- Binary operators that bind at least as strongly as `level`, from left to right. -/
def expressionRule (header : Bool) (level : Nat) : Parser Node := do
  let first ← rules (.unary header)
  repeating
    (fun left => do
      match precedence? (← peek).shape with
      | some p =>
        if level ≤ p then
          let left ← asValue left
          let _ ← advance
          let right ← asValue (← rules (.expression header (p + 1)))
          let n ← node .binaryExpression left.start [left.filling .left, right.filling .right]
          pure (n, true)
        else pure (left, false)
      | none => pure (left, false))
    first

end GoMeter.Go
