import GoMeter.Go.TypeReading

/-!
# Types

The rules for types, parameters, fields of structs and elements of interfaces. A name before a
bracket is ambiguous in a list of parameters or fields: `a [3]int` declares a name, `A[int]` is a
generic type alone. It is read as a name if an array or slice type follows and nothing after it
objects, and as a generic type otherwise.
-/

namespace GoMeter.Go

open GoMeter.Go.Parser

variable (rules : Rules)

/-- A type name, possibly of another package. -/
def typeName : Parser Node := do
  let first ← name
  if (← sees ".") && (← seesNameAt 1) then
    let _ ← advance
    let second ← name
    node .qualifiedType first.start
      [(leaf .packageIdentifier first).filling .package, (leaf .typeIdentifier second).filling .name]
  else pure (leaf .typeIdentifier first)

/-- Types with bars between them. -/
def unionTypes : Parser (List Node) := sepList "|" (rules .type)

/-- A union of types as one node. -/
def typeElem : Parser Node := do
  let start := (← peek).start
  let types ← unionTypes rules
  node .typeElem start types

/-- Type arguments in brackets. -/
def typeArguments : Parser Node := do
  let start := (← expect "[").start
  let args ← commaList "]" (typeElem rules)
  if args.isEmpty then fail
  let _ ← expect "]"
  node .typeArguments start args

/-- A type name with the type arguments it may have. -/
def namedType : Parser Node := do
  let base ← typeName
  if ← sees "[" then
    let args ← typeArguments rules
    node .genericType base.start [base.filling .type, args.filling .typeArguments]
  else pure base

/-- The type after the bracket of an array or slice. -/
def bracketType : Parser Node := do
  let start := (← expect "[").start
  if ← accept "]" then
    let element ← rules .type
    node .sliceType start [element.filling .element]
  else if ← accept "..." then
    let _ ← expect "]"
    let element ← rules .type
    node .implicitLengthArrayType start [element.filling .element]
  else
    let length ← asValue (← rules (.expression false 1))
    let _ ← expect "]"
    let element ← rules .type
    node .arrayType start [length.filling .length, element.filling .element]

/-- A channel type. -/
def channelType : Parser Node := do
  let start := (← peek).start
  if ← accept "<-" then
    let _ ← expect "chan"
  else
    let _ ← expect "chan"
    let _ ← accept "<-"
  let value ← rules .type
  node .channelType start [value.filling .value]

/-- The symbols that start a type. -/
def typeStarts : List String :=
  ["*", "[", "(", "struct", "interface", "map", "chan", "<-", "func", "~"]

/-- Whether a type starts here. -/
def seesType : Parser Bool := do
  pure ((← seesName) || (← seesAny typeStarts))

/-- The result of a function: parameters in parentheses, a type, or nothing. -/
def resultOf : Parser (List Node) := do
  if ← sees "(" then pure [(← rules .parameters).filling .result]
  else if ← seesType then pure [(← rules .type).filling .result]
  else pure []

/-- The parameters and the result of a function. -/
def signature : Parser (List Node) := do
  let params ← rules .parameters
  let result ← resultOf rules
  pure (params.filling .parameters :: result)

/-- A string literal. -/
def stringLiteral : Parser Node := do
  let t ← peek
  match t.shape with
  | .string => pure (leaf .interpretedStringLiteral (← advance))
  | .rawString => pure (leaf .rawStringLiteral (← advance))
  | _ => fail

/-- The tag of a field, if it has one. -/
def fieldTag : Parser (List Node) := do
  if ← seesString then pure [(← stringLiteral).filling .tag] else pure []

/-- Stops unless a field may end here. -/
def fieldEnd : Parser Unit := do
  if (← seesSemicolon) || (← sees closeBrace) || (← seesString) then pure () else fail

/-- Fields with names. -/
def namedFields : Parser (List Node) := do
  let names ← sepList "," name
  let type ← rules .type
  fieldEnd
  pure (names.map (fun t => (leaf .fieldIdentifier t).filling .name) ++ [type.filling .type])

/-- A field that is embedded under the name of its type. -/
def embeddedField : Parser (List Node) := do
  let type ← namedType rules
  fieldEnd
  pure [type.filling .type]

/-- A field of a struct. -/
def fieldDeclaration : Parser Node := do
  let start := (← peek).start
  let parts ←
    if ← sees "*" then do
      let star ← advance
      let field ← embeddedField rules
      pure (mark .star star :: field)
    else attempt (namedFields rules) (embeddedField rules)
  let tag ← fieldTag
  node .fieldDeclaration start (parts ++ tag)

/-- A struct type. -/
def structType : Parser Node := do
  let start := (← expect "struct").start
  let brace := (← expect openBrace).start
  let fields ← lineList closeBrace (fieldDeclaration rules)
  let _ ← expect closeBrace
  let list ← node .fieldDeclarationList brace fields
  node .structType start [list]

/-- An element of an interface: a method or a union of types. -/
def interfaceElem : Parser Node := do
  if (← seesName) && (← seesAt 1 "(") then
    let method ← name
    let parts ← signature rules
    node .methodElem method.start ((leaf .fieldIdentifier method).filling .name :: parts)
  else typeElem rules

/-- An interface type. -/
def interfaceType : Parser Node := do
  let start := (← expect "interface").start
  let _ ← expect openBrace
  let elems ← lineList closeBrace (interfaceElem rules)
  let _ ← expect closeBrace
  node .interfaceType start elems

/-- A map type. -/
def mapType : Parser Node := do
  let start := (← expect "map").start
  let _ ← expect "["
  let key ← rules .type
  let _ ← expect "]"
  let value ← rules .type
  node .mapType start [key.filling .key, value.filling .value]

/-- A type. -/
def typeRule : Parser Node := do
  let t ← peek
  match t.shape with
  | .name _ => namedType rules
  | .symbol "*" =>
    let _ ← advance
    let target ← rules .type
    node .pointerType t.start [target]
  | .symbol "~" =>
    let _ ← advance
    let target ← rules .type
    node .negatedType t.start [target]
  | .symbol "(" =>
    let _ ← advance
    let inner ← rules .type
    let _ ← expect ")"
    node .parenthesizedType t.start [inner]
  | .symbol "[" => bracketType rules
  | .symbol "struct" => structType rules
  | .symbol "interface" => interfaceType rules
  | .symbol "map" => mapType rules
  | .symbol "chan" => channelType rules
  | .symbol "<-" => channelType rules
  | .symbol "func" =>
    let _ ← advance
    let parts ← signature rules
    node .functionType t.start parts
  | _ => fail

/-! ## Parameters -/

/-- One entry of a list of parameters, before it is known which of them are names. -/
inductive Entry where
  /-- A name that may be a parameter or a type. -/
  | bare (t : Token)
  /-- A type alone. -/
  | unnamed (type : Node)
  /-- A name with its type. -/
  | typed (t : Token) (type : Node)
  /-- The last parameter, which takes any number of arguments. -/
  | variadic (n : Node)

/-- Stops unless an entry may end here. -/
def entryEnd : Parser Unit := do
  if (← sees ",") || (← sees ")") then pure () else fail

/-- A parameter that takes any number of arguments. -/
def variadicEntry (start : Nat) (label : List Node) : Parser Entry := do
  let _ ← expect "..."
  let type ← rules .type
  let n ← node .variadicParameterDeclaration start (label ++ [type.filling .type])
  pure (.variadic n)

/-- A name with its type. -/
def typedEntry : Parser Entry := do
  let t ← name
  let type ← rules .type
  entryEnd
  pure (.typed t type)

/-- A type alone. -/
def unnamedEntry : Parser Entry := do
  let type ← rules .type
  entryEnd
  pure (.unnamed type)

/-- One entry of a list of parameters. -/
def parameterEntry : Parser Entry := do
  let t ← peek
  if ← sees "..." then variadicEntry rules t.start []
  else if ← seesName then
    if (← seesAt 1 ",") || (← seesAt 1 ")") then
      pure (.bare (← name))
    else if ← seesAt 1 "..." then
      let t ← name
      variadicEntry rules t.start [(leaf .identifier t).filling .name]
    else attempt (typedEntry rules) (unnamedEntry rules)
  else unnamedEntry rules

/-- A parameter that is a type alone. -/
def unnamedParameter (type : Node) : Node :=
  wrap .parameterDeclaration type type [type.filling .type]

/-- Names with the type they share. -/
def sharedParameter (names : List Token) (type : Node) : Node :=
  let names := names.map fun t => (leaf .identifier t).filling .name
  wrap .parameterDeclaration (names.headD type) type (names ++ [type.filling .type])

/-- The parameters of a list of entries. Names that wait for a type get that of the next typed entry;
if something else follows them they are types. -/
def parametersOf (waiting : List Token) : List Entry → List Node
  | [] => waiting.map fun t => unnamedParameter (leaf .typeIdentifier t)
  | .bare t :: rest => parametersOf (waiting ++ [t]) rest
  | .typed t type :: rest => sharedParameter (waiting ++ [t]) type :: parametersOf [] rest
  | .unnamed type :: rest =>
    (waiting.map fun t => unnamedParameter (leaf .typeIdentifier t)) ++
      unnamedParameter type :: parametersOf [] rest
  | .variadic n :: rest =>
    (waiting.map fun t => unnamedParameter (leaf .typeIdentifier t)) ++ n :: parametersOf [] rest

/-- A parenthesised list of parameters. -/
def parametersRule : Parser Node := do
  let start := (← expect "(").start
  let entries ← commaList ")" (parameterEntry rules)
  let _ ← expect ")"
  node .parameterList start (parametersOf [] entries)

/-- Type parameters of one constraint. -/
def typeParameter : Parser Node := do
  let start := (← peek).start
  let names ← sepList "," name
  let from_ := (← peek).start
  let types ← unionTypes rules
  let constraint ← node .typeConstraint from_ types
  node .typeParameterDeclaration start
    (names.map (fun t => (leaf .identifier t).filling .name) ++ [constraint.filling .type])

/-- Type parameters in brackets. -/
def typeParameters : Parser Node := do
  let start := (← expect "[").start
  let params ← commaList "]" (typeParameter rules)
  if params.isEmpty then fail
  let _ ← expect "]"
  node .typeParameterList start params

end GoMeter.Go
