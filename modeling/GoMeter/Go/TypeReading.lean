import GoMeter.Go.Cursor

/-!
# Expressions read as types

Some text is both an expression and a type, and only what follows decides: `a[i](x)` converts to the
generic type `a[i]`, while `a[i](x, y)` calls an element. Such text is read as an expression first,
and this module gives its reading as a type.

* `typeReading?`: the type that an expression may stand for.
* `isTypeOnly`: whether a node can be nothing but a type; `asValue` refuses such a node.
-/

namespace GoMeter.Go

/-- Whether a node of this kind can be nothing but a type. -/
def isTypeOnly : Kind → Bool
  | .pointerType | .arrayType | .implicitLengthArrayType | .sliceType | .mapType | .channelType
  | .functionType | .structType | .interfaceType | .parenthesizedType | .genericType
  | .negatedType => true
  | _ => false

/-- What has been read, unless it is a type alone and so stands for no value. -/
def asValue (x : Node) : Parser Node := if isTypeOnly x.kind then Parser.fail else pure x

/-- Whether a node of this kind is a name in an expression. -/
def isNameKind : Kind → Bool
  | .identifier | .nilLiteral | .trueLiteral | .falseLiteral | .iotaLiteral => true
  | _ => false

/-- A name, possibly of another package, as the name of a type. -/
def nameReading? (n : Node) : Option Node :=
  match n.kind, n.children with
  | .selectorExpression, [package, member] =>
    if package.kind = .identifier then
      some (wrap .qualifiedType n n
        [(package.withKind .packageIdentifier).filling .package,
         (member.withKind .typeIdentifier).filling .name])
    else none
  | kind, _ => if isNameKind kind then some (n.withKind .typeIdentifier) else none

/-- Type arguments between two brackets. -/
def argumentsBetween (opening closing : Node) (args : List Node) : Node :=
  wrap .typeArguments opening closing (args.map fun a => wrap .typeElem a a [a.bare])

/-- A generic type with its arguments between two brackets. -/
def genericType (base opening closing : Node) (args : List Node) : Node :=
  wrap .genericType base closing
    [base.filling .type, (argumentsBetween opening closing args).filling .typeArguments]

/-- The type that an expression may stand for. -/
def typeReading? : Node → Option Node
  | .mk label [operand, opening, index, closing] =>
    if label.kind = .indexExpression then
      match nameReading? operand, typeReading? index with
      | some base, some arg => some (genericType base opening closing [arg])
      | _, _ => none
    else if label.kind = .typeInstantiationExpression then
      some (genericType operand opening closing [index])
    else if isTypeOnly label.kind then some (.mk label [operand, opening, index, closing])
    else none
  | .mk label [operator, operand] =>
    if label.kind = .unaryExpression then
      if operator.kind = .star then
        (typeReading? operand).map fun t => .mk { label with kind := .pointerType } [t.bare]
      else none
    else if isTypeOnly label.kind then some (.mk label [operator, operand])
    else nameReading? (.mk label [operator, operand])
  | .mk label [inner] =>
    if label.kind = .parenthesizedExpression then
      (typeReading? inner).map fun t => .mk { label with kind := .parenthesizedType } [t.bare]
    else if isTypeOnly label.kind then some (.mk label [inner])
    else none
  | .mk label (base :: opening :: rest) =>
    if label.kind = .typeInstantiationExpression then
      rest.getLast?.map fun closing => genericType base opening closing rest.dropLast
    else if isTypeOnly label.kind then some (.mk label (base :: opening :: rest))
    else none
  | .mk label [] =>
    if isTypeOnly label.kind then some (.mk label []) else nameReading? (.mk label [])

/-- Whether the reading of a parenthesised expression as a type involves type arguments, so that it
is preferred over the reading as an expression. -/
def mentionsArguments : Node → Bool
  | .mk label [inner] => label.kind = .parenthesizedExpression && mentionsArguments inner
  | .mk label [_, operand] => label.kind = .unaryExpression && mentionsArguments operand
  | .mk label _ => label.kind = .indexExpression || label.kind = .typeInstantiationExpression

end GoMeter.Go
