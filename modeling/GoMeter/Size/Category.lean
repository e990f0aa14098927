import GoMeter.Syntax.Node

/-!
# What a node weighs

The size of a function body is the number of statements and expressions in it. Blocks, lists and
parameter declarations only group others; the key of a composite literal's element is not counted;
a function literal counts as one expression. A few kinds stand for more than one unit.

* `Category.of`: how a node takes part in the count.
* `weight`: the units of a counted node.
* `embeddedPointer`: the unit of a pointer that an embedded field has no node for.
* `keyedTarget?`: the part of a keyed element that is counted.
-/

namespace GoMeter

/-- How a node takes part in the count. -/
inductive Category where
  /-- Weighs nothing itself. -/
  | grouping
  /-- An element with a key; only its value is counted. -/
  | keyValue
  /-- A statement or an expression. -/
  | counted
  /-- A function literal: one unit, whatever is inside. -/
  | nestedFunction
  /-- A comment. -/
  | skipped
  /-- Anything else: weighs nothing itself. -/
  | other
  deriving DecidableEq, Repr

namespace Kind

/-- Whether a kind is a statement. -/
def isStatement : Kind → Bool
  | .expressionStatement | .sendStatement | .incStatement | .decStatement | .assignmentStatement
  | .shortVarDeclaration | .receiveStatement | .labeledStatement | .emptyLabeledStatement
  | .emptyStatement | .fallthroughStatement | .breakStatement | .continueStatement | .gotoStatement
  | .returnStatement | .goStatement | .deferStatement | .ifStatement | .forStatement
  | .expressionSwitchStatement | .typeSwitchStatement | .selectStatement | .expressionCase
  | .typeCase | .defaultCase | .communicationCase | .varDeclaration | .constDeclaration
  | .typeDeclaration => true
  | _ => false

/-- Whether a kind is an expression, a type or a name. -/
def isExpression : Kind → Bool
  | .identifier | .fieldIdentifier | .packageIdentifier | .typeIdentifier | .labelName
  | .blankIdentifier | .intLiteral | .floatLiteral | .imaginaryLiteral | .runeLiteral
  | .interpretedStringLiteral | .rawStringLiteral | .trueLiteral | .falseLiteral | .nilLiteral
  | .iotaLiteral | .parenthesizedExpression | .callExpression | .typeConversionExpression
  | .selectorExpression | .indexExpression | .typeInstantiationExpression | .sliceExpression
  | .typeAssertionExpression | .unaryExpression | .binaryExpression | .compositeLiteral
  | .typeArguments | .pointerType | .arrayType | .implicitLengthArrayType | .sliceType | .mapType
  | .channelType | .functionType | .structType | .interfaceType | .qualifiedType
  | .parenthesizedType | .negatedType | .methodElem | .methodSpec
  | .variadicParameterDeclaration => true
  | _ => false

/-- Whether a kind only groups other nodes. -/
def isGrouping : Kind → Bool
  | .block | .statementList | .parameterList | .parameterDeclaration | .typeParameterList
  | .typeParameterDeclaration | .typeConstraint | .fieldDeclarationList | .fieldDeclaration
  | .argumentList | .expressionList | .literalElement | .forClause | .rangeClause
  | .variadicArgument | .genericType => true
  | _ => false

end Kind

/-- The number of operands of a union of types. -/
def unionOperands (n : Node) : Nat :=
  (n.namedChildren.filter fun c => c.kind ≠ .comment).length

/-- How a node with a parent of kind `parent` takes part in the count. The braces of a typed composite
literal group; those of an element whose type is left out are a composite literal themselves. A
union of types is an expression, a single type is just that type. -/
def Category.of (parent : Option Kind) (n : Node) : Category :=
  match n.kind with
  | .comment => .skipped
  | .funcLiteral => .nestedFunction
  | .keyedElement => .keyValue
  | .literalValue => if parent = some .compositeLiteral then .grouping else .counted
  | .typeElem => if 1 < unionOperands n then .counted else .grouping
  | kind =>
    if kind.isGrouping then .grouping
    else if kind.isStatement || kind.isExpression then .counted
    else .other

/-- Whether a labeled statement has nothing but its label, and so labels an empty statement. -/
def isBareLabel (n : Node) : Bool :=
  n.namedChildren.all fun c => c.kind = .labelName || c.kind = .comment

/-- The units of a counted node. A type switch wraps its subject in an assertion and a statement, an
array of inferred length has an ellipsis for a length, and a bare label has an empty statement. -/
def weight (n : Node) : Int :=
  match n.kind with
  | .typeElem => (unionOperands n : Int) - 1
  | .labeledStatement => if isBareLabel n then 2 else 1
  | .typeSwitchStatement => 3
  | .implicitLengthArrayType => 2
  | .emptyLabeledStatement => 2
  | _ => 1

/-- One unit for an embedded field that is a pointer: its star has no node of its own. -/
def embeddedPointer (n : Node) : Int :=
  if n.kind = .fieldDeclaration && (n.child? .name).isNone && n.children.any (·.kind = .star) then 1
  else 0

/-- The part of a keyed element that is counted: its value, or else its last child. -/
def keyedTarget? (n : Node) : Option Node :=
  match n.child? .value with
  | some value => some value
  | none => (n.namedChildren.filter fun c => c.kind ≠ .comment).getLast?

end GoMeter
