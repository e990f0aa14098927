/-!
# Kinds and fields of Go syntax nodes

A syntax node has a kind and may have a field, the role it plays in its parent. Both are closed lists
with one open case: a tree handed in from outside may name a kind or a field that no rule here
mentions, and such a node is kept under the name it came with.

* `Kind.spelling`, `Kind.ofSpelling`: the written form of a kind and its reading.
* `Field.spelling`, `Field.ofSpelling`: the same for fields.
-/

namespace GoMeter

/-- What a syntax node is. The last four before `other` are the tokens that a rule looks at. -/
inductive Kind where
  | sourceFile | packageClause | importDeclaration | importSpec | importSpecList | dot
  | blankIdentifier | functionDeclaration | methodDeclaration | funcLiteral | varDeclaration
  | varSpec | varSpecList | constDeclaration | constSpec | typeDeclaration | typeSpec | typeAlias
  | parameterList | parameterDeclaration | variadicParameterDeclaration | typeParameterList
  | typeParameterDeclaration | typeConstraint | structType | fieldDeclarationList
  | fieldDeclaration | interfaceType | methodElem | methodSpec | typeElem | pointerType
  | arrayType | implicitLengthArrayType | sliceType | mapType | channelType | functionType
  | qualifiedType | genericType | typeArguments | parenthesizedType | negatedType | identifier
  | fieldIdentifier | packageIdentifier | typeIdentifier | labelName | intLiteral | floatLiteral
  | imaginaryLiteral | runeLiteral | interpretedStringLiteral | rawStringLiteral | nilLiteral
  | trueLiteral | falseLiteral | iotaLiteral | parenthesizedExpression | callExpression
  | argumentList | variadicArgument | typeConversionExpression | selectorExpression
  | indexExpression | typeInstantiationExpression | sliceExpression | typeAssertionExpression
  | unaryExpression | binaryExpression | compositeLiteral | literalValue | literalElement
  | keyedElement | expressionList | block | statementList | expressionStatement | sendStatement
  | incStatement | decStatement | assignmentStatement | shortVarDeclaration | receiveStatement
  | labeledStatement | emptyLabeledStatement | emptyStatement | fallthroughStatement
  | breakStatement | continueStatement | gotoStatement | returnStatement | goStatement
  | deferStatement | ifStatement | forStatement | forClause | rangeClause
  | expressionSwitchStatement | expressionCase | defaultCase | typeSwitchStatement | typeCase
  | selectStatement | communicationCase | comment | error | define | star | comma
  | other (name : String)
  deriving DecidableEq, Repr, Inhabited

namespace Kind

/-- The kind as it is written in a listing of a tree. -/
def spelling : Kind → String
  | .sourceFile => "source_file"
  | .packageClause => "package_clause"
  | .importDeclaration => "import_declaration"
  | .importSpec => "import_spec"
  | .importSpecList => "import_spec_list"
  | .dot => "dot"
  | .blankIdentifier => "blank_identifier"
  | .functionDeclaration => "function_declaration"
  | .methodDeclaration => "method_declaration"
  | .funcLiteral => "func_literal"
  | .varDeclaration => "var_declaration"
  | .varSpec => "var_spec"
  | .varSpecList => "var_spec_list"
  | .constDeclaration => "const_declaration"
  | .constSpec => "const_spec"
  | .typeDeclaration => "type_declaration"
  | .typeSpec => "type_spec"
  | .typeAlias => "type_alias"
  | .parameterList => "parameter_list"
  | .parameterDeclaration => "parameter_declaration"
  | .variadicParameterDeclaration => "variadic_parameter_declaration"
  | .typeParameterList => "type_parameter_list"
  | .typeParameterDeclaration => "type_parameter_declaration"
  | .typeConstraint => "type_constraint"
  | .structType => "struct_type"
  | .fieldDeclarationList => "field_declaration_list"
  | .fieldDeclaration => "field_declaration"
  | .interfaceType => "interface_type"
  | .methodElem => "method_elem"
  | .methodSpec => "method_spec"
  | .typeElem => "type_elem"
  | .pointerType => "pointer_type"
  | .arrayType => "array_type"
  | .implicitLengthArrayType => "implicit_length_array_type"
  | .sliceType => "slice_type"
  | .mapType => "map_type"
  | .channelType => "channel_type"
  | .functionType => "function_type"
  | .qualifiedType => "qualified_type"
  | .genericType => "generic_type"
  | .typeArguments => "type_arguments"
  | .parenthesizedType => "parenthesized_type"
  | .negatedType => "negated_type"
  | .identifier => "identifier"
  | .fieldIdentifier => "field_identifier"
  | .packageIdentifier => "package_identifier"
  | .typeIdentifier => "type_identifier"
  | .labelName => "label_name"
  | .intLiteral => "int_literal"
  | .floatLiteral => "float_literal"
  | .imaginaryLiteral => "imaginary_literal"
  | .runeLiteral => "rune_literal"
  | .interpretedStringLiteral => "interpreted_string_literal"
  | .rawStringLiteral => "raw_string_literal"
  | .nilLiteral => "nil"
  | .trueLiteral => "true"
  | .falseLiteral => "false"
  | .iotaLiteral => "iota"
  | .parenthesizedExpression => "parenthesized_expression"
  | .callExpression => "call_expression"
  | .argumentList => "argument_list"
  | .variadicArgument => "variadic_argument"
  | .typeConversionExpression => "type_conversion_expression"
  | .selectorExpression => "selector_expression"
  | .indexExpression => "index_expression"
  | .typeInstantiationExpression => "type_instantiation_expression"
  | .sliceExpression => "slice_expression"
  | .typeAssertionExpression => "type_assertion_expression"
  | .unaryExpression => "unary_expression"
  | .binaryExpression => "binary_expression"
  | .compositeLiteral => "composite_literal"
  | .literalValue => "literal_value"
  | .literalElement => "literal_element"
  | .keyedElement => "keyed_element"
  | .expressionList => "expression_list"
  | .block => "block"
  | .statementList => "statement_list"
  | .expressionStatement => "expression_statement"
  | .sendStatement => "send_statement"
  | .incStatement => "inc_statement"
  | .decStatement => "dec_statement"
  | .assignmentStatement => "assignment_statement"
  | .shortVarDeclaration => "short_var_declaration"
  | .receiveStatement => "receive_statement"
  | .labeledStatement => "labeled_statement"
  | .emptyLabeledStatement => "empty_labeled_statement"
  | .emptyStatement => "empty_statement"
  | .fallthroughStatement => "fallthrough_statement"
  | .breakStatement => "break_statement"
  | .continueStatement => "continue_statement"
  | .gotoStatement => "goto_statement"
  | .returnStatement => "return_statement"
  | .goStatement => "go_statement"
  | .deferStatement => "defer_statement"
  | .ifStatement => "if_statement"
  | .forStatement => "for_statement"
  | .forClause => "for_clause"
  | .rangeClause => "range_clause"
  | .expressionSwitchStatement => "expression_switch_statement"
  | .expressionCase => "expression_case"
  | .defaultCase => "default_case"
  | .typeSwitchStatement => "type_switch_statement"
  | .typeCase => "type_case"
  | .selectStatement => "select_statement"
  | .communicationCase => "communication_case"
  | .comment => "comment"
  | .error => "ERROR"
  | .define => ":="
  | .star => "*"
  | .comma => ","
  | .other s => s

/-- Every kind that some rule mentions. -/
def all : List Kind :=
  [.sourceFile, .packageClause, .importDeclaration, .importSpec, .importSpecList, .dot,
   .blankIdentifier, .functionDeclaration, .methodDeclaration, .funcLiteral, .varDeclaration,
   .varSpec, .varSpecList, .constDeclaration, .constSpec, .typeDeclaration, .typeSpec,
   .typeAlias, .parameterList, .parameterDeclaration, .variadicParameterDeclaration,
   .typeParameterList, .typeParameterDeclaration, .typeConstraint, .structType,
   .fieldDeclarationList, .fieldDeclaration, .interfaceType, .methodElem, .methodSpec, .typeElem,
   .pointerType, .arrayType, .implicitLengthArrayType, .sliceType, .mapType, .channelType,
   .functionType, .qualifiedType, .genericType, .typeArguments, .parenthesizedType, .negatedType,
   .identifier, .fieldIdentifier, .packageIdentifier, .typeIdentifier, .labelName, .intLiteral,
   .floatLiteral, .imaginaryLiteral, .runeLiteral, .interpretedStringLiteral, .rawStringLiteral,
   .nilLiteral, .trueLiteral, .falseLiteral, .iotaLiteral, .parenthesizedExpression,
   .callExpression, .argumentList, .variadicArgument, .typeConversionExpression,
   .selectorExpression, .indexExpression, .typeInstantiationExpression, .sliceExpression,
   .typeAssertionExpression, .unaryExpression, .binaryExpression, .compositeLiteral,
   .literalValue, .literalElement, .keyedElement, .expressionList, .block, .statementList,
   .expressionStatement, .sendStatement, .incStatement, .decStatement, .assignmentStatement,
   .shortVarDeclaration, .receiveStatement, .labeledStatement, .emptyLabeledStatement,
   .emptyStatement, .fallthroughStatement, .breakStatement, .continueStatement, .gotoStatement,
   .returnStatement, .goStatement, .deferStatement, .ifStatement, .forStatement, .forClause,
   .rangeClause, .expressionSwitchStatement, .expressionCase, .defaultCase, .typeSwitchStatement,
   .typeCase, .selectStatement, .communicationCase, .comment, .error, .define, .star, .comma]

/-- Reads a kind; an unknown name is kept as it is. -/
def ofSpelling (s : String) : Kind :=
  (all.find? fun k => k.spelling == s).getD (.other s)

end Kind

/-- The role of a node in its parent. -/
inductive Field where
  | name | body | value | callee | typeArguments | arguments | left | right | alias | initializer
  | receiver | typeParameters | parameters | result | condition | consequence | alternative
  | update | type | path | package | element | length | key | tag | operand | member | index
  | start | stop | capacity | channel | communication | label
  | other (name : String)
  deriving DecidableEq, Repr, Inhabited

namespace Field

/-- The field as it is written in a listing of a tree. -/
def spelling : Field → String
  | .name => "name"
  | .body => "body"
  | .value => "value"
  | .callee => "function"
  | .typeArguments => "type_arguments"
  | .arguments => "arguments"
  | .left => "left"
  | .right => "right"
  | .alias => "alias"
  | .initializer => "initializer"
  | .receiver => "receiver"
  | .typeParameters => "type_parameters"
  | .parameters => "parameters"
  | .result => "result"
  | .condition => "condition"
  | .consequence => "consequence"
  | .alternative => "alternative"
  | .update => "update"
  | .type => "type"
  | .path => "path"
  | .package => "package"
  | .element => "element"
  | .length => "length"
  | .key => "key"
  | .tag => "tag"
  | .operand => "operand"
  | .member => "field"
  | .index => "index"
  | .start => "start"
  | .stop => "end"
  | .capacity => "capacity"
  | .channel => "channel"
  | .communication => "communication"
  | .label => "label"
  | .other s => s

/-- Every field that the grammar gives to some node. -/
def all : List Field :=
  [.name, .body, .value, .callee, .typeArguments, .arguments, .left, .right, .alias,
   .initializer, .receiver, .typeParameters, .parameters, .result, .condition, .consequence,
   .alternative, .update, .type, .path, .package, .element, .length, .key, .tag, .operand,
   .member, .index, .start, .stop, .capacity, .channel, .communication, .label]

/-- Reads a field; an unknown name is kept as it is. -/
def ofSpelling (s : String) : Field :=
  (all.find? fun f => f.spelling == s).getD (.other s)

end Field

end GoMeter
