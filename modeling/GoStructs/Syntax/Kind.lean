/-! # Kinds of syntax node

Every node of a syntax tree has a kind.  The named kinds are the constructs of the language and
the tokens that carry a text of their own, such as identifiers.  Every other token is known by its
text.  A line end that ends a statement is kept in the tree but never shown. -/

namespace GoStructs.Syntax

/-- The named kinds of node. -/
inductive NodeKind where
  | sourceFile | packageClause | importDeclaration | importSpec | importSpecList | dot
  | blankIdentifier | constDeclaration | constSpec | varDeclaration | varSpec | varSpecList
  | functionDeclaration | methodDeclaration | typeParameterList | typeParameterDeclaration
  | typeConstraint | parameterList | parameterDeclaration | variadicParameterDeclaration
  | typeAlias | typeDeclaration | typeSpec | expressionList | parenthesizedType | genericType
  | typeArguments | pointerType | arrayType | implicitLengthArrayType | sliceType | structType
  | negatedType | fieldDeclarationList | fieldDeclaration | interfaceType | methodElem | typeElem
  | mapType | channelType | functionType | qualifiedType | block | emptyStatement
  | expressionStatement | sendStatement | receiveStatement | incStatement | decStatement
  | assignmentStatement | shortVarDeclaration | labeledStatement | fallthroughStatement
  | breakStatement | continueStatement | gotoStatement | returnStatement | goStatement
  | deferStatement | ifStatement | forStatement | forClause | rangeClause
  | expressionSwitchStatement | expressionCase | defaultCase | typeSwitchStatement | typeCase
  | selectStatement | communicationCase | parenthesizedExpression | callExpression
  | variadicArgument | argumentList | selectorExpression | indexExpression | sliceExpression
  | typeAssertionExpression | typeConversionExpression | typeInstantiationExpression
  | compositeLiteral | literalValue | literalElement | keyedElement | funcLiteral
  | unaryExpression | binaryExpression | identifier | typeIdentifier | fieldIdentifier
  | packageIdentifier | labelName | rawStringLiteral | rawStringLiteralContent
  | interpretedStringLiteral | interpretedStringLiteralContent | escapeSequence | intLiteral
  | floatLiteral | imaginaryLiteral | runeLiteral | nil | true | false | iota | comment
  deriving DecidableEq, Repr, Inhabited

/-- The name of a named kind. -/
def NodeKind.name : NodeKind → String
  | sourceFile => "source_file"
  | packageClause => "package_clause"
  | importDeclaration => "import_declaration"
  | importSpec => "import_spec"
  | importSpecList => "import_spec_list"
  | dot => "dot"
  | blankIdentifier => "blank_identifier"
  | constDeclaration => "const_declaration"
  | constSpec => "const_spec"
  | varDeclaration => "var_declaration"
  | varSpec => "var_spec"
  | varSpecList => "var_spec_list"
  | functionDeclaration => "function_declaration"
  | methodDeclaration => "method_declaration"
  | typeParameterList => "type_parameter_list"
  | typeParameterDeclaration => "type_parameter_declaration"
  | typeConstraint => "type_constraint"
  | parameterList => "parameter_list"
  | parameterDeclaration => "parameter_declaration"
  | variadicParameterDeclaration => "variadic_parameter_declaration"
  | typeAlias => "type_alias"
  | typeDeclaration => "type_declaration"
  | typeSpec => "type_spec"
  | expressionList => "expression_list"
  | parenthesizedType => "parenthesized_type"
  | genericType => "generic_type"
  | typeArguments => "type_arguments"
  | pointerType => "pointer_type"
  | arrayType => "array_type"
  | implicitLengthArrayType => "implicit_length_array_type"
  | sliceType => "slice_type"
  | structType => "struct_type"
  | negatedType => "negated_type"
  | fieldDeclarationList => "field_declaration_list"
  | fieldDeclaration => "field_declaration"
  | interfaceType => "interface_type"
  | methodElem => "method_elem"
  | typeElem => "type_elem"
  | mapType => "map_type"
  | channelType => "channel_type"
  | functionType => "function_type"
  | qualifiedType => "qualified_type"
  | block => "block"
  | emptyStatement => "empty_statement"
  | expressionStatement => "expression_statement"
  | sendStatement => "send_statement"
  | receiveStatement => "receive_statement"
  | incStatement => "inc_statement"
  | decStatement => "dec_statement"
  | assignmentStatement => "assignment_statement"
  | shortVarDeclaration => "short_var_declaration"
  | labeledStatement => "labeled_statement"
  | fallthroughStatement => "fallthrough_statement"
  | breakStatement => "break_statement"
  | continueStatement => "continue_statement"
  | gotoStatement => "goto_statement"
  | returnStatement => "return_statement"
  | goStatement => "go_statement"
  | deferStatement => "defer_statement"
  | ifStatement => "if_statement"
  | forStatement => "for_statement"
  | forClause => "for_clause"
  | rangeClause => "range_clause"
  | expressionSwitchStatement => "expression_switch_statement"
  | expressionCase => "expression_case"
  | defaultCase => "default_case"
  | typeSwitchStatement => "type_switch_statement"
  | typeCase => "type_case"
  | selectStatement => "select_statement"
  | communicationCase => "communication_case"
  | parenthesizedExpression => "parenthesized_expression"
  | callExpression => "call_expression"
  | variadicArgument => "variadic_argument"
  | argumentList => "argument_list"
  | selectorExpression => "selector_expression"
  | indexExpression => "index_expression"
  | sliceExpression => "slice_expression"
  | typeAssertionExpression => "type_assertion_expression"
  | typeConversionExpression => "type_conversion_expression"
  | typeInstantiationExpression => "type_instantiation_expression"
  | compositeLiteral => "composite_literal"
  | literalValue => "literal_value"
  | literalElement => "literal_element"
  | keyedElement => "keyed_element"
  | funcLiteral => "func_literal"
  | unaryExpression => "unary_expression"
  | binaryExpression => "binary_expression"
  | identifier => "identifier"
  | typeIdentifier => "type_identifier"
  | fieldIdentifier => "field_identifier"
  | packageIdentifier => "package_identifier"
  | labelName => "label_name"
  | rawStringLiteral => "raw_string_literal"
  | rawStringLiteralContent => "raw_string_literal_content"
  | interpretedStringLiteral => "interpreted_string_literal"
  | interpretedStringLiteralContent => "interpreted_string_literal_content"
  | escapeSequence => "escape_sequence"
  | intLiteral => "int_literal"
  | floatLiteral => "float_literal"
  | imaginaryLiteral => "imaginary_literal"
  | runeLiteral => "rune_literal"
  | nil => "nil"
  | true => "true"
  | false => "false"
  | iota => "iota"
  | comment => "comment"

/-- The kind of a node. -/
inductive Kind where
  /-- A construct, or a token with a text of its own. -/
  | node (kind : NodeKind)
  /-- A keyword, an operator or a delimiter, known by its text. -/
  | token (text : String)
  /-- A line end that ends a statement. -/
  | lineEnd
  /-- Text that fits nowhere. -/
  | error
  deriving DecidableEq, Repr, Inhabited

namespace Kind

/-- The kind's name; a token's name is its text. -/
def name : Kind → String
  | node k => k.name
  | token s => s
  | lineEnd => "\n"
  | error => "ERROR"

/-- Constructs and tokens with a text of their own are named; so is text that fits nowhere. -/
def isNamed : Kind → Bool
  | node _ => true
  | error => true
  | token _ => false
  | lineEnd => false

/-- A statement's line end is not shown as a node. -/
def isShown (k : Kind) : Bool := k != lineEnd

end Kind

/-- The part a node plays in its parent. -/
inductive Label where
  | name | type | typeParameters | tag
  deriving DecidableEq, Repr, Inhabited

end GoStructs.Syntax
