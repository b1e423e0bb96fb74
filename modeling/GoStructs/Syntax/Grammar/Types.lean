import GoStructs.Syntax.Grammar.Rule
/-! # Types

Types, the bodies of structs and interfaces, and the lists of parameters. -/

namespace GoStructs.Syntax.Grammar
open Pattern

/-- The name of a type of another package. -/
def qualifiedType (ends : Bool) (reserved : List String) : Rules :=
  node .qualifiedType (seqs
    [ident .packageIdentifier reserved, glue ends, op ".", label .name (ident .typeIdentifier [])])

/-- Alternatives of a constraint. -/
def typeElem (ends : Bool) (kind : NodeKind) : Rules :=
  node kind (separated (rule (.type ends)) (seq (glue ends) (op "|")))

/-- The arguments of a generic type. -/
def typeArguments : Rules :=
  node .typeArguments (seqs [op "[", commasTrailing (typeElem false .typeElem), op "]"])

/-- A type with arguments behind it. -/
def withArguments (ends : Bool) (base : Rules) : Rules :=
  node .genericType (seqs [label .type base, glue ends, typeArguments])

/-- A generic type with its arguments. -/
def genericType (ends : Bool) (reserved : List String) : Rules :=
  withArguments ends (either (qualifiedType ends reserved) (ident .typeIdentifier reserved))

/-- A type known by its name: with arguments, of another package, or of this one. -/
def namedType (ends : Bool) (reserved : List String) : Rules :=
  choice [genericType ends reserved, qualifiedType ends reserved, ident .typeIdentifier reserved]

/-- The negation of the type that `inner` reads. -/
def negatedType (inner : Rules) : Rules := node .negatedType (seq (op "~") inner)

/-- The members of a struct that have names: one or more names, then their type. -/
def namedField : Rules :=
  let fieldName : Rules := label .name (ident .fieldIdentifier [])
  let fieldType : Rules := label .type (rule (.type true))
  either
    (seqs [fieldName, sameLine, comma, separated fieldName comma, fieldType])
    (seqs [fieldName, sameLine, fieldType])

/-- What may follow an embedded member. -/
def fieldEnd : Rules := choice [terminator, closeBrace, stringLiteral]

/-- An embedded type: one known by its name, or a negated type with arguments.  If there is one list
of arguments only, it is not that of the name that the negated type ends with. -/
def embeddedType : Rules :=
  choice
    [withArguments true (negatedType (rule (.type true))),
     withArguments true (negatedType (rule .bareType)), namedType true []]

/-- A member of a struct.  `A [N]` with nothing behind it embeds a generic type.  No word is
reserved where a member begins. -/
def field : Rules :=
  node .fieldDeclaration (seq
    (choice
      [seqs [label .type (genericType true []), ahead fieldEnd],
       namedField,
       seq (optional (op "*")) (label .type embeddedType)])
    (further true (label .tag stringLiteral)))

/-- The body of a struct. -/
def fields : Rules :=
  node .fieldDeclarationList (seqs [openBrace, optional (terminated field), closeBrace])

def structType : Rules := node .structType (seq (kw "struct") fields)

/-- A method of an interface. -/
def methodElem : Rules :=
  node .methodElem (seqs
    [label .name (ident .fieldIdentifier typeWords), sameLine, rule .parameters,
     rule (.result true)])

def interfaceType : Rules :=
  node .interfaceType (seqs
    [kw "interface", openBrace,
     optional (terminated (either methodElem (typeElem true .typeElem))), closeBrace])

def pointerType (last : Rules) : Rules := node .pointerType (seq (op "*") last)

def arrayType (last : Rules) : Rules :=
  node .arrayType (seqs [op "[", expression .inner, op "]", last])

def implicitLengthArrayType : Rules :=
  node .implicitLengthArrayType (seqs [op "[", op "...", op "]", rule (.type false)])

def sliceType (last : Rules) : Rules := node .sliceType (seqs [op "[", op "]", last])

def mapType (last : Rules) : Rules :=
  node .mapType (seqs [kw "map", op "[", rule (.type false), op "]", last])

def channelType (last : Rules) : Rules :=
  node .channelType (choice
    [seqs [kw "chan", op "<-", last],
     seqs [kw "chan", last],
     seqs [op "<-", kw "chan", last]])

def functionType (result : Rules) : Rules :=
  node .functionType (seqs [kw "func", rule .parameters, result])

def parenthesizedType : Rules :=
  node .parenthesizedType (seqs [op "(", rule (.type false), op ")"])

/-- A type that is not just a name, given what reads the type or the result at its end. -/
def builtType (last result : Rules) : Rules :=
  choice
    [pointerType last, structType, interfaceType, arrayType last, sliceType last, mapType last,
     channelType last, functionType result, negatedType last]

/-- A type without parentheses around it.  Arguments behind several tildes belong to the last. -/
def simpleType (ends : Bool) : Rules :=
  choice
    [withArguments ends (negatedType (seq (notAhead (op "~")) (rule (.type ends)))),
     builtType (rule (.type ends)) (rule (.result ends)), namedType ends typeWords]

/-- A type. -/
def type (ends : Bool) : Rules := either (rule (.simpleType ends)) parenthesizedType

/-- A type that does not end with type arguments, where a line end may end the statement. -/
def bareType : Rules :=
  choice
    [builtType (rule .bareType) (further true (either (rule .parameters) (rule .bareType))),
     parenthesizedType, qualifiedType true typeWords, ident .typeIdentifier typeWords]

/-- One group of parameters: names and their type, or a type alone, or the variadic parameter. -/
def parameter : Rules :=
  let parameterName : Rules := label .name (ident .identifier typeWords)
  let parameterType : Rules := label .type (rule (.type false))
  choice
    [node .variadicParameterDeclaration (seqs
      [optional parameterName, op "...", parameterType]),
     node .parameterDeclaration (either
      (seq (commas parameterName) parameterType)
      parameterType)]

/-- The parameters of a function, in parentheses. -/
def parameters : Rules :=
  node .parameterList (seqs [op "(", optional (commas parameter), optional comma, op ")"])

/-- The result of a function, if it has one. -/
def result (ends : Bool) : Rules :=
  further ends (either (rule .parameters) (rule (.simpleType ends)))

/-- The parameters of a generic type or function. -/
def typeParameters (reserved : List String) : Rules :=
  let parameterName : Rules := label .name (ident .identifier reserved)
  let furtherName : Rules := label .name (ident .identifier [])
  let constraint : Rules := label .type (typeElem false .typeConstraint)
  let names (first : Rules) : Rules := seq first (many (seq comma furtherName))
  let group (first : Rules) : Rules :=
    node .typeParameterDeclaration (seq (names first) constraint)
  node .typeParameterList (seqs
    [op "[", group parameterName, many (seq comma (group furtherName)), optional comma, op "]"])

end GoStructs.Syntax.Grammar
