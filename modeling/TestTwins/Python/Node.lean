namespace TestTwins.Python

inductive Kind
  | module | block | comment | lineContinuation
  | token
  | error
  | missing
  | identifier | integer | float | trueLiteral | falseLiteral | noneLiteral | ellipsis
  | string | concatenatedString | stringStart | stringContent | stringEnd
  | interpolation | typeConversion | formatSpecifier
  | importStatement | importFromStatement | futureImportStatement
  | dottedName | aliasedImport | relativeImport | importPrefix | wildcardImport
  | printStatement | chevron | execStatement | assertStatement | expressionStatement
  | returnStatement | deleteStatement | raiseStatement | passStatement | breakStatement
  | continueStatement | globalStatement | nonlocalStatement | typeAliasStatement
  | ifStatement | elifClause | elseClause | whileStatement | forStatement
  | tryStatement | exceptClause | exceptGroupClause | finallyClause
  | withStatement | withClause | withItem
  | matchStatement | caseClause | casePattern | keywordPattern | classPattern | splatPattern
  | unionPattern | dictPattern | complexPattern
  | functionDefinition | classDefinition | decoratedDefinition | decorator
  | parameters | lambdaParameters | defaultParameter | typedParameter | typedDefaultParameter
  | positionalSeparator | keywordSeparator
  | listSplatPattern | dictionarySplatPattern | tuplePattern | listPattern | patternList
  | type | typeParameter | constrainedType | splatType
  | namedExpression | asPattern | asPatternTarget | conditionalExpression | lambda
  | booleanOperator | notOperator | comparisonOperator | binaryOperator | unaryOperator | await
  | attribute | subscript | slice | call | argumentList | keywordArgument
  | listSplat | dictionarySplat | parenthesizedExpression | expressionList | yield
  | list | set | tuple | dictionary | pair
  | listComprehension | setComprehension | dictionaryComprehension | generatorExpression
  | forInClause | ifClause
  | assignment | augmentedAssignment
  deriving DecidableEq, Repr, Inhabited

def Kind.isNamed : Kind → Bool
  | .token | .missing => false
  | _ => true

inductive Field
  | name | parameters | body | function | arguments | attribute | object | moduleName
  | definition | left | right | condition | value | alias | returnType | type | cause
  deriving DecidableEq, Repr

structure Node where
  kind : Kind
  field : Option Field
  line : Nat
  text : String
  children : List Node
  deriving Inhabited, Repr

namespace Node

def namedChildren (n : Node) : List Node := n.children.filter (·.kind.isNamed)

def child? (n : Node) (f : Field) : Option Node := n.children.find? (·.field == some f)

mutual

def size : Node → Nat
  | ⟨_, _, _, _, children⟩ => 1 + sizes children

def sizes : List Node → Nat
  | [] => 0
  | n :: rest => n.size + sizes rest

end

theorem size_eq (n : Node) : n.size = 1 + sizes n.children := by
  cases n
  simp [size]

theorem sizes_append (xs ys : List Node) : sizes (xs ++ ys) = sizes xs + sizes ys := by
  induction xs with
  | nil => simp [sizes]
  | cons n rest ih => simp [sizes, ih, Nat.add_assoc]

def traverse : List Node → List Node
  | [] => []
  | n :: rest => n :: traverse (rest ++ n.children)
termination_by queue => sizes queue
decreasing_by
  rw [sizes_append, sizes, size_eq]
  omega

def breadthFirst (n : Node) : List Node := traverse [n]

mutual

def hasKind (k : Kind) : Node → Bool
  | ⟨kind, _, _, _, children⟩ => kind == k || anyHasKind k children

def anyHasKind (k : Kind) : List Node → Bool
  | [] => false
  | n :: rest => n.hasKind k || anyHasKind k rest

end

def hasErrors (n : Node) : Bool := n.hasKind .error || n.hasKind .missing

end Node

end TestTwins.Python
