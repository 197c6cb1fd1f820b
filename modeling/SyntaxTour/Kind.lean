/-!
# Kinds of syntax nodes

The tree covers the structural part of Java: declarations, statements, expressions
and type references, and one kind for everything else. A kind says what a node is;
the category of a kind says where such a node is at home.

* `Kind` is the closed list of kinds, ordered by its declaration.
* `Kind.category` sorts the kinds into five categories, and `Category.family?` sorts the
  categories into the two families of positions.
* `Kind.name` and `Kind.label` are the two written forms of a kind: `ForLoop` in data
  and `FOR_LOOP` in running text.
-/

namespace SyntaxTour

/-- The two families of positions: those that hold statements and declarations, and those
that hold expressions and type references. -/
inductive Family where
  | statement
  | expression
  deriving DecidableEq, Repr, Inhabited

/-- Where a kind of node is at home. -/
inductive Category where
  | declaration
  | statement
  | expression
  | type
  | other
  deriving DecidableEq, Repr, Inhabited

namespace Category

/-- The category in data: one lower-case word. -/
def name : Category → String
  | declaration => "declaration"
  | statement => "statement"
  | expression => "expression"
  | type => "type"
  | other => "other"

/-- The category inside a message: the same word with a capital. -/
def title : Category → String
  | declaration => "Declaration"
  | statement => "Statement"
  | expression => "Expression"
  | type => "Type"
  | other => "Other"

/-- The family of positions a category fits. `other` belongs to neither family and is at
home in both. -/
def family? : Category → Option Family
  | declaration | statement => some .statement
  | expression | type => some .expression
  | other => none

end Category

/-- **The kinds of nodes.** The order is that of the declaration: it is the order in
which kinds are listed and compared. -/
inductive Kind where
  /-- A class, interface or enum. -/
  | classDecl
  /-- A method or a constructor. -/
  | methodDecl
  /-- A field, a local variable, a parameter. -/
  | variableDecl
  | block
  | ifThen
  | forLoop
  | forEach
  | whileLoop
  | doWhile
  | tryBlock
  /-- One `catch` clause of a `try`. -/
  | catchClause
  | switch
  /-- One `case` or `default` group of a `switch`. -/
  | caseGroup
  | returnStmt
  | breakStmt
  | continueStmt
  | throwStmt
  | exprStmt
  | emptyStmt
  | call
  | select
  | ident
  | constant
  | assign
  | binary
  | unary
  | compoundAssign
  | cast
  | newArray
  | newObject
  | arrayAccess
  | parens
  | primitiveType
  | arrayType
  | genericType
  /-- Whatever the grammar does not name. -/
  | other
  deriving DecidableEq, Repr, Inhabited

namespace Kind

/-- Every kind, in order. -/
def all : List Kind :=
  [classDecl, methodDecl, variableDecl, block, ifThen, forLoop, forEach, whileLoop, doWhile,
   tryBlock, catchClause, switch, caseGroup, returnStmt, breakStmt, continueStmt, throwStmt,
   exprStmt, emptyStmt, call, select, ident, constant, assign, binary, unary, compoundAssign,
   cast, newArray, newObject, arrayAccess, parens, primitiveType, arrayType, genericType, other]

theorem mem_all (k : Kind) : k ∈ all := by
  cases k <;> decide

theorem nodup_all : all.Nodup := by
  decide

/-- The place of a kind in the order. -/
def index (k : Kind) : Nat := k.ctorIdx

theorem index_inj {a b : Kind} : a.index = b.index ↔ a = b := by
  constructor
  · intro h
    have hall : ∀ x ∈ all, ∀ y ∈ all, x.index = y.index → x = y := by decide
    exact hall a (mem_all a) b (mem_all b) h
  · intro h
    rw [h]

/-- Kinds compare by their place in the order. -/
instance : Ord Kind := ⟨fun a b => compare a.index b.index⟩

/-- The category a kind belongs to. -/
def category : Kind → Category
  | classDecl | methodDecl | variableDecl => .declaration
  | block | ifThen | forLoop | forEach | whileLoop | doWhile | tryBlock | catchClause | switch
  | caseGroup | returnStmt | breakStmt | continueStmt | throwStmt | exprStmt | emptyStmt =>
    .statement
  | call | select | ident | constant | assign | binary | unary | compoundAssign | cast
  | newArray | newObject | arrayAccess | parens => .expression
  | primitiveType | arrayType | genericType => .type
  | other => .other

/-- The kind in data: words with capitals, no blanks. -/
def name : Kind → String
  | classDecl => "Class"
  | methodDecl => "Method"
  | variableDecl => "Variable"
  | block => "Block"
  | ifThen => "If"
  | forLoop => "ForLoop"
  | forEach => "EnhancedForLoop"
  | whileLoop => "WhileLoop"
  | doWhile => "DoWhileLoop"
  | tryBlock => "Try"
  | catchClause => "Catch"
  | switch => "Switch"
  | caseGroup => "Case"
  | returnStmt => "Return"
  | breakStmt => "Break"
  | continueStmt => "Continue"
  | throwStmt => "Throw"
  | exprStmt => "ExpressionStatement"
  | emptyStmt => "EmptyStatement"
  | call => "MethodInvocation"
  | select => "MemberSelect"
  | ident => "Identifier"
  | constant => "Literal"
  | assign => "Assignment"
  | binary => "Binary"
  | unary => "Unary"
  | compoundAssign => "CompoundAssignment"
  | cast => "TypeCast"
  | newArray => "NewArray"
  | newObject => "NewClass"
  | arrayAccess => "ArrayAccess"
  | parens => "Parenthesized"
  | primitiveType => "PrimitiveType"
  | arrayType => "ArrayType"
  | genericType => "ParameterizedType"
  | other => "Other"

/-- The kind in running text: upper-case words joined by underscores. -/
def label : Kind → String
  | classDecl => "CLASS"
  | methodDecl => "METHOD"
  | variableDecl => "VARIABLE"
  | block => "BLOCK"
  | ifThen => "IF"
  | forLoop => "FOR_LOOP"
  | forEach => "ENHANCED_FOR_LOOP"
  | whileLoop => "WHILE_LOOP"
  | doWhile => "DO_WHILE_LOOP"
  | tryBlock => "TRY"
  | catchClause => "CATCH"
  | switch => "SWITCH"
  | caseGroup => "CASE"
  | returnStmt => "RETURN"
  | breakStmt => "BREAK"
  | continueStmt => "CONTINUE"
  | throwStmt => "THROW"
  | exprStmt => "EXPRESSION_STATEMENT"
  | emptyStmt => "EMPTY_STATEMENT"
  | call => "METHOD_INVOCATION"
  | select => "MEMBER_SELECT"
  | ident => "IDENTIFIER"
  | constant => "LITERAL"
  | assign => "ASSIGNMENT"
  | binary => "BINARY"
  | unary => "UNARY"
  | compoundAssign => "COMPOUND_ASSIGNMENT"
  | cast => "TYPE_CAST"
  | newArray => "NEW_ARRAY"
  | newObject => "NEW_CLASS"
  | arrayAccess => "ARRAY_ACCESS"
  | parens => "PARENTHESIZED"
  | primitiveType => "PRIMITIVE_TYPE"
  | arrayType => "ARRAY_TYPE"
  | genericType => "PARAMETERIZED_TYPE"
  | other => "OTHER"

/-- The kind a name in data stands for; only the exact spelling counts. -/
def ofName? (s : String) : Option Kind :=
  all.find? fun k => k.name == s

end Kind

end SyntaxTour
