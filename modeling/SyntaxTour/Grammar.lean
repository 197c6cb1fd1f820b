import SyntaxTour.Tree

/-!
# The grammar of positions

Every place for a child in a node is a position of some sort: of a statement, of an
expression, of a type. A position admits some kinds of nodes and no others, and a node in a
position that does not admit it is unrecognized there.

* `Position` lists the sorts of positions, and `Position.admits` says what each of them
  expects.
* `Shape.slots` gives the children of a node with their positions, in the order in which a
  tour visits them. That order is by role and not the order of the source text: a loop has
  its body before its initializers, a method its body before its parameters.
-/

namespace SyntaxTour

/-- **The sort of a place for a node.** -/
inductive Position where
  /-- A declaration of a file, or the body of an anonymous class. -/
  | topLevel
  | member
  /-- The variable of a loop, a parameter of a method or of a `catch`. -/
  | binding
  | statement
  | expression
  | type
  /-- Below an unknown construct, where anything known may stand. -/
  | loose
  deriving DecidableEq, Repr, Inhabited

namespace Position

/-- The position in words. -/
def title : Position → String
  | topLevel => "class"
  | member => "class member"
  | binding => "variable"
  | statement => "statement"
  | expression => "expression"
  | type => "type"
  | loose => "unknown construct"

/-- Whether a position expects nodes of a kind. -/
def admits : Position → Kind → Bool
  | topLevel, .classDecl => true
  | topLevel, _ => false
  | member, .classDecl | member, .methodDecl | member, .variableDecl | member, .block => true
  | member, _ => false
  | binding, .variableDecl => true
  | binding, _ => false
  | statement, .classDecl | statement, .variableDecl | statement, .block
  | statement, .ifThen | statement, .forLoop | statement, .forEach | statement, .whileLoop
  | statement, .doWhile | statement, .tryBlock | statement, .catchClause | statement, .switch
  | statement, .caseGroup | statement, .returnStmt | statement, .breakStmt
  | statement, .continueStmt | statement, .throwStmt | statement, .exprStmt
  | statement, .emptyStmt => true
  | statement, _ => false
  | expression, .call | expression, .select | expression, .ident | expression, .constant
  | expression, .assign | expression, .binary | expression, .unary
  | expression, .compoundAssign | expression, .cast | expression, .newArray
  | expression, .newObject | expression, .arrayAccess | expression, .parens
  | expression, .primitiveType | expression, .arrayType | expression, .genericType => true
  | expression, _ => false
  | type, .ident | type, .select | type, .primitiveType | type, .arrayType
  | type, .genericType => true
  | type, _ => false
  | loose, .other => false
  | loose, _ => true

end Position

namespace Shape

variable {α : Type}

/-- **The children of a node with their positions**, in the order of a visit. -/
def slots : Shape α → List (Position × α)
  | classDecl _ members => members.map (.member, ·)
  | methodDecl _ parameters returnType body =>
    body.toList.map (.statement, ·) ++
      (parameters.map (.binding, ·) ++ returnType.toList.map (.type, ·))
  | variableDecl _ type initializer =>
    type.toList.map (.type, ·) ++ initializer.toList.map (.expression, ·)
  | block _ statements => statements.map (.statement, ·)
  | ifThen condition thenBranch elseBranch =>
    (.expression, condition) :: (.statement, thenBranch) ::
      elseBranch.toList.map (.statement, ·)
  | forLoop initializers condition updates body =>
    condition.toList.map (.expression, ·) ++ (.statement, body) ::
      (initializers.map (.statement, ·) ++ updates.map (.statement, ·))
  | forEach item expression body =>
    [(.expression, expression), (.binding, item), (.statement, body)]
  | whileLoop condition body => [(.expression, condition), (.statement, body)]
  -- The condition comes first here too, although the text has it last.
  | doWhile body condition => [(.expression, condition), (.statement, body)]
  | tryBlock body catches finally? =>
    (.statement, body) :: (catches.map (.statement, ·) ++ finally?.toList.map (.statement, ·))
  | catchClause parameter body => [(.binding, parameter), (.statement, body)]
  | switch selector cases => (.expression, selector) :: cases.map (.statement, ·)
  | caseGroup label statements =>
    label.toList.map (.expression, ·) ++ statements.map (.statement, ·)
  | returnStmt expression => expression.toList.map (.expression, ·)
  | breakStmt _ => []
  | continueStmt _ => []
  | throwStmt expression => [(.expression, expression)]
  | exprStmt expression => [(.expression, expression)]
  | emptyStmt => []
  | call callee typeArguments arguments =>
    (.expression, callee) ::
      (arguments.map (.expression, ·) ++ typeArguments.map (.type, ·))
  | select expression _ => [(.expression, expression)]
  | ident _ => []
  | constant _ => []
  | assign target expression => [(.expression, target), (.expression, expression)]
  | binary _ left right => [(.expression, left), (.expression, right)]
  | unary _ operand => [(.expression, operand)]
  | compoundAssign _ target expression => [(.expression, target), (.expression, expression)]
  | cast type expression => [(.type, type), (.expression, expression)]
  | newArray elementType dimensions initializers =>
    elementType.toList.map (.type, ·) ++
      (dimensions.map (.expression, ·) ++ initializers.map (.expression, ·))
  | newObject enclosing type typeArguments arguments classBody =>
    (.type, type) :: (enclosing.toList.map (.expression, ·) ++
      (classBody.toList.map (.topLevel, ·) ++
        (typeArguments.map (.type, ·) ++ arguments.map (.expression, ·))))
  | arrayAccess expression index => [(.expression, expression), (.expression, index)]
  | parens expression => [(.expression, expression)]
  | primitiveType _ => []
  | arrayType element => [(.type, element)]
  | genericType base arguments => (.type, base) :: arguments.map (.type, ·)
  | unknown _ children => children.map (.loose, ·)

/-- A node in a slot is a child. -/
theorem mem_children_of_mem_slots {s : Shape α} {slot : Position × α} (h : slot ∈ s.slots) :
    slot.2 ∈ s.children := by
  cases s <;> rw [slots] at h <;> rw [children] <;> grind

/-- **The slots a tour goes on to** at a node in a given position: all of them where the node
is expected, and none where it is not, except that an unknown construct can be asked to be
looked into. -/
def visits (position : Position) (descend : Bool) (s : Shape α) : List (Position × α) :=
  if position.admits s.kind || (descend && s.kind == .other) then s.slots else []

theorem mem_children_of_mem_visits {position : Position} {descend : Bool} {s : Shape α}
    {slot : Position × α} (h : slot ∈ s.visits position descend) : slot.2 ∈ s.children := by
  unfold visits at h
  split at h
  · exact mem_children_of_mem_slots h
  · simp at h

end Shape

end SyntaxTour
