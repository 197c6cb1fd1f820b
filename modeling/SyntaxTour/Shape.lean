import SyntaxTour.Kind
import SyntaxTour.Operator

/-!
# The shape of a node

A shape is one node with its places for further nodes: names, operators and values are
given, and in each place for a child stands a value of some type `α`. The tree itself is
the case where `α` is the type of trees again.

* `Shape α` has one constructor for each kind (`Shape.kind`).
* `Shape.children` lists what stands in the places, in the order of the source text.
* `Shape.traverse` passes each of them through an effectful function, in that order, and
  puts the results back in the same places; `Shape.map` is the case without effects, and
  `Shape.traverseRows` the case where rows of children have a function of their own.
* `Shape.attach` marks each child as a member of `children`, which is what a recursion
  over trees needs to end.
-/

namespace SyntaxTour

/-- **One node, with a value of type `α` in each place for a child.** An optional child is
an `Option`, a row of children is a `List`; everything else about the node is given. -/
inductive Shape (α : Type) where
  | classDecl (name : String) (members : List α)
  | methodDecl (name : String) (parameters : List α) (returnType body : Option α)
  | variableDecl (name : String) (type initializer : Option α)
  | block (isStatic : Bool) (statements : List α)
  | ifThen (condition thenBranch : α) (elseBranch : Option α)
  | forLoop (initializers : List α) (condition : Option α) (updates : List α) (body : α)
  | forEach (item expression body : α)
  | whileLoop (condition body : α)
  | doWhile (body condition : α)
  | tryBlock (body : α) (catches : List α) (finally? : Option α)
  | catchClause (parameter body : α)
  | switch (selector : α) (cases : List α)
  /-- A group without a label is the `default` group. -/
  | caseGroup (label : Option α) (statements : List α)
  | returnStmt (expression : Option α)
  | breakStmt (label : Option String)
  | continueStmt (label : Option String)
  | throwStmt (expression : α)
  | exprStmt (expression : α)
  | emptyStmt
  | call (callee : α) (typeArguments arguments : List α)
  | select (expression : α) (member : String)
  | ident (name : String)
  | constant (value : Constant)
  | assign (target expression : α)
  | binary (operator : BinaryOp) (left right : α)
  | unary (operator : UnaryOp) (operand : α)
  | compoundAssign (operator : BinaryOp) (target expression : α)
  | cast (type expression : α)
  | newArray (elementType : Option α) (dimensions initializers : List α)
  | newObject (enclosing : Option α) (type : α) (typeArguments arguments : List α)
      (classBody : Option α)
  | arrayAccess (expression index : α)
  | parens (expression : α)
  | primitiveType (primitive : Primitive)
  | arrayType (element : α)
  | genericType (base : α) (arguments : List α)
  /-- A construct outside the grammar, under the label its producer gave it. -/
  | unknown (label : String) (children : List α)
  deriving Repr, Inhabited

namespace Shape

variable {α β γ : Type}

/-- The kind of a node is decided by its shape. -/
def kind : Shape α → Kind
  | classDecl .. => .classDecl
  | methodDecl .. => .methodDecl
  | variableDecl .. => .variableDecl
  | block .. => .block
  | ifThen .. => .ifThen
  | forLoop .. => .forLoop
  | forEach .. => .forEach
  | whileLoop .. => .whileLoop
  | doWhile .. => .doWhile
  | tryBlock .. => .tryBlock
  | catchClause .. => .catchClause
  | switch .. => .switch
  | caseGroup .. => .caseGroup
  | returnStmt .. => .returnStmt
  | breakStmt .. => .breakStmt
  | continueStmt .. => .continueStmt
  | throwStmt .. => .throwStmt
  | exprStmt .. => .exprStmt
  | emptyStmt => .emptyStmt
  | call .. => .call
  | select .. => .select
  | ident .. => .ident
  | constant .. => .constant
  | assign .. => .assign
  | binary .. => .binary
  | unary .. => .unary
  | compoundAssign .. => .compoundAssign
  | cast .. => .cast
  | newArray .. => .newArray
  | newObject .. => .newObject
  | arrayAccess .. => .arrayAccess
  | parens .. => .parens
  | primitiveType .. => .primitiveType
  | arrayType .. => .arrayType
  | genericType .. => .genericType
  | unknown .. => .other

/-- **The children of a node**, in the order in which the source text writes them: the
result type of a method before its parameters, the type arguments of a call before the
callee, the body of a `do` loop before its condition. -/
def children : Shape α → List α
  | classDecl _ members => members
  | methodDecl _ parameters returnType body => returnType.toList ++ (parameters ++ body.toList)
  | variableDecl _ type initializer => type.toList ++ initializer.toList
  | block _ statements => statements
  | ifThen condition thenBranch elseBranch => condition :: thenBranch :: elseBranch.toList
  | forLoop initializers condition updates body =>
    initializers ++ (condition.toList ++ (updates ++ [body]))
  | forEach item expression body => [item, expression, body]
  | whileLoop condition body => [condition, body]
  | doWhile body condition => [body, condition]
  | tryBlock body catches finally? => body :: (catches ++ finally?.toList)
  | catchClause parameter body => [parameter, body]
  | switch selector cases => selector :: cases
  | caseGroup label statements => label.toList ++ statements
  | returnStmt expression => expression.toList
  | breakStmt _ => []
  | continueStmt _ => []
  | throwStmt expression => [expression]
  | exprStmt expression => [expression]
  | emptyStmt => []
  | call callee typeArguments arguments => typeArguments ++ callee :: arguments
  | select expression _ => [expression]
  | ident _ => []
  | constant _ => []
  | assign target expression => [target, expression]
  | binary _ left right => [left, right]
  | unary _ operand => [operand]
  | compoundAssign _ target expression => [target, expression]
  | cast type expression => [type, expression]
  | newArray elementType dimensions initializers =>
    elementType.toList ++ (dimensions ++ initializers)
  | newObject enclosing type typeArguments arguments classBody =>
    enclosing.toList ++ type :: (typeArguments ++ (arguments ++ classBody.toList))
  | arrayAccess expression index => [expression, index]
  | parens expression => [expression]
  | primitiveType _ => []
  | arrayType element => [element]
  | genericType base arguments => base :: arguments
  | unknown _ children => children

/-- **Passing the children through a function, and rows of children through another one.** The
children are visited in the order of `children`, each once; the results take their places, and
nothing else changes. -/
def traverseRows {m : Type → Type} [Monad m] (one : α → m β) (row : List α → m (List β)) :
    Shape α → m (Shape β)
  | classDecl name members => do
    let members ← row members
    pure (classDecl name members)
  | methodDecl name parameters returnType body => do
    let returnType ← returnType.mapM one
    let parameters ← row parameters
    let body ← body.mapM one
    pure (methodDecl name parameters returnType body)
  | variableDecl name type initializer => do
    let type ← type.mapM one
    let initializer ← initializer.mapM one
    pure (variableDecl name type initializer)
  | block isStatic statements => do
    let statements ← row statements
    pure (block isStatic statements)
  | ifThen condition thenBranch elseBranch => do
    let condition ← one condition
    let thenBranch ← one thenBranch
    let elseBranch ← elseBranch.mapM one
    pure (ifThen condition thenBranch elseBranch)
  | forLoop initializers condition updates body => do
    let initializers ← row initializers
    let condition ← condition.mapM one
    let updates ← row updates
    let body ← one body
    pure (forLoop initializers condition updates body)
  | forEach item expression body => do
    let item ← one item
    let expression ← one expression
    let body ← one body
    pure (forEach item expression body)
  | whileLoop condition body => do
    let condition ← one condition
    let body ← one body
    pure (whileLoop condition body)
  | doWhile body condition => do
    let body ← one body
    let condition ← one condition
    pure (doWhile body condition)
  | tryBlock body catches finally? => do
    let body ← one body
    let catches ← row catches
    let finally? ← finally?.mapM one
    pure (tryBlock body catches finally?)
  | catchClause parameter body => do
    let parameter ← one parameter
    let body ← one body
    pure (catchClause parameter body)
  | switch selector cases => do
    let selector ← one selector
    let cases ← row cases
    pure (switch selector cases)
  | caseGroup label statements => do
    let label ← label.mapM one
    let statements ← row statements
    pure (caseGroup label statements)
  | returnStmt expression => do
    let expression ← expression.mapM one
    pure (returnStmt expression)
  | breakStmt label => pure (breakStmt label)
  | continueStmt label => pure (continueStmt label)
  | throwStmt expression => do
    let expression ← one expression
    pure (throwStmt expression)
  | exprStmt expression => do
    let expression ← one expression
    pure (exprStmt expression)
  | emptyStmt => pure emptyStmt
  | call callee typeArguments arguments => do
    let typeArguments ← row typeArguments
    let callee ← one callee
    let arguments ← row arguments
    pure (call callee typeArguments arguments)
  | select expression member => do
    let expression ← one expression
    pure (select expression member)
  | ident name => pure (ident name)
  | constant value => pure (constant value)
  | assign target expression => do
    let target ← one target
    let expression ← one expression
    pure (assign target expression)
  | binary operator left right => do
    let left ← one left
    let right ← one right
    pure (binary operator left right)
  | unary operator operand => do
    let operand ← one operand
    pure (unary operator operand)
  | compoundAssign operator target expression => do
    let target ← one target
    let expression ← one expression
    pure (compoundAssign operator target expression)
  | cast type expression => do
    let type ← one type
    let expression ← one expression
    pure (cast type expression)
  | newArray elementType dimensions initializers => do
    let elementType ← elementType.mapM one
    let dimensions ← row dimensions
    let initializers ← row initializers
    pure (newArray elementType dimensions initializers)
  | newObject enclosing type typeArguments arguments classBody => do
    let enclosing ← enclosing.mapM one
    let type ← one type
    let typeArguments ← row typeArguments
    let arguments ← row arguments
    let classBody ← classBody.mapM one
    pure (newObject enclosing type typeArguments arguments classBody)
  | arrayAccess expression index => do
    let expression ← one expression
    let index ← one index
    pure (arrayAccess expression index)
  | parens expression => do
    let expression ← one expression
    pure (parens expression)
  | primitiveType primitive => pure (primitiveType primitive)
  | arrayType element => do
    let element ← one element
    pure (arrayType element)
  | genericType base arguments => do
    let base ← one base
    let arguments ← row arguments
    pure (genericType base arguments)
  | unknown label children => do
    let children ← row children
    pure (unknown label children)

/-- Passing all children through one function. -/
def traverse {m : Type → Type} [Monad m] (f : α → m β) : Shape α → m (Shape β) :=
  traverseRows f (·.mapM f)

/-- Replacing each child by its image. -/
def map (f : α → β) : Shape α → Shape β
  | classDecl name members => classDecl name (members.map f)
  | methodDecl name parameters returnType body =>
    methodDecl name (parameters.map f) (returnType.map f) (body.map f)
  | variableDecl name type initializer => variableDecl name (type.map f) (initializer.map f)
  | block isStatic statements => block isStatic (statements.map f)
  | ifThen condition thenBranch elseBranch =>
    ifThen (f condition) (f thenBranch) (elseBranch.map f)
  | forLoop initializers condition updates body =>
    forLoop (initializers.map f) (condition.map f) (updates.map f) (f body)
  | forEach item expression body => forEach (f item) (f expression) (f body)
  | whileLoop condition body => whileLoop (f condition) (f body)
  | doWhile body condition => doWhile (f body) (f condition)
  | tryBlock body catches finally? => tryBlock (f body) (catches.map f) (finally?.map f)
  | catchClause parameter body => catchClause (f parameter) (f body)
  | switch selector cases => switch (f selector) (cases.map f)
  | caseGroup label statements => caseGroup (label.map f) (statements.map f)
  | returnStmt expression => returnStmt (expression.map f)
  | breakStmt label => breakStmt label
  | continueStmt label => continueStmt label
  | throwStmt expression => throwStmt (f expression)
  | exprStmt expression => exprStmt (f expression)
  | emptyStmt => emptyStmt
  | call callee typeArguments arguments =>
    call (f callee) (typeArguments.map f) (arguments.map f)
  | select expression member => select (f expression) member
  | ident name => ident name
  | constant value => constant value
  | assign target expression => assign (f target) (f expression)
  | binary operator left right => binary operator (f left) (f right)
  | unary operator operand => unary operator (f operand)
  | compoundAssign operator target expression =>
    compoundAssign operator (f target) (f expression)
  | cast type expression => cast (f type) (f expression)
  | newArray elementType dimensions initializers =>
    newArray (elementType.map f) (dimensions.map f) (initializers.map f)
  | newObject enclosing type typeArguments arguments classBody =>
    newObject (enclosing.map f) (f type) (typeArguments.map f) (arguments.map f)
      (classBody.map f)
  | arrayAccess expression index => arrayAccess (f expression) (f index)
  | parens expression => parens (f expression)
  | primitiveType primitive => primitiveType primitive
  | arrayType element => arrayType (f element)
  | genericType base arguments => genericType (f base) (arguments.map f)
  | unknown label children => unknown label (children.map f)

@[simp] theorem kind_map (f : α → β) (s : Shape α) : (s.map f).kind = s.kind := by
  cases s <;> rfl

@[simp] theorem children_map (f : α → β) (s : Shape α) :
    (s.map f).children = s.children.map f := by
  cases s <;> simp [map, children, Option.toList_map]

theorem map_map (f : α → β) (g : β → γ) (s : Shape α) : (s.map f).map g = s.map (g ∘ f) := by
  cases s <;> simp [map]

@[simp] theorem map_id (s : Shape α) : s.map id = s := by
  cases s <;> simp [map]

/-! ### Children as members -/

/-- **The same node, each child marked as one of its children.** Forgetting the marks gives
the node back (`map_val_attach`). -/
def attach : (s : Shape α) → Shape { a // a ∈ s.children }
  | classDecl name members => classDecl name (members.pmap Subtype.mk (by rw [children]; simp))
  | methodDecl name parameters returnType body =>
    methodDecl name (parameters.pmap Subtype.mk (by rw [children]; simp +contextual))
      (returnType.pmap Subtype.mk (by rw [children]; simp +contextual))
      (body.pmap Subtype.mk (by rw [children]; simp +contextual))
  | variableDecl name type initializer =>
    variableDecl name (type.pmap Subtype.mk (by rw [children]; simp +contextual))
      (initializer.pmap Subtype.mk (by rw [children]; simp +contextual))
  | block isStatic statements =>
    block isStatic (statements.pmap Subtype.mk (by rw [children]; simp))
  | ifThen condition thenBranch elseBranch =>
    ifThen ⟨condition, by simp [children]⟩ ⟨thenBranch, by simp [children]⟩
      (elseBranch.pmap Subtype.mk (by rw [children]; simp +contextual))
  | forLoop initializers condition updates body =>
    forLoop (initializers.pmap Subtype.mk (by rw [children]; simp +contextual))
      (condition.pmap Subtype.mk (by rw [children]; simp +contextual))
      (updates.pmap Subtype.mk (by rw [children]; simp +contextual))
      ⟨body, by simp [children]⟩
  | forEach item expression body =>
    forEach ⟨item, by simp [children]⟩ ⟨expression, by simp [children]⟩
      ⟨body, by simp [children]⟩
  | whileLoop condition body =>
    whileLoop ⟨condition, by simp [children]⟩ ⟨body, by simp [children]⟩
  | doWhile body condition =>
    doWhile ⟨body, by simp [children]⟩ ⟨condition, by simp [children]⟩
  | tryBlock body catches finally? =>
    tryBlock ⟨body, by simp [children]⟩
      (catches.pmap Subtype.mk (by rw [children]; simp +contextual))
      (finally?.pmap Subtype.mk (by rw [children]; simp +contextual))
  | catchClause parameter body =>
    catchClause ⟨parameter, by simp [children]⟩ ⟨body, by simp [children]⟩
  | switch selector cases =>
    switch ⟨selector, by simp [children]⟩
      (cases.pmap Subtype.mk (by rw [children]; simp +contextual))
  | caseGroup label statements =>
    caseGroup (label.pmap Subtype.mk (by rw [children]; simp +contextual))
      (statements.pmap Subtype.mk (by rw [children]; simp +contextual))
  | returnStmt expression =>
    returnStmt (expression.pmap Subtype.mk (by rw [children]; simp +contextual))
  | breakStmt label => breakStmt label
  | continueStmt label => continueStmt label
  | throwStmt expression => throwStmt ⟨expression, by simp [children]⟩
  | exprStmt expression => exprStmt ⟨expression, by simp [children]⟩
  | emptyStmt => emptyStmt
  | call callee typeArguments arguments =>
    call ⟨callee, by simp [children]⟩
      (typeArguments.pmap Subtype.mk (by rw [children]; simp +contextual))
      (arguments.pmap Subtype.mk (by rw [children]; simp +contextual))
  | select expression member => select ⟨expression, by simp [children]⟩ member
  | ident name => ident name
  | constant value => constant value
  | assign target expression =>
    assign ⟨target, by simp [children]⟩ ⟨expression, by simp [children]⟩
  | binary operator left right =>
    binary operator ⟨left, by simp [children]⟩ ⟨right, by simp [children]⟩
  | unary operator operand => unary operator ⟨operand, by simp [children]⟩
  | compoundAssign operator target expression =>
    compoundAssign operator ⟨target, by simp [children]⟩ ⟨expression, by simp [children]⟩
  | cast type expression => cast ⟨type, by simp [children]⟩ ⟨expression, by simp [children]⟩
  | newArray elementType dimensions initializers =>
    newArray (elementType.pmap Subtype.mk (by rw [children]; simp +contextual))
      (dimensions.pmap Subtype.mk (by rw [children]; simp +contextual))
      (initializers.pmap Subtype.mk (by rw [children]; simp +contextual))
  | newObject enclosing type typeArguments arguments classBody =>
    newObject (enclosing.pmap Subtype.mk (by rw [children]; simp +contextual))
      ⟨type, by simp [children]⟩
      (typeArguments.pmap Subtype.mk (by rw [children]; simp +contextual))
      (arguments.pmap Subtype.mk (by rw [children]; simp +contextual))
      (classBody.pmap Subtype.mk (by rw [children]; simp +contextual))
  | arrayAccess expression index =>
    arrayAccess ⟨expression, by simp [children]⟩ ⟨index, by simp [children]⟩
  | parens expression => parens ⟨expression, by simp [children]⟩
  | primitiveType primitive => primitiveType primitive
  | arrayType element => arrayType ⟨element, by simp [children]⟩
  | genericType base arguments =>
    genericType ⟨base, by simp [children]⟩
      (arguments.pmap Subtype.mk (by rw [children]; simp +contextual))
  | unknown label children => unknown label (children.pmap Subtype.mk (by rw [Shape.children]; simp))

private theorem list_val_mark {p : α → Prop} (l : List α) (h : ∀ a ∈ l, p a) :
    (l.pmap Subtype.mk h).map Subtype.val = l := by
  simp [List.map_pmap]

private theorem option_val_mark {p : α → Prop} (o : Option α) (h : ∀ a, o = some a → p a) :
    (o.pmap Subtype.mk h).map Subtype.val = o := by
  cases o <;> rfl

@[simp] theorem map_val_attach (s : Shape α) : s.attach.map Subtype.val = s := by
  cases s <;> simp only [attach, map, list_val_mark, option_val_mark]

/-- A function of the children alone does not see the marks. -/
theorem map_attach (f : α → β) (s : Shape α) : (s.attach.map fun a => f a.1) = s.map f := by
  conv => rhs; rw [← map_val_attach s, map_map]
  rfl

/-- Only the values at the children count. -/
theorem map_congr {f g : α → β} {s : Shape α} (h : ∀ a ∈ s.children, f a = g a) :
    s.map f = s.map g := by
  rw [← map_attach f s, ← map_attach g s]
  exact congrArg s.attach.map (funext fun a => h a.1 a.2)

/-! ### Effects -/

section Traverse

variable {m : Type → Type} [Monad m] [LawfulMonad m]

omit [LawfulMonad m] in
private theorem mapM_option_map (f : α → β) (g : β → m γ) (o : Option α) :
    (o.map f).mapM g = o.mapM fun a => g (f a) := by
  cases o <;> rfl

private theorem mapM_option_pure (f : α → β) (o : Option α) :
    o.mapM (fun a => (pure (f a) : m β)) = pure (o.map f) := by
  cases o <;> simp

private theorem mapM_toList (f : α → m β) (o : Option α) :
    o.toList.mapM f = Option.toList <$> o.mapM f := by
  cases o <;> simp

/-- Passing images of the children on is passing the children through both functions. -/
theorem traverse_map (f : α → β) (g : β → m γ) (s : Shape α) :
    (s.map f).traverse g = s.traverse fun a => g (f a) := by
  cases s <;>
    simp only [map, traverse, traverseRows, List.mapM_map, mapM_option_map, Function.comp_def]

/-- A function without effects only replaces. -/
theorem traverse_pure (f : α → β) (s : Shape α) :
    s.traverse (fun a => (pure (f a) : m β)) = pure (s.map f) := by
  cases s <;> simp [map, traverse, traverseRows, mapM_option_pure]

/-- An effectful function of the children alone does not see the marks either. -/
theorem traverse_attach (g : α → m β) (s : Shape α) :
    (s.attach.traverse fun a => g a.1) = s.traverse g := by
  conv => rhs; rw [← map_val_attach s, traverse_map]

/-- Only the effects and results at the children count. -/
theorem traverse_congr {f g : α → m β} {s : Shape α} (h : ∀ a ∈ s.children, f a = g a) :
    s.traverse f = s.traverse g := by
  rw [← traverse_attach f, ← traverse_attach g]
  exact congrArg s.attach.traverse (funext fun a => h a.1 a.2)

/-- **The children of the result are the results of the children**, in the same order and
with the same effects. -/
theorem children_traverse (f : α → m β) (s : Shape α) :
    children <$> s.traverse f = s.children.mapM f := by
  cases s <;> simp [traverse, traverseRows, children, mapM_toList, List.mapM_append]

end Traverse

/-! ### Sizes -/

private theorem sizeOf_lt_of_mem_toList [SizeOf α] {o : Option α} {a : α} (h : a ∈ o.toList) :
    sizeOf a < sizeOf o := by
  simp only [Option.mem_toList] at h
  subst h
  simp +arith

/-- A child is smaller than the node it is part of. -/
theorem sizeOf_lt_of_mem_children [SizeOf α] {s : Shape α} {a : α} (h : a ∈ s.children) :
    sizeOf a < sizeOf s := by
  cases s <;> rw [children] at h <;>
    grind [→ List.sizeOf_lt_of_mem, → sizeOf_lt_of_mem_toList]

end Shape

end SyntaxTour
