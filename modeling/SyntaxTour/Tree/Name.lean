import SyntaxTour.Supply
import SyntaxTour.Text.Dotted

/-!
# The names of nodes

* `Tree.name?` is the declared name of a declaration, or the last word of a name that is
  written out.
* `Tree.dottedName?` reads a chain of member selections back as a dotted name, and
  `Node.ofDotted` builds the chain for a dotted name.
* `Tree.typeName?` is the simple name of a type reference, whatever array brackets and
  type arguments surround it.
-/

namespace SyntaxTour

namespace Tree

variable {ι : Type}

/-- The name a node declares or ends in. -/
def name? (t : Tree ι) : Option String :=
  match t.shape with
  | .classDecl name _ => some name
  | .methodDecl name _ _ _ => some name
  | .variableDecl name _ _ => some name
  | .ident name => some name
  | .select _ member => some member
  | _ => none

/-- **The dotted name a node spells out.** Only chains of member selections that end in an
identifier spell one out. -/
def dottedName? : Tree ι → Option String
  | .node _ _ (.ident name) => some name
  | .node _ _ (.select expression member) =>
    (dottedName? expression).map fun owner => owner ++ "." ++ member
  | _ => none

/-- The text of a string literal. -/
def stringValue? (t : Tree ι) : Option String :=
  match t.shape with
  | .constant (.string text) => some text
  | _ => none

/-- The statements a block or a `case` group holds. -/
def statements? (t : Tree ι) : Option (List (Tree ι)) :=
  match t.shape with
  | .block _ statements => some statements
  | .caseGroup _ statements => some statements
  | _ => none

/-- **The simple name of a type reference**: the last word of a name, the element of an
array, the base of a parameterized type, the keyword of a primitive type. -/
def typeName? : Tree ι → Option String
  | .node _ _ (.ident name) => some name
  | .node _ _ (.select _ member) => some member
  | .node _ _ (.arrayType element) => typeName? element
  | .node _ _ (.genericType base _) => typeName? base
  | .node _ _ (.primitiveType primitive) => some primitive.keyword
  | _ => none

end Tree

namespace Node

/-- The place of a statement, found by its identity, among the statements a node holds. -/
def positionOf? (t statement : Node) : Option Nat := do
  let statements ← t.statements?
  statements.findIdx? fun s => s.id == statement.id

/-- **The chain of member selections for a dotted name.** The first segment becomes an
identifier and each further one selects from what is to its left. -/
def ofDotted {m : Type → Type} [Monad m] [Supply m] (name : String) : m Node := do
  let (first, others) := Dotted.segments name
  let root ← Node.make Span.empty (.ident first)
  others.foldlM (fun owner segment => Node.make Span.empty (.select owner segment)) root

end Node

end SyntaxTour
