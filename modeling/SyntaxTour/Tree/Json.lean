import SyntaxTour.Json
import SyntaxTour.Tree

/-!
# Trees as JSON

A node is written as an object: its span, its type, and one field for each part of its
shape. A missing optional part is left out, a row of children is an array even when it is
empty, and identities are not written.

* `Span.toJson`, `Constant.toJson` are the forms of the parts.
* `Shape.toFields` is the form of a node whose children are written already.
* `Tree.toJson` is the form of a tree.
-/

namespace SyntaxTour

/-- A span is an object with both of its ends. -/
def Span.toJson (s : Span) : Json :=
  .object [("start", .int s.start.toNat), ("end", .int s.stop.toNat)]

/-- A double is a number where JSON has one for it, and `null` otherwise. -/
def Json.ofDouble (bits : UInt64) : Json :=
  match Binary.ofBits bits with
  | some _ => .float bits
  | none => .null

namespace Constant

/-- The kind of a literal in data. -/
def name : Constant → String
  | string _ => "string"
  | char _ => "char"
  | int _ => "int"
  | long _ => "long"
  | float _ => "float"
  | double _ => "double"
  | boolean _ => "boolean"
  | null => "null"

/-- The value of a literal; `null` has none. -/
def value? : Constant → Option Json
  | string text => some (.string text)
  | char c => some (.string c.toString)
  | int value => some (.int value.toInt)
  | long value => some (.int value.toInt)
  | float bits => some (Json.ofDouble bits)
  | double bits => some (Json.ofDouble bits)
  | boolean value => some (.bool value)
  | null => none

/-- A literal is an object with its kind and, unless it is `null`, its value. -/
def toJson (c : Constant) : Json :=
  .object (("literal", .string c.name) :: (c.value?.map fun value => ("value", value)).toList)

end Constant

namespace Shape

/-- A part that may be missing: one field or none. -/
def optionalField (key : String) (value : Option Json) : List (String × Json) :=
  (value.map fun value => (key, value)).toList

/-- The type of a node in data: the name of its kind, and a name of its own for a construct
outside the grammar. -/
def typeName {α : Type} : Shape α → String
  | unknown _ _ => "Unknown"
  | s => s.kind.name

/-- The fields for the parts of a node. -/
def toFields : Shape Json → List (String × Json)
  | classDecl name members => [("name", .string name), ("members", .array members)]
  | methodDecl name parameters returnType body =>
    [("name", .string name), ("parameters", .array parameters)]
      ++ optionalField "return_type" returnType ++ optionalField "body" body
  | variableDecl name type initializer =>
    ("name", .string name) :: optionalField "var_type" type
      ++ optionalField "initializer" initializer
  | block isStatic statements =>
    [("is_static", .bool isStatic), ("statements", .array statements)]
  | ifThen condition thenBranch elseBranch =>
    [("condition", condition), ("then_branch", thenBranch)]
      ++ optionalField "else_branch" elseBranch
  | forLoop initializers condition updates body =>
    [("initializers", .array initializers), ("updates", .array updates), ("body", body)]
      ++ optionalField "condition" condition
  | forEach item expression body =>
    [("variable", item), ("expression", expression), ("body", body)]
  | whileLoop condition body => [("condition", condition), ("body", body)]
  | doWhile body condition => [("body", body), ("condition", condition)]
  | tryBlock body catches finally? =>
    [("block", body), ("catches", .array catches)] ++ optionalField "finally" finally?
  | catchClause parameter body => [("parameter", parameter), ("block", body)]
  | switch selector cases => [("selector", selector), ("cases", .array cases)]
  | caseGroup label statements =>
    optionalField "label" label ++ [("statements", .array statements)]
  | returnStmt expression => optionalField "expression" expression
  | breakStmt label => optionalField "label" (label.map .string)
  | continueStmt label => optionalField "label" (label.map .string)
  | throwStmt expression => [("expression", expression)]
  | exprStmt expression => [("expression", expression)]
  | emptyStmt => []
  | call callee typeArguments arguments =>
    [("method_select", callee), ("type_arguments", .array typeArguments),
     ("arguments", .array arguments)]
  | select expression member => [("expression", expression), ("identifier", .string member)]
  | ident name => [("name", .string name)]
  | constant value => [("value", value.toJson)]
  | assign target expression => [("variable", target), ("expression", expression)]
  | binary operator left right =>
    [("operator", .string operator.name), ("left", left), ("right", right)]
  | unary operator operand => [("operator", .string operator.name), ("operand", operand)]
  | compoundAssign operator target expression =>
    [("operator", .string operator.name), ("variable", target), ("expression", expression)]
  | cast type expression => [("target_type", type), ("expression", expression)]
  | newArray elementType dimensions initializers =>
    optionalField "element_type" elementType
      ++ [("dimensions", .array dimensions), ("initializers", .array initializers)]
  | newObject enclosing type typeArguments arguments classBody =>
    optionalField "enclosing" enclosing
      ++ [("identifier", type), ("type_arguments", .array typeArguments),
          ("arguments", .array arguments)]
      ++ optionalField "class_body" classBody
  | arrayAccess expression index => [("expression", expression), ("index", index)]
  | parens expression => [("expression", expression)]
  | primitiveType primitive => [("primitive", .string primitive.keyword)]
  | arrayType element => [("element", element)]
  | genericType base arguments => [("base", base), ("arguments", .array arguments)]
  | unknown label children => [("label", .string label), ("children", .array children)]

end Shape

/-- **The JSON form of a tree**: everything but the identities. -/
def Tree.toJson {ι : Type} : Tree ι → Json :=
  Tree.fold fun _ span shape =>
    .object (("span", span.toJson) :: ("type", .string shape.typeName) :: shape.toFields)

end SyntaxTour
