/-!
# Operators, primitive types and constants

The parts of a node that are neither names nor further nodes: the operator of a binary
or unary expression, the keyword of a primitive type, the value of a literal. Each of
them has a name in data and, where it has one in Java, a spelling in source text.
-/

namespace SyntaxTour

/-- Binary operators, which are also those of a compound assignment. -/
inductive BinaryOp where
  | plus
  | minus
  | multiply
  | divide
  | remainder
  | leftShift
  | rightShift
  | unsignedRightShift
  | lessThan
  | lessThanEqual
  | greaterThan
  | greaterThanEqual
  | equalTo
  | notEqualTo
  | and
  | xor
  | or
  | conditionalAnd
  | conditionalOr
  deriving DecidableEq, Repr, Inhabited

namespace BinaryOp

/-- Every binary operator, in order. -/
def all : List BinaryOp :=
  [plus, minus, multiply, divide, remainder, leftShift, rightShift, unsignedRightShift,
   lessThan, lessThanEqual, greaterThan, greaterThanEqual, equalTo, notEqualTo, and, xor, or,
   conditionalAnd, conditionalOr]

/-- The operator in data. -/
def name : BinaryOp → String
  | plus => "plus"
  | minus => "minus"
  | multiply => "multiply"
  | divide => "divide"
  | remainder => "remainder"
  | leftShift => "left_shift"
  | rightShift => "right_shift"
  | unsignedRightShift => "unsigned_right_shift"
  | lessThan => "less_than"
  | lessThanEqual => "less_than_equal"
  | greaterThan => "greater_than"
  | greaterThanEqual => "greater_than_equal"
  | equalTo => "equal_to"
  | notEqualTo => "not_equal_to"
  | and => "and"
  | xor => "xor"
  | or => "or"
  | conditionalAnd => "conditional_and"
  | conditionalOr => "conditional_or"

/-- The operator as Java writes it. -/
def symbol : BinaryOp → String
  | plus => "+"
  | minus => "-"
  | multiply => "*"
  | divide => "/"
  | remainder => "%"
  | leftShift => "<<"
  | rightShift => ">>"
  | unsignedRightShift => ">>>"
  | lessThan => "<"
  | lessThanEqual => "<="
  | greaterThan => ">"
  | greaterThanEqual => ">="
  | equalTo => "=="
  | notEqualTo => "!="
  | and => "&"
  | xor => "^"
  | or => "|"
  | conditionalAnd => "&&"
  | conditionalOr => "||"

/-- The operator a name in data stands for. -/
def ofName? (s : String) : Option BinaryOp :=
  all.find? fun op => op.name == s

end BinaryOp

/-- Unary operators. -/
inductive UnaryOp where
  | preIncrement
  | preDecrement
  | postIncrement
  | postDecrement
  | plus
  | minus
  | bitwiseComplement
  | logicalComplement
  deriving DecidableEq, Repr, Inhabited

namespace UnaryOp

/-- Every unary operator, in order. -/
def all : List UnaryOp :=
  [preIncrement, preDecrement, postIncrement, postDecrement, plus, minus, bitwiseComplement,
   logicalComplement]

/-- The operator in data. -/
def name : UnaryOp → String
  | preIncrement => "prefix_increment"
  | preDecrement => "prefix_decrement"
  | postIncrement => "postfix_increment"
  | postDecrement => "postfix_decrement"
  | plus => "plus"
  | minus => "minus"
  | bitwiseComplement => "bitwise_complement"
  | logicalComplement => "logical_complement"

/-- The operator a name in data stands for. -/
def ofName? (s : String) : Option UnaryOp :=
  all.find? fun op => op.name == s

end UnaryOp

/-- The primitive types of Java, and `void`. -/
inductive Primitive where
  | boolean
  | byte
  | short
  | int
  | long
  | char
  | float
  | double
  | void
  deriving DecidableEq, Repr, Inhabited

namespace Primitive

/-- Every primitive type, in order. -/
def all : List Primitive :=
  [boolean, byte, short, int, long, char, float, double, void]

/-- The keyword of a primitive type, in data and in Java alike. -/
def keyword : Primitive → String
  | boolean => "boolean"
  | byte => "byte"
  | short => "short"
  | int => "int"
  | long => "long"
  | char => "char"
  | float => "float"
  | double => "double"
  | void => "void"

/-- The primitive type a keyword stands for. -/
def ofKeyword? (s : String) : Option Primitive :=
  all.find? fun p => p.keyword == s

end Primitive

/-- **The value of a literal.** A floating-point value is kept as the 64 bits of its
double, so that two literals are the same value exactly when they are equal here. -/
inductive Constant where
  | string (text : String)
  | char (c : Char)
  | int (value : Int64)
  | long (value : Int64)
  | float (bits : UInt64)
  | double (bits : UInt64)
  | boolean (value : Bool)
  | null
  deriving DecidableEq, Repr, Inhabited

end SyntaxTour
