import SyntaxTour.Json

/-!
# Schemas

A schema says what an object may hold: it lists properties, with the type of each of them and
the value that it stands for where it is not given. There may be no others.

* `Schema.check` goes through a value and gives the first reason for which it is refused.
* `Schema.Mismatch` is such a reason, with its words.
-/

namespace SyntaxTour

namespace Schema

/-- The types that a schema asks for. -/
inductive ValueType where
  | boolean
  | object
  deriving DecidableEq, Repr

namespace ValueType

def name : ValueType → String
  | boolean => "boolean"
  | object => "object"

/-- Whether a value is of the type. -/
def admits : ValueType → Json → Bool
  | boolean, .bool _ => true
  | object, .fields _ => true
  | _, _ => false

end ValueType

/-- **A property that an object may have.** -/
structure Property where
  name : String
  type : ValueType
  /-- What the property stands for where it is not given. -/
  fallback : Json

/-- **Why a value is refused.** -/
inductive Mismatch where
  /-- The value, or the one under the given key, is not of the type that is asked for. -/
  | wrongType (expected : ValueType) (found : Json) (key : Option String)
  /-- There is no property of that name. -/
  | unexpected (key : String)

namespace Mismatch

/-- What is wrong. -/
def problem : Mismatch → String
  | wrongType expected found _ => found.compact ++ " is not of type \"" ++ expected.name ++ "\""
  | unexpected key => "Additional properties are not allowed ('" ++ key ++ "' was unexpected)"

/-- The place of the value that is wrong; that of a key too many is the whole object. -/
def place : Mismatch → String
  | wrongType _ _ (some key) => "/" ++ key
  | _ => ""

end Mismatch

end Schema

/-- **A schema of objects** with the given properties and no others. -/
structure Schema where
  properties : List Schema.Property

namespace Schema

/-- The type of the property with a given name. -/
def type? (schema : Schema) (key : String) : Option ValueType :=
  (schema.properties.find? (·.name == key)).map (·.type)

/-- Checking one field. -/
def checkField (schema : Schema) (key : String) (value : Json) : Except Mismatch Unit :=
  match schema.type? key with
  | some type =>
    if type.admits value then .ok () else .error (.wrongType type value (some key))
  | none => .error (.unexpected key)

/-- **Checking a value**: whether it is an object, and then its fields in their order, up to the
first that is refused. -/
def check (schema : Schema) : Json → Except Mismatch Unit
  | .fields entries => entries.forM fun (key, value) => schema.checkField key value
  | found => .error (.wrongType .object found none)

end Schema

end SyntaxTour
