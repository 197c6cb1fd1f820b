import SyntaxTour.Error
import SyntaxTour.Tour

/-!
# Answers in data

What a session answers is JSON. Errors are objects of a code, which says what kind of error
it is, and the text of the message.
-/

namespace SyntaxTour

/-- The kind of a refusal in data. -/
def Refusal.code : Refusal → String
  | familyMismatch .. => "CategoryMismatch"
  | rejected _ => "Rejected"

/-- The kind of a failed callback in data. -/
def CallbackError.code : CallbackError → String
  | refused cause => "Rewrite." ++ cause.code
  | state _ => "State"
  | failed _ => "Failed"

/-- The kind of a failed traversal in data. -/
def TraversalError.code : TraversalError → String
  | violation _ => "ContractViolation"
  | callback cause => "Listener." ++ cause.code

namespace Answer

/-- An error with its code and its message. -/
def error (code message : String) : Json :=
  .object [("error", .string code), ("message", .string message)]

/-- A refused request. -/
def ofRefusal (e : Refusal) : Json := error e.code e.message

/-- A failed traversal. -/
def ofTraversalError (e : TraversalError) : Json := error e.code e.message

/-- What became of a request. -/
def ofRequest : Except Refusal Unit → Json
  | .ok () => .string "ok"
  | .error e => ofRefusal e

/-- What became of a traversal. -/
def ofTraversal : Except TraversalError Summary → Json
  | .ok summary => summary.toJson
  | .error e => ofTraversalError e

/-- A comparison in words. -/
def ofOrdering : Ordering → Json
  | .lt => .string "Less"
  | .eq => .string "Equal"
  | .gt => .string "Greater"

/-- A name that may be missing. -/
def ofName (name : Option String) : Json := .ofOption (name.map .string)

/-- A count or a number. -/
def ofNat (n : Nat) : Json := .int n

end Answer

end SyntaxTour
