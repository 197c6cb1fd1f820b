import SyntaxTour.Kind

/-!
# Why a traversal fails

A traversal ends early for one of two reasons: it was called in a way that its contract
forbids, or a callback of a listener failed. A callback fails because a replacement was refused,
because shared state was not as expected, or for a reason of its own.

* `Refusal`, `CallbackError`, `Violation` and `TraversalError` are the causes.
* `message` gives the text of each; the text of a cause contains the text of the cause
  behind it.
-/

namespace SyntaxTour

/-- Why a request to replace a node is refused. -/
inductive Refusal where
  /-- The two nodes belong to opposite families of positions. -/
  | familyMismatch (old new : Kind)
  /-- Whoever receives the requests refused this one. -/
  | rejected (reason : String)
  deriving DecidableEq, Repr

/-- The text of a refusal. -/
def Refusal.message : Refusal → String
  | .familyMismatch old new =>
    let titled (k : Kind) := k.label ++ " (" ++ k.category.title ++ ")"
    "Cannot replace " ++ titled old ++ " with " ++ titled new
  | .rejected reason => "Rewrite rejected: " ++ reason

/-- Why a callback of a listener fails. -/
inductive CallbackError where
  | refused (cause : Refusal)
  | state (reason : String)
  | failed (reason : String)
  deriving DecidableEq, Repr

/-- The text of a failed callback. -/
def CallbackError.message : CallbackError → String
  | .refused cause => "Rewrite error: " ++ cause.message
  | .state reason => "State error: " ++ reason
  | .failed reason => reason

/-- How a call breaks the contract of a traversal. -/
inductive Violation where
  /-- The root is not a class. -/
  | rootNotClass (found : Kind)
  /-- A traversal is running already. -/
  | alreadyRunning
  /-- Some other way, in words. -/
  | other (reason : String)
  deriving DecidableEq, Repr

/-- The broken rule in words. -/
def Violation.reason : Violation → String
  | .rootNotClass found =>
    "traversal root must be a class declaration, got " ++ found.label
  | .alreadyRunning => "a traversal is already running on this engine"
  | .other reason => reason

/-- Why a traversal ends early. -/
inductive TraversalError where
  | violation (cause : Violation)
  | callback (cause : CallbackError)
  deriving DecidableEq, Repr

/-- The text of a failed traversal. -/
def TraversalError.message : TraversalError → String
  | .violation cause => "Contract violation: " ++ cause.reason
  | .callback cause => "Listener error: " ++ cause.message

end SyntaxTour
