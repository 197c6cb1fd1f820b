import SyntaxTour.Tree.Json

/-!
# Diagnostics

A diagnostic tells of a node that stands where the grammar does not expect it. It is not an
error: the traversal goes on. Whoever runs the traversal chooses whether diagnostics are
collected or only written to the log.

* `Diagnostic` says what was found, where, and what encloses it.
* `DiagnosticSink` receives them, and `DiagnosticSink.take` empties it.
-/

namespace SyntaxTour

/-- **A node in a position that does not expect it.** -/
structure Diagnostic where
  kind : Kind
  /-- The label of an unknown construct. -/
  label : Option String := none
  /-- The kind of the enclosing node. -/
  parent : Option Kind := none
  span : Span
  message : String
  deriving DecidableEq, Repr

namespace Diagnostic

/-- The diagnostic as one line: the message, the label in brackets, the span. -/
def describe (d : Diagnostic) : String :=
  let label := match d.label with
    | some label => " [" ++ label ++ "]"
    | none => ""
  d.message ++ label ++ " at " ++ toString d.span.start.toNat ++ ".." ++
    toString d.span.stop.toNat

/-- The diagnostic in data; what is missing is left out. -/
def toJson (d : Diagnostic) : Json :=
  .object <|
    ("kind", .string d.kind.name) :: (d.label.map fun l => ("label", .string l)).toList
      ++ (d.parent.map fun k => ("parent", .string k.name)).toList
      ++ [("span", d.span.toJson), ("message", .string d.message)]

end Diagnostic

/-- Where diagnostics go: into the log, or into a collection, oldest first. -/
inductive DiagnosticSink where
  | log
  | collect (reported : List Diagnostic)
  deriving Repr

namespace DiagnosticSink

/-- What was collected so far. -/
def reported : DiagnosticSink → List Diagnostic
  | log => []
  | collect reported => reported

/-- Receiving one more; a sink that writes to the log keeps nothing. -/
def report (sink : DiagnosticSink) (d : Diagnostic) : DiagnosticSink :=
  match sink with
  | log => log
  | collect reported => collect (reported ++ [d])

/-- Handing over what was collected. -/
def take : DiagnosticSink → List Diagnostic × DiagnosticSink
  | log => ([], log)
  | collect reported => (reported, collect [])

end DiagnosticSink

end SyntaxTour
