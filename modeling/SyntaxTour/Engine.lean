import SyntaxTour.Patch
import SyntaxTour.Roster
import SyntaxTour.Settings
import SyntaxTour.Tour

/-!
# Engines

An engine knows who listens, how traversals are set up and where diagnostics go, and it
knows whether a traversal is running. It runs one traversal at a time.

* `Engine` is that knowledge.
* `Engine.admission` decides whether a traversal may start.
-/

namespace SyntaxTour

/-- **Who listens, and how traversals are run.** -/
structure Engine where
  registry : Registry
  roster : Roster
  settings : Settings
  sink : DiagnosticSink
  /-- A traversal is running. -/
  running : Bool
  deriving Repr

namespace Engine

/-- An engine nobody listens to yet. -/
def new (settings : Settings) (sink : DiagnosticSink) : Engine :=
  ⟨.empty, .empty, settings, sink, false⟩

instance : Inhabited Engine := ⟨new .default .log⟩

/-- **Whether a traversal may start.** A single declaration has to be a class, which is
looked at first, and no other traversal may be running. -/
def admission (e : Engine) (target : Target) : Except Violation Unit :=
  let free : Except Violation Unit := if e.running then .error .alreadyRunning else .ok ()
  match target with
  | .declaration root _ =>
    if root.kind = .classDecl then free else .error (.rootNotClass root.kind)
  | .file _ => free

/-- The engine as a log shows it. -/
def describe (e : Engine) : String :=
  "Engine \x7b registry: " ++ e.registry.describe ++ ", lifecycle_listeners: " ++
    toString e.roster.size ++ ", config: " ++ e.settings.describe ++ ", in_progress: " ++
    toString e.running ++ " \x7d"

end Engine

end SyntaxTour
