import SyntaxTour.Diagnostic
import SyntaxTour.Error

/-!
# The log

What the library has to tell besides its results goes to a log, one notice a line. A notice
has a level, and it keeps what it is about, so that the log can be asked as well as read.

* `Notice` lists everything that is ever logged.
* `Notice.line` is the line in the log.
-/

namespace SyntaxTour

/-- The beginning or the end of the visit of a node. -/
inductive Phase where
  | enter
  | exit
  deriving DecidableEq, Repr, Inhabited

namespace Phase

/-- The phase inside a log line. -/
def title : Phase → String
  | enter => "Enter"
  | exit => "Exit"

/-- The phase in data. -/
def name : Phase → String
  | enter => "enter"
  | exit => "exit"

end Phase

/-- How much a notice matters. -/
inductive Level where
  | trace
  | debug
  | warn
  deriving DecidableEq, Repr

/-- The word a line of the log starts with. -/
def Level.word : Level → String
  | .trace => "TRACE"
  | .debug => "DEBUG"
  | .warn => "WARN"

/-- **What is logged.** -/
inductive Notice where
  | registered (listener : String) (kind : Kind)
  | alreadyRegistered (listener : String) (kind : Kind)
  | unregistered (listener : String) (kind : Kind)
  | traversingClass (name : Option String)
  | traversingFile (declarations : Nat) (package : Option String)
  | finished (entered unrecognized : Nat)
  | event (kind : Kind) (phase : Phase) (depth : Nat)
  | callbackFailed (listener : String) (kind : Kind) (cause : CallbackError)
  | diagnostic (d : Diagnostic)
  | requestedAgain (kind : Kind)
  | unreached (requests : Nat)
  deriving Repr

namespace Notice

/-- The level of a notice. -/
def level : Notice → Level
  | event .. => .trace
  | callbackFailed .. | diagnostic .. | requestedAgain .. => .warn
  | _ => .debug

/-- The words of a notice. -/
def text : Notice → String
  | registered listener kind => "Registered " ++ listener ++ " for " ++ kind.label
  | alreadyRegistered listener kind => listener ++ " already registered for " ++ kind.label
  | unregistered listener kind => "Unregistered " ++ listener ++ " from " ++ kind.label
  | traversingClass name => "Traversing class " ++ name.getD "<anonymous>"
  | traversingFile declarations package =>
    "Traversing " ++ toString declarations ++ " type declaration(s) in package " ++
      package.getD "<default>"
  | finished entered unrecognized =>
    "Traversal finished entered=" ++ toString entered ++ " unrecognized=" ++
      toString unrecognized
  | event kind phase depth =>
    "event kind=" ++ kind.label ++ " phase=" ++ phase.title ++ " depth=" ++ toString depth
  | callbackFailed listener kind cause =>
    "Listener " ++ listener ++ " failed on " ++ kind.label ++ ": " ++ cause.message
  | diagnostic d => d.describe ++ " kind=" ++ d.kind.label
  | requestedAgain kind => kind.label ++ " rewritten more than once; keeping the last request"
  | unreached requests =>
    toString requests ++ " rewrite(s) target nodes not reachable from the root"

/-- A notice as a line of the log. -/
def line (n : Notice) : String :=
  n.level.word ++ " " ++ n.text

end Notice

end SyntaxTour
