import SyntaxTour.Engine.Program
import SyntaxTour.Script.Answer
import SyntaxTour.Script.Numbering
import SyntaxTour.Tree.Edit
import SyntaxTour.Tree.Name

/-!
# Finding and making nodes in a session

A session is a sequence of steps on one engine that is written down instead of programmed:
its steps and its listeners find nodes, make nodes and ask about them. All of this happens
in one monad, `Making`, in which nodes get numbers as they are mentioned and the event at
hand is known while a listener runs.

* `Notebook` is what a session keeps besides the engine.
* `Scene` is the event a listener answers to.
* `Fault` says why there is no node, or no value, where one was wanted.
* `Making` and the functions on it are the vocabulary of sessions.
-/

namespace SyntaxTour.Script

/-- **What a session keeps**: the numbers of nodes, what each listener names as its kind,
how often each rule was used, what was written down during a traversal (the last first),
and how many silent listeners were made. -/
structure Notebook where
  numbering : Numbering
  declared : Table Nat (Option Kind)
  uses : Table (Nat × Nat) Nat
  events : List Json
  pairs : List Json
  silent : Nat

namespace Notebook

/-- A notebook at the start of a session, with the kinds that the listeners name. -/
def new (declared : Table Nat (Option Kind)) : Notebook :=
  ⟨.empty, declared, [], [], [], 0⟩

end Notebook

/-- The event a listener answers to, and the imports in force. -/
structure Scene where
  event : Event
  imports : Imports

/-- **Why something wanted is not there.** -/
inductive Fault where
  | noSuchNode
  | unknownType
  | unknownName
  | unknownKind
  | badInteger
  | badFloat
  | badChar
  | badLiteral
  | badList
  | badValue
  deriving DecidableEq, Repr

/-- The fault in words. -/
def Fault.message : Fault → String
  | noSuchNode => "no such node"
  | unknownType => "unknown node type"
  | unknownName => "unknown name"
  | unknownKind => "unknown kind"
  | badInteger => "bad integer"
  | badFloat => "bad float"
  | badChar => "bad char"
  | badLiteral => "bad literal"
  | badList => "bad list"
  | badValue => "bad value"

/-- The fault as an answer. -/
def Fault.toJson (f : Fault) : Json := Answer.error "bad_node" f.message

/-- Programs on the notebook of a session, which know the scene while a listener runs. -/
abbrev Acting (ε : Type) := ReaderT (Option Scene) (Program Notebook ε)

/-- **Finding and making.** -/
abbrev Making := Acting Fault

instance {ρ : Type} {m : Type → Type} [Monad m] [Supply m] : Supply (ReaderT ρ m) :=
  ⟨fun _ => Supply.fresh⟩

namespace Acting

variable {ε ε' α : Type}

/-- Ending in a failure. -/
def fail (failure : ε) : Acting ε α := fun _ => .fail failure

/-- A single command. -/
def command (c : Command Notebook) : Acting ε c.Reply := fun _ => Program.command c

/-- Looking at the notebook. -/
def notebook : Acting ε Notebook := fun _ => Program.own

/-- Writing in the notebook. -/
def write (f : Notebook → Notebook) : Acting ε Unit :=
  fun _ => Program.modifyOwn fun own => ((), f own)

/-- Giving failures another form. -/
def mapFailure (f : ε → ε') (p : Acting ε α) : Acting ε' α := fun scene =>
  (p scene).mapFailure f

/-- Taking a failure as a result. -/
def attempt (p : Acting ε α) : Acting ε' (Except ε α) := fun scene => (p scene).attempt

/-- **The number of a node**, which is thereby mentioned. -/
def number (n : Node) : Acting ε Nat := fun _ =>
  Program.modifyOwn fun own =>
    let (number, numbering) := own.numbering.mention n
    (number, { own with numbering := numbering })

/-- A node as an answer: its number. -/
def mention (n : Node) : Acting ε Json := do
  pure (Answer.ofNat (← number n))

/-- Nodes as an answer, mentioned in order. -/
def mentionAll (nodes : List Node) : Acting ε Json := do
  pure (.array (← nodes.mapM mention))

/-- A node that may be missing as an answer. -/
def mentionOption (n : Option Node) : Acting ε Json := do
  match n with
  | some n => mention n
  | none => pure .null

/-- Writing down what happened. -/
def log (entry : List Json) : Acting ε Unit :=
  write fun own => { own with events := .array entry :: own.events }

/-- What a listener names as its kind at present. -/
def declaredKind (listener : Handle) : Acting ε (Option Kind) := do
  pure (((← notebook).declared.get? listener.id).getD none)

end Acting

namespace Making

open Acting

instance {α : Type} : Inhabited (Making α) := ⟨fail .noSuchNode⟩

/-- A value, or a fault where there is none. -/
def need {α : Type} (fault : Fault) : Option α → Making α
  | some a => pure a
  | none => fail fault

/-- **A step that always has an answer**: a fault is one, too. -/
def answered {ε : Type} (step : Making Json) : Acting ε Json := do
  match ← attempt step with
  | .ok answer => pure answer
  | .error fault => pure fault.toJson

/-- A node that is there gets a number. -/
def found (n : Option Node) : Making Node := do
  let n ← need .noSuchNode n
  discard (number n)
  pure n

/-- The node of a number. -/
def numbered (i : Int) : Making Node := do
  found ((← notebook).numbering.node? i)

/-! ### Around the event at hand -/

/-- The node that a listener is called for. -/
def here : Making Node := do
  found ((← read).map (·.event.node))

/-- The node around it. -/
def parent : Making Node := do
  found ((← read).bind (·.event.trail.parent?))

/-- The outermost node around it. -/
def root : Making Node := do
  found ((← read).bind (·.event.trail.root?))

/-- The innermost node of a kind around it. While no listener runs there is nothing around,
so it does not matter then whether the name stood for a kind. -/
def nearest (kind : Option Kind) : Making Node := do
  let scene ← need .noSuchNode (← read)
  found (scene.event.trail.nearest? (← need .unknownKind kind))

/-- The call that a node is, or that it holds as an expression statement. -/
def callOf? : Node → Option (Node × List Node)
  | .node _ _ (.call callee _ arguments) => some (callee, arguments)
  | .node _ _ (.exprStmt expression) => callOf? expression
  | _ => none

/-- The arguments of the call at hand; none if the node at hand is and holds no call. -/
def argumentsHere : Making (List Node) := do
  let scene ← need .noSuchNode (← read)
  pure (((callOf? scene.event.node).map (·.2)).getD [])

/-- **Names inside a key.** While a listener runs, a key may speak of the name of the node
at hand and of the name of the innermost class around it. -/
def key {ε : Type} (text : String) : Acting ε String := do
  match ← read with
  | none => pure text
  | some scene =>
    let name := scene.event.node.name?.getD ""
    let className := ((scene.event.trail.nearest? .classDecl).bind (·.name?)).getD ""
    pure ((text.replace "\x7bname\x7d" name).replace "\x7bclass\x7d" className)

/-- The node remembered under a key. -/
def remembered (text : String) : Making Node := do
  let memory ← command .memory
  found ((memory.get? (← key text)).bind (·.node?))

/-! ### Parts and edits -/

/-- The place an integer stands for; there is none before the first. -/
def place (i : Int) : Option Nat := if i < 0 then none else some i.toNat

/-- One child of a node. -/
def child (n : Node) (i : Int) : Making Node :=
  found ((place i).bind fun i => n.children[i]?)

/-- A new node. -/
def new (span : Span) (shape : Shape Node) : Making Node := do
  found (some (← Node.make span shape))

/-- The node for a dotted name; only the outermost node of the chain is mentioned. -/
def dotted (span : Option Span) (name : String) : Making Node := do
  let n ← Node.ofDotted name
  match span with
  | none => found (some n)
  | some span => found (some (.node n.id span n.shape))

/-- A copy of a container with one entry more, at a place. -/
def insertInto (target : Node) (index : Nat) (entry : Node) : Making Node := do
  found (← target.insertAt index entry)

/-- A copy of a container with one entry more, at the end. -/
def appendTo (target entry : Node) : Making Node := do
  found (← target.append entry)

/-- A copy of a container with nodes in the place of one entry. -/
def splice (target old : Node) (entries : List Node) : Making Node := do
  found (← target.replaceEntry old entries)

end Making

end SyntaxTour.Script
