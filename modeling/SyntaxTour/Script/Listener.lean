import SyntaxTour.Script.Step

/-!
# Scripted listeners

A scripted listener writes down every call, and then follows rules: a rule has conditions
and actions, and may be meant for one of its uses only.

* `Condition` are the questions a rule may ask.
* `Rule` and `Rule.follow`; `Listener` and `Listener.respond`.
* `BoundaryListener` takes steps at the beginning and the end of a traversal.
* `cast` brings the listeners of a session together.
-/

namespace SyntaxTour.Script

open Acting

/-! ### Conditions -/

namespace Condition

/-- What is asked about the event at hand; outside of an event nothing holds. -/
private def ofScene (p : Scene → Bool) : Making Bool := do
  pure (((← read).map p).getD false)

/-- The opposite of a condition. -/
def negate (c : Making Bool) : Making Bool := do
  pure (!(← c))

/-- The node is a call, or holds one, and calls the given name. -/
def calls (name : String) : Making Bool :=
  ofScene fun scene => match Making.callOf? scene.event.node with
    | some (callee, _) => callee.dottedName? == some name
    | none => false

/-- The node has the given name. -/
def named (name : String) : Making Bool :=
  ofScene fun scene => scene.event.node.name? == some name

/-- Something is remembered under a key. -/
def remembers (key : String) : Making Bool := do
  let memory ← command .memory
  pure (memory.contains (← Making.key key))

/-- The imports in force bring in a type. -/
def imported (qualified : String) : Making Bool :=
  ofScene fun scene => scene.imports.isTypeImported qualified

/-- A node of a kind is around. -/
def inside (kind : Option Kind) : Making Bool :=
  ofScene fun scene => ((kind.bind scene.event.trail.nearest?)).isSome

/-- Some child of the node ties with another node in the order of variables. There has to be
such another node. -/
def declares (other : Making Node) : Making Bool := do
  match ← attempt other with
  | .error (_ : Fault) => pure false
  | .ok other =>
    ofScene fun scene => scene.event.node.children.any fun c => c.variableOrder other == .eq

end Condition

/-! ### Rules -/

/-- What a listener does by a rule; it may fail, and then the listener fails. -/
structure Action where
  name : String
  run : Acting CallbackError Json

namespace Action

/-- A step that wants a node, as an action: a fault is a failure of the listener. -/
def ofStep (name : String) (step : Making Json) : Action :=
  ⟨name, step.mapFailure fun fault => .state fault.message⟩

/-- A step as an action that goes on in any case: a fault is its answer. -/
def answering (name : String) (step : Making Json) : Action := ⟨name, Making.answered step⟩

/-- Failing. -/
def failing (name : String) (cause : CallbackError) : Action := ⟨name, Acting.fail cause⟩

/-- The two nodes of a request. -/
private def pair (old new : Making Node) : Acting CallbackError (Node × Node) :=
  Acting.mapFailure (fun (fault : Fault) => .state fault.message) do
    let old ← old
    let new ← new
    pure (old, new)

/-- Requesting a replacement; a refusal is a failure of the listener. -/
def request (old new : Making Node) : Action where
  name := "rewrite"
  run := do
    let (old, new) ← pair old new
    match ← command (.request old new) with
    | .error cause => Acting.fail (.refused cause)
    | .ok () =>
      pure (.array [← mention old, ← mention new, Answer.ofNat (← command .accepted)])

/-- Requesting a replacement and going on in either case. -/
def tryRequest (old new : Making Node) : Action where
  name := "try_rewrite"
  run := do
    let (old, new) ← pair old new
    let answer ← command (.request old new)
    pure (.array [← mention old, ← mention new, Answer.ofRequest answer,
      Answer.ofNat (← command .accepted)])

end Action

/-- **A rule**: when it applies, and what is done then. -/
structure Rule where
  /-- The phase the rule is meant for, if only one. -/
  phase : Option String
  /-- The number of the node the rule is meant for, if only one. -/
  node : Option Int
  conditions : List (Making Bool)
  /-- The use of the rule that counts, if only one; uses are counted from zero. -/
  nth : Option Int
  actions : List Action

/-- Whether all conditions hold; the first that does not is the last that is asked. -/
def holdAll : List (Making Bool) → Making Bool
  | [] => pure true
  | c :: rest => do
    if ← c then holdAll rest else pure false

namespace Rule

/-- Whether a rule is meant for the event at hand. -/
def applies (rule : Rule) (e : Event) : Making Bool := do
  if (rule.phase.map (· == e.phase.name)).getD true then
    let meant ← match rule.node with
      | none => pure true
      | some wanted => do pure (Int.ofNat (← number e.node) == wanted)
    if meant then holdAll rule.conditions else pure false
  else pure false

/-- The number of this use of a rule, which is thereby used. -/
def use (listener index : Nat) : Making Nat := do
  let uses := (← notebook).uses
  let count := (uses.get? (listener, index)).getD 0
  write fun own => { own with uses := uses.put (listener, index) (count + 1) }
  pure count

/-- Whether this use of a rule counts. -/
def counts (rule : Rule) (listener index : Nat) : Making Bool := do
  let count ← use listener index
  pure ((rule.nth.map (· == Int.ofNat count)).getD true)

/-- **Following a rule**: its actions are taken in order, and each is written down when it
is done. -/
def follow (rule : Rule) (listener index : Nat) (e : Event) : Acting CallbackError Unit := do
  let go ← Acting.mapFailure (fun (fault : Fault) => .state fault.message) do
    if ← rule.applies e then rule.counts listener index else pure false
  if go then
    rule.actions.forM fun action => do
      let result ← action.run
      log [.string action.name, result]

end Rule

/-! ### Listeners -/

/-- What a listener writes down about the nodes around. -/
inductive LogMode where
  /-- Nothing is written down at all. -/
  | nothing
  | numbers
  | kinds
  | depth
  deriving DecidableEq, Repr

/-- **A listener that follows rules.** -/
structure Listener where
  name : String
  kind : Option Kind
  mode : LogMode
  rules : List Rule

namespace Listener

/-- What a call is written down as. The nodes around are mentioned before the node. -/
def line (l : Listener) (e : Event) : Acting CallbackError Unit := do
  let write (tail : Json) : Acting CallbackError Unit := do
    log [.string l.name, .string e.phase.name, ← mention e.node, .string e.node.kind.label, tail]
  match l.mode with
  | .nothing => pure ()
  | .numbers => write (← mentionAll e.trail.rootFirst)
  | .kinds => write (.strings (e.trail.kinds.map (·.name)))
  | .depth => write (Answer.ofNat e.trail.depth)

/-- Answering to an event. -/
def respond (l : Listener) (id : Nat) (e : Event) : Acting CallbackError Unit := do
  l.line e
  l.rules.zipIdx.forM fun (rule, index) => rule.follow id index e

/-- A listener that only writes down. -/
def recorder (kind : Kind) (mode : LogMode) : Listener := ⟨"rec", some kind, mode, []⟩

end Listener

/-- **A listener to the boundaries of a traversal**, with the steps it takes at each. -/
structure BoundaryListener where
  name : String
  begin : List (String × Making Json)
  finish : List (String × Making Json)

namespace BoundaryListener

/-- The steps at a boundary. -/
def steps (l : BoundaryListener) : Boundary → List (String × Making Json)
  | .begin => l.begin
  | .finish => l.finish

/-- Taking the steps at a boundary; a fault is the answer of its step. -/
def respond (l : BoundaryListener) (boundary : Boundary) : Acting Empty Unit := do
  log [.string l.name, .string boundary.name]
  (l.steps boundary).forM fun (name, step) => do
    log [.string l.name, .string name, ← Making.answered step]

end BoundaryListener

/-- **What the listeners of a session do.** A listener has its place in the list as its
identity; whoever has no place does nothing. -/
def cast (listeners : Array Listener) (boundary : Array BoundaryListener) : Cast Notebook where
  onEvent handle e imports :=
    match listeners[handle.id]? with
    | some l => l.respond handle.id e (some ⟨e, imports⟩)
    | none => pure ()
  onBoundary handle b :=
    match boundary[handle.id]? with
    | some l => l.respond b none
    | none => pure ()

end SyntaxTour.Script
