import SyntaxTour.Script.Making
import SyntaxTour.Tree.Json
import SyntaxTour.Tree.Signature

/-!
# Steps of a session

A step does one thing and answers with a JSON value. The steps here can be taken by a
session, and most of them by its listeners too.

* `Step.Engine`: subscribing listeners and asking the engine.
* `Step.Nodes`: asking about nodes.
* `Step.State`: the shared memory.
* `Step.Scenery`: what a listener sees around a node.
* `Step.importQuery`: asking import declarations.
-/

namespace SyntaxTour.Script.Step

open Acting

variable {ε : Type}

/-- A truth value as an answer. -/
private def truth (p : Acting ε Bool) : Acting ε Json := do
  pure (.bool (← p))

/-! ### The engine -/

namespace Engine

/-- Subscribing a listener to the kind it names now; there may be no such listener. -/
def register : Option Handle → Acting ε Json
  | none => pure .null
  | some listener => do
    let declared ← declaredKind listener
    truth (command (.register listener declared))

/-- Taking a listener off the kind it names now. -/
def unregister : Option Handle → Acting ε Json
  | none => pure .null
  | some listener => do
    let declared ← declaredKind listener
    truth (command (.unregister listener declared))

/-- Adding a boundary listener. -/
def enroll : Option Handle → Acting ε Json
  | none => pure .null
  | some listener => truth (command (.enroll listener))

/-- Removing a boundary listener. -/
def dismiss : Option Handle → Acting ε Json
  | none => pure .null
  | some listener => truth (command (.dismiss listener))

/-- Changing what a listener names as its kind from now on. -/
def setKind (listener : Option Handle) (kind : Option Kind) : Acting ε Json := do
  match listener with
  | none => pure .null
  | some listener =>
    write fun own => { own with declared := own.declared.put listener.id kind }
    pure .null

/-- Subscribing a new listener that does nothing. Its identity is the first one that
neither the session nor another silent listener has. -/
def registerSilent (free : Nat) (kind : Option Kind) : Acting ε Json := do
  let own ← notebook
  write fun own => { own with silent := own.silent + 1 }
  truth (command (.register ⟨free + own.silent, "silent"⟩ kind))

/-- The names of the listeners of a kind. -/
def listenersFor (kind : Kind) : Acting ε Json := do
  let engine ← command .engine
  pure (.strings ((engine.registry.lookup kind).map (·.name)))

/-- The number of registrations. -/
def listenerCount : Acting ε Json := do
  let engine ← command .engine
  pure (Answer.ofNat engine.registry.size)

/-- Whether a traversal is running. -/
def isRunning : Acting ε Json := do
  let engine ← command .engine
  pure (.bool engine.running)

/-- The settings of the engine. -/
def settings : Acting ε Json := do
  let engine ← command .engine
  pure engine.settings.toJson

/-- The engine as a log shows it. -/
def describe : Acting ε Json := do
  let engine ← command .engine
  pure (.string engine.describe)

/-- Asking for a traversal. -/
def traverse (target : Target) : Acting ε Json := do
  pure (Answer.ofTraversal (← command (.traverse target)))

end Engine

/-! ### Nodes -/

namespace Nodes

/-- Everything there is to say about one node. -/
def info (n : Node) : Acting ε Json := do
  let id ← mention n
  let statements ← match n.statements? with
    | some statements => mentionAll statements
    | none => pure .null
  let children ← mentionAll n.children
  pure (.object [
    ("id", id), ("kind", .string n.kind.name), ("category", .string n.category.name),
    ("span", n.span.toJson), ("name", Answer.ofName n.name?),
    ("qualified_name", Answer.ofName n.dottedName?), ("string", Answer.ofName n.stringValue?),
    ("statements", statements), ("children", children),
    ("type_name", Answer.ofName n.typeName?)])

/-- **A tree as a list**: each occurrence of a node, root first, with its kind and name. -/
def dump (n : Node) : Acting ε Json := do
  let line (n : Node) : Acting ε Json := do
    pure (.array [← mention n, .string n.kind.label, Answer.ofName n.name?])
  pure (.array (← n.preorder.mapM line))

/-- Whether two nodes are the same, asked in both ways. -/
def same (a b : Node) : Acting ε Json :=
  pure (.array [.bool (a.id == b.id), .bool (a.id == b.id)])

/-- The place of a statement in a block or a `case` group. -/
def statementIndex (t statement : Node) : Acting ε Json :=
  pure (.ofOption ((t.positionOf? statement).map Answer.ofNat))

/-- Whether one node may stand where another stood. -/
def checkReplacement (old new : Node) : Acting ε Json :=
  pure (Answer.ofRequest (SyntaxTour.checkReplacement old new))

/-- **Passing the children of a node through a table of replacements.** A child gives way to
the first replacement listed for it; the call numbered `stop` fails instead. The answer
lists the children that came before, and the new node if there is one. -/
def mapChildren (t : Node) (table : List (Node × Node)) (stop : Option Int) :
    Acting ε Json := do
  let replace (c : Node) : ExceptT Unit (StateM (List Node)) Node := do
    if some (Int.ofNat (← get).length) = stop then throw ()
    modify (c :: ·)
    pure (((table.find? fun entry => entry.1.id == c.id).map (·.2)).getD c)
  let (outcome, calls) := (t.mapChildren replace).run.run []
  let calls ← mentionAll calls.reverse
  let result ← match outcome with
    | .error () => pure (.object [("error", .string "stopped")])
    | .ok none => pure .null
    | .ok (some content) => dump (← content.make)
  pure (.object [("calls", calls), ("result", result)])

end Nodes

/-! ### The shared memory -/

namespace State

/-- A value with the answer of every way to read it. -/
def value : Value → Acting ε Json
  | v => do
    let node ← mentionOption v.node?
    let words (l : List UInt32) : Json := .array (l.map fun w => Answer.ofNat w.toNat)
    pure (.object [
      ("node", node), ("text", Answer.ofName v.text?), ("bool", .ofOption (v.bool?.map .bool)),
      ("number", .ofOption (v.number?.map fun i => .int i.toInt)),
      ("opaque", .ofOption (v.words?.map words)),
      ("opaque_text", Answer.ofName v.sealedText?)])

/-- A value that may be missing. -/
def valueOption : Option Value → Acting ε Json
  | some v => value v
  | none => pure .null

/-- Changing the memory, with a value as the answer. -/
private def change (f : Memory → Option Value × Memory) : Acting ε Json := do
  valueOption (← fun _ => Program.modifyMemory f)

/-- The value under a key. -/
def get (key : String) : Acting ε Json := do
  valueOption ((← command .memory).get? key)

/-- Storing a value under a key. -/
def set (key : String) (v : Value) : Acting ε Json := change (·.set key v)

/-- Removing a key. -/
def remove (key : String) : Acting ε Json := change (·.remove key)

/-- Whether there is a value under a key. -/
def contains (key : String) : Acting ε Json := do
  pure (.bool ((← command .memory).contains key))

/-- The value under a key, stored first where there is none; the answer tells which. -/
def getOrInit (key : String) (v : Value) : Acting ε Json := do
  let memory ← command .memory
  let init : StateM Bool Value := fun _ => (v, true)
  let ((v, memory), ran) := (memory.getOrInit key init).run false
  command (.setMemory memory)
  pure (.array [← value v, .bool ran])

/-- Setting the latch. -/
def setLatch (position : Bool) : Acting ε Json := do
  let memory ← command .memory
  command (.setMemory (memory.setLatch position))
  pure (.bool (memory.setLatch position).initialized)

/-- Dropping everything. -/
def clear : Acting ε Json := do
  command (.setMemory (← command .memory).clear)
  pure .null

/-- The number of keys, whether there are none, and the latch. -/
def info : Acting ε Json := do
  let memory ← command .memory
  pure (.array [Answer.ofNat memory.size, .bool memory.isEmpty, .bool memory.initialized])

/-- The value under a key as a log shows it. -/
def describe (key : String) : Acting ε Json := do
  pure (.ofOption (((← command .memory).get? key).map fun v => .string v.describe))

/-- The memory as a log shows it. -/
def describeAll : Acting ε Json := do
  pure (.string (← command .memory).describe)

end State

/-! ### Around a node -/

namespace Scenery

/-- The nodes around the event at hand. -/
def trail : Acting ε Trail := do
  pure (((← read).map (·.event.trail)).getD [])

/-- Everything there is to say about them. -/
def path : Acting ε Json := do
  let trail ← trail
  let stack ← mentionAll trail
  let queue ← mentionAll trail.rootFirst
  let parent ← mentionOption trail.parent?
  let root ← mentionOption trail.root?
  pure (.object [
    ("stack", stack), ("queue", queue), ("parent", parent), ("root", root),
    ("depth", Answer.ofNat trail.depth), ("empty", .bool trail.isEmpty),
    ("kinds", .strings (trail.kinds.map (·.name)))])

/-- The innermost node of a kind, if any. -/
def nearest (kind : Kind) : Acting ε Json := do
  mentionOption ((← trail).nearest? kind)

/-- Whether a node is around. -/
def holds (n : Node) : Acting ε Json := do
  pure (.bool ((← trail).holds n))

end Scenery

/-! ### Imports -/

/-- **Asking import declarations.** There are six questions; nothing is answered to any
other. -/
def importQuery (imports : Imports) (question argument : String) : Option Json :=
  let found (i : Option Import) : Json := .ofOption (i.map (·.toJson))
  match question with
  | "is_type_imported" => some (.bool (imports.isTypeImported argument))
  | "is_shadowed" => some (.bool (imports.isShadowed argument))
  | "resolve_type" => some (found (imports.resolveType? argument))
  | "static_member" => some (found (imports.staticMember? argument))
  | "imports_type" => some (.array (imports.map fun i => .bool (i.importsType argument)))
  | "len" => some (.array [Answer.ofNat imports.length, .bool imports.isEmpty])
  | _ => none

end SyntaxTour.Script.Step
