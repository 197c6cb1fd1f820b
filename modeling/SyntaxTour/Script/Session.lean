import SyntaxTour.Engine.Traversal
import SyntaxTour.Script.Listener

/-!
# Sessions

A session has one engine, one patch and one memory, which all its steps share. A step that
is no traversal is a program run outside of any; a traversal has a context of its own, made
of the patch or a receiver and of the memory.

* `Session.Sitting` is the monad of the steps of a session.
* `Session.take` takes a step of `SyntaxTour.Script.Step`.
* `Session.traverse` runs a traversal and tells all about it.
* The remaining steps ask or apply the patch.
-/

namespace SyntaxTour.Script.Session

/-- A session before its first step. -/
def start (engine : Engine) (declared : Table Nat (Option Kind)) : World Notebook where
  engine := engine
  context := .empty
  next := 0
  log := #[]
  journal := #[]
  own := .new declared

/-- Steps of a session: they change the world, and may meet a fault. -/
abbrev Sitting := ExceptT Fault (StateM (World Notebook))

/-- **Taking a step** outside of any traversal. -/
def take {α : Type} (cast : Cast Notebook) (step : Making α) : Sitting α :=
  ExceptT.mk fun w => w.execute cast (step none)

/-- Writing down a step that changes nothing but the notebook. -/
private def writing {α : Type} (step : Acting Fault α) : Sitting α :=
  take ⟨fun _ _ _ => pure (), fun _ _ => pure ()⟩ step

/-- The lines of the log since the last time, with which the journal is closed too. -/
def drain : StateM (World Notebook) (List String) :=
  modifyGet fun w => (w.log.toList.map (·.line), { w with log := #[], journal := #[] })

/-! ### Traversals -/

/-- Where the requests of a traversal go. -/
inductive Destination where
  /-- Into the patch of the session. -/
  | patch
  /-- To a receiver that accepts and writes down each of them. -/
  | acceptAll
  /-- To a receiver that refuses each of them. -/
  | refuseAll
  deriving DecidableEq, Repr

/-- Accepting a request and writing it down. -/
def acceptRequest (old new : Node) (own : Notebook) : Except Refusal Unit × Notebook :=
  let (oldNumber, numbering) := own.numbering.mention old
  let (newNumber, numbering) := numbering.mention new
  let entry := .array [Answer.ofNat oldNumber, Answer.ofNat newNumber]
  (.ok (), { own with numbering := numbering, pairs := entry :: own.pairs })

/-- Refusing a request. -/
def refuseRequest (_ _ : Node) (own : Notebook) : Except Refusal Unit × Notebook :=
  (.error (.rejected "read-only"), own)

/-- The outlet of a traversal; `patch` is the outlet of the session. -/
def Destination.outlet (patch : Outlet Notebook) : Destination → Outlet Notebook
  | .patch => patch
  | .acceptAll => .receiver acceptRequest
  | .refuseAll => .receiver refuseRequest

/-- **A traversal**, with its result, the number of requests it accepted, what its listeners
wrote down, what its receiver wrote down, and its diagnostics. -/
def traverse (cast : Cast Notebook) (destination : Destination) (target : Target) : Sitting Json := do
  let before ← get
  let outlet := before.context.outlet
  set { before with
    context := { before.context with outlet := destination.outlet outlet, accepted := 0 }
    own := { before.own with events := [], pairs := [] } }
  -- The memory is shared with the session, the count of requests starts anew.
  let result ← modifyGet fun w => World.traverse cast target w
  let w ← get
  let (diagnostics, sink) := w.engine.sink.take
  let outlet := match destination with
    | .patch => w.context.outlet
    | _ => outlet
  set { w with
    engine := { w.engine with sink := sink }
    context := { w.context with outlet := outlet } }
  pure (.object [
    ("result", Answer.ofTraversal result),
    ("rewrites", Answer.ofNat w.context.accepted),
    ("events", .array w.own.events.reverse),
    ("pairs", .array w.own.pairs.reverse),
    ("diagnostics", .array (diagnostics.map fun d => .array [d.toJson, .string d.describe]))])

/-! ### The patch -/

/-- The patch of the session. -/
def patch : Sitting Patch := do
  match (← get).context.outlet with
  | .patch p => pure p
  | .receiver _ => pure .empty

/-- Requesting a replacement. -/
def request (old new : Node) : Sitting Json := do
  let answer ← writing (Acting.command (.request old new))
  pure (.array [Answer.ofRequest answer, Answer.ofNat (← patch).size])

/-- The requests so far. -/
def requests : Sitting Json := do
  let p ← patch
  let pairs ← writing do
    p.requests.mapM fun r => do
      pure (.array [← Acting.mention r.old, ← Acting.mention r.new])
  pure (.object [("pairs", .array pairs), ("len", Answer.ofNat p.size), ("empty", .bool p.isEmpty)])

/-- Dropping the requests. -/
def clearPatch : Sitting Json := do
  modify fun w => { w with context := { w.context with outlet := .patch .empty } }
  pure .null

/-- The replacement of a node. -/
def replacementFor (n : Node) : Sitting Json := do
  let p ← patch
  writing (Acting.mentionOption (p.replacementFor? n))

/-- The version of a tree that the patch makes. -/
def version (root : Node) : Sitting Node := do
  let p ← patch
  modifyGet fun w =>
    let applying : Fresh (Node × List Notice) := p.apply root
    let ((version, notices), next) := (applying.run w.next).run
    (version, { w with next := next }.note notices)

/-- Applying the patch, with the new version as a list. -/
def apply (root : Node) : Sitting Json := do
  let version ← version root
  writing do
    let number ← Acting.mention version
    pure (.object [("root", number), ("same", .bool (version.id == root.id)),
      ("dump", ← Step.Nodes.dump version)])

/-- Applying the patch, with the new version as data. -/
def applyToJson (root : Node) : Sitting Json := do
  pure (← version root).toJson

/-! ### The source file -/

/-- The class of a name. -/
def findClass (file : SourceFile) (name : String) : Sitting Json :=
  writing (Acting.mentionOption (file.findClass? name))

/-- The file in data. -/
def fileToJson (file : SourceFile) : Json :=
  .object ((file.package.map fun p => ("package_name", .string p)).toList ++
    [("imports", .array (file.imports.map (·.toJson))),
     ("type_decls", .array (file.declarations.map (·.toJson)))])

end SyntaxTour.Script.Session
