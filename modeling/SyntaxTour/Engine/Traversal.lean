import SyntaxTour.Engine.Program

/-!
# Running a traversal

A traversal announces the steps of a tour to those who listen. Before the first step and
after the last one it notifies the boundary listeners. The first callback that fails ends
it: nothing is announced after that, not even the end.

* `World` is all that a traversal and its listeners can change.
* `World.perform` carries out one command and `World.run` a whole program.
* `World.announce` announces a step; `World.traverse` is the traversal. It goes along the
  tour, and `World.walk_eq` says what it does in terms of the list of all steps.

While a traversal runs, the engine admits no other. A program run by a listener may still
ask for one; `World.perform` takes as a parameter what an admitted traversal would do, and
for listeners that is `World.shut`, which nothing ever reaches.
-/

namespace SyntaxTour

/-- Where requests go: into a patch, or to a receiver that accepts or refuses
them and keeps a state. -/
inductive Outlet (σ : Type) where
  | patch (p : Patch)
  | receiver (receive : Node → Node → σ → Except Refusal Unit × σ)

/-- **What listeners of one traversal share.** -/
structure Context (σ : Type) where
  outlet : Outlet σ
  /-- The number of requests that were accepted. -/
  accepted : Nat
  memory : Memory

namespace Context

variable {σ : Type}

/-- A context with an empty patch and an empty memory. -/
def empty : Context σ := ⟨.patch .empty, 0, .empty⟩

/-- **Passing a request on.** An accepted request is counted; a refused one changes nothing
but, perhaps, the state of a receiver. -/
def request (c : Context σ) (old new : Node) (own : σ) :
    Except Refusal Unit × Context σ × σ :=
  match c.outlet with
  | .patch p =>
    match p.request old new with
    | .ok p => (.ok (), { c with outlet := .patch p, accepted := c.accepted + 1 }, own)
    | .error e => (.error e, c, own)
  | .receiver receive =>
    match receive old new own with
    | (.ok (), own) => (.ok (), { c with accepted := c.accepted + 1 }, own)
    | (.error e, own) => (.error e, c, own)

end Context

/-- What happened in a traversal, besides what the listeners did. -/
inductive Entry where
  | step (s : Step)
  | called (listener : Handle) (e : Event)
  | told (listener : Handle) (boundary : Boundary)

/-- **All that changes**: the engine, the context of the traversal, the next identity, the
log, the journal of what happened, and what the listeners keep for themselves. -/
structure World (σ : Type) where
  engine : Engine
  context : Context σ
  next : Nat
  log : Array Notice
  journal : Array Entry
  own : σ

namespace World

variable {σ ε α : Type}

/-- Writing to the log. -/
def note (w : World σ) (notices : List Notice) : World σ :=
  { w with log := w.log ++ notices }

/-- Writing to the journal. -/
def record (w : World σ) (entry : Entry) : World σ :=
  { w with journal := w.journal.push entry }

/-- Setting the mark that a traversal is running. -/
def setRunning (w : World σ) (running : Bool) : World σ :=
  { w with engine := { w.engine with running := running } }

/-- Passing a diagnostic to its sink. -/
def report (w : World σ) (d : Diagnostic) : World σ :=
  let w := match w.engine.sink with
    | .log => w.note [.diagnostic d]
    | .collect _ => w
  { w with engine := { w.engine with sink := w.engine.sink.report d } }

/-! ### Commands -/

/-- What a traversal does once it is admitted. -/
abbrev Start (σ : Type) := Target → World σ → Except TraversalError Summary × World σ

/-- The traversal behind a door that is never opened. -/
def shut : Start σ := fun _ w => (.error (.violation .alreadyRunning), w)

/-- **Asking for a traversal**: it starts only if the engine admits it, and otherwise nothing
changes. -/
def enter (start : Start σ) : Start σ := fun target w =>
  match w.engine.admission target with
  | .error v => (.error (.violation v), w)
  | .ok () => start target w

/-- Carrying out a command; `start` is what an admitted traversal does. -/
def perform (start : Start σ) (w : World σ) : (c : Command σ) → c.Reply × World σ
  | .register listener declared =>
    let (added, registry) := w.engine.registry.register listener declared
    let w := { w with engine := { w.engine with registry := registry } }
    (added, w.note [Registry.registerNotice listener declared added])
  | .unregister listener declared =>
    let (removed, registry) := w.engine.registry.unregister listener declared
    let w := { w with engine := { w.engine with registry := registry } }
    (removed, w.note (Registry.unregisterNotice listener declared removed))
  | .enroll listener =>
    let (added, roster) := w.engine.roster.add listener
    (added, { w with engine := { w.engine with roster := roster } })
  | .dismiss listener =>
    let (removed, roster) := w.engine.roster.remove listener
    (removed, { w with engine := { w.engine with roster := roster } })
  | .engine => (w.engine, w)
  | .traverse target => enter start target w
  | .request old new =>
    let (answer, context, own) := w.context.request old new w.own
    (answer, { w with context := context, own := own })
  | .accepted => (w.context.accepted, w)
  | .memory => (w.context.memory, w)
  | .setMemory memory => ((), { w with context := { w.context with memory := memory } })
  | .fresh => (w.next, { w with next := w.next + 1 })
  | .own => (w.own, w)
  | .setOwn own => ((), { w with own := own })

/-- Running a program to its end. -/
def run (start : Start σ) : Program σ ε α → World σ → Except ε α × World σ
  | .done a, w => (.ok a, w)
  | .fail e, w => (.error e, w)
  | .ask c next, w =>
    let (reply, w) := w.perform start c
    run start (next reply) w

/-- A program that goes on is run on; a failure stays the end. -/
theorem run_bind {β : Type} (start : Start σ) (p : Program σ ε α) (f : α → Program σ ε β)
    (w : World σ) :
    run start (p.bind f) w =
      match run start p w with
      | (.ok a, w) => run start (f a) w
      | (.error e, w) => (.error e, w) := by
  induction p generalizing w with
  | done a => rfl
  | fail e => rfl
  | ask c next ih => exact ih _ _

/-! ### Announcing steps -/

/-- Announcing something: it changes the world, and ends when a listener fails. -/
abbrev Announcing (σ : Type) := ExceptT CallbackError (StateM (World σ))

section Announce

variable (start : Start σ) (cast : Cast σ)

/-- Calling one listener with an event. -/
def call (e : Event) (imports : Imports) (listener : Handle) : Announcing σ Unit :=
  ExceptT.mk fun w =>
    match (w.record (.called listener e)).run start (cast.onEvent listener e imports) with
    | (.ok (), w) => (.ok (), w)
    | (.error cause, w) =>
      (.error cause, w.note [.callbackFailed listener.name e.node.kind cause])

/-- **Announcing one step.** An unrecognized node is reported. An event goes to those who
are registered for the kind of its node at this moment, whatever they do to the registry:
they are called one after the other, up to the first that fails. -/
def announce (imports : Imports) (step : Step) : Announcing σ Unit := ExceptT.mk fun w =>
  let w := w.record (.step step)
  match step with
  | .unrecognized position node trail =>
    let w := if w.engine.settings.reportUnrecognized then
        w.report (Step.report position node trail)
      else w
    (.ok (), w)
  | .event e =>
    let w := if w.engine.settings.traceEvents then
        w.note [.event e.node.kind e.phase e.trail.depth]
      else w
    ((w.engine.registry.lookup e.node.kind).forM (call start cast e imports)).run.run w

/-- **Telling a listener that a boundary is reached.** It has no part in the context of the
traversal: what it does to a context is done to an empty one and dropped. -/
def tell (boundary : Boundary) (listener : Handle) (w : World σ) : World σ :=
  -- The context is put aside and comes back untouched.
  let context := w.context
  let w := w.record (.told listener boundary)
  let (_, w) := run start (cast.onBoundary listener boundary) { w with context := .empty }
  { w with context := context }

/-- Telling everyone on the roster, as it is now. -/
def tellAll (boundary : Boundary) (w : World σ) : World σ :=
  (w.engine.roster.notify (m := StateM (World σ))
    (fun listener w => ((), w.tell start cast boundary listener)) w).2

/-- **An admitted traversal**, from the first notification to the last. -/
def walk : Start σ := fun target w =>
  let descend := w.engine.settings.descendIntoUnknown
  let w := ((w.setRunning true).note [target.notice]).tellAll start cast .begin
  -- From here on the engine is marked as running, whatever the listeners do.
  let announcing := Summary.counting (announce start cast target.imports)
  match ((target.tourM descend announcing).run .zero).run.run w with
  | (.error cause, w) => (.error (.callback cause), w.setRunning false)
  | (.ok (_, summary), w) =>
    let w := (w.tellAll start cast .finish).note (target.closing summary)
    (.ok summary, w.setRunning false)

/-- **The walk in terms of the list of all steps**: they are announced in order up to the
first that fails, and counted if none does. -/
theorem walk_eq (target : Target) (w : World σ) :
    walk start cast target w =
      let steps := target.steps w.engine.settings.descendIntoUnknown
      let w := ((w.setRunning true).note [target.notice]).tellAll start cast .begin
      match (steps.forM (announce start cast target.imports)).run.run w with
      | (.error cause, w) => (.error (.callback cause), w.setRunning false)
      | (.ok (), w) =>
        let summary := Summary.ofSteps steps
        let w := (w.tellAll start cast .finish).note (target.closing summary)
        (.ok summary, w.setRunning false) := by
  simp only [walk, Target.tourM_eq_forM, Summary.run_forM_counting, ExceptT.run_map,
    StateT.run_map, Summary.ofSteps]
  generalize (((target.steps w.engine.settings.descendIntoUnknown).forM
    (announce start cast target.imports)).run.run _) = answer
  match answer with
  | (.error cause, w) => rfl
  | (.ok (), w) => rfl

end Announce

/-- **A traversal.** It is refused when the engine does not admit it. -/
def traverse (cast : Cast σ) : Start σ :=
  enter (walk shut cast)

/-- Running a program outside of any traversal, so that the traversals it asks for start. -/
def execute (cast : Cast σ) (p : Program σ ε α) (w : World σ) : Except ε α × World σ :=
  run (walk shut cast) p w

end World

end SyntaxTour
