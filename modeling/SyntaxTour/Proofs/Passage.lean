import SyntaxTour.Engine.Traversal

/-!
# What a world passes through

A traversal leads from one world to another through many small changes. Listeners make some of
them, by the commands they give; the others are made around the listeners, when a step is
taken down, a callback begins or a context is put aside. What is to be said of the worlds
before and after a traversal is often a relation that each of the changes respects, and then
it can be followed through programs, callbacks and steps once and for all.

* `World.meet` is the world in which a step was taken down and nobody was called yet, and
  `World.run_announce_event` says who is called then.
* `World.Upheld` says that a relation survives every command, and hence every program.
* `World.Respected` says that it survives all that listeners do. It is passed on to callbacks
  (`Respected.call`), to rows of them (`Respected.forM`) and to boundaries
  (`Respected.tellAll`).
* `World.Maintained` adds the changes that a traversal makes on its own, and
  `Maintained.traverse` and `Maintained.execute` draw the conclusions.
-/

namespace SyntaxTour

namespace World

variable {σ ε α : Type}

/-! ### Before anyone is called -/

/-- **The world that a step meets**: the step was taken down, an unrecognized node was
reported, and an event was written to the log, as the settings have it. -/
def meet (w : World σ) (step : Step) : World σ :=
  let w := w.record (.step step)
  match step with
  | .unrecognized position node trail =>
    if w.engine.settings.reportUnrecognized then
      w.report (Step.report position node trail)
    else w
  | .event e =>
    if w.engine.settings.traceEvents then
      w.note [.event e.node.kind e.phase e.trail.depth]
    else w

/-- The world in which the boundary listeners are told that a traversal begins. -/
def opened (target : Target) (w : World σ) : World σ :=
  (w.setRunning true).note [target.notice]

/-- All that a step can change about the engine is what the sink holds. -/
theorem engine_meet (w : World σ) (step : Step) :
    ∃ sink, (w.meet step).engine = { w.engine with sink := sink } := by
  unfold meet
  cases step with
  | unrecognized position node trail =>
    dsimp only
    split
    · unfold report
      split <;> exact ⟨_, rfl⟩
    · exact ⟨_, rfl⟩
  | event e =>
    dsimp only
    split <;> exact ⟨_, rfl⟩

variable (cast : Cast σ) (imports : Imports)

/-- Nobody is called for an unrecognized node. -/
theorem run_announce_unrecognized (position : Position) (node : Node) (trail : Trail)
    (w : World σ) :
    (announce shut cast imports (.unrecognized position node trail)).run.run w =
      (.ok (), w.meet (.unrecognized position node trail)) := rfl

/-- For an event those are called who are registered in the world that it meets. -/
theorem run_announce_event (e : Event) (w : World σ) :
    (announce shut cast imports (.event e)).run.run w =
      (((w.meet (.event e)).engine.registry.lookup e.node.kind).forM
        (call shut cast e imports)).run.run (w.meet (.event e)) := rfl

/-- The members of the roster are told one after the other, each in the world that the one
before has left. -/
theorem tellAll_eq_foldl (start : Start σ) (boundary : Boundary) (w : World σ) :
    w.tellAll start cast boundary =
      w.engine.roster.members.foldl (fun w listener => w.tell start cast boundary listener) w := by
  unfold tellAll Roster.notify
  generalize w.engine.roster.members = members
  induction members generalizing w with
  | nil => rfl
  | cons listener members ih => exact ih (w.tell start cast boundary listener)

/-- A callback answers what the program of the listener answers, and after the program there is
at most a line in the log. -/
theorem run_call (e : Event) (listener : Handle) (w : World σ) :
    let ran := run shut (cast.onEvent listener e imports) (w.record (.called listener e))
    ((call shut cast e imports listener).run.run w).1 = ran.1 ∧
      ((call shut cast e imports listener).run.run w).2.engine = ran.2.engine ∧
      ((call shut cast e imports listener).run.run w).2.journal = ran.2.journal := by
  unfold call
  dsimp only [ExceptT.run, ExceptT.mk, StateT.run]
  generalize run shut (cast.onEvent listener e imports) _ = ran
  match ran with
  | (.ok (), w) => exact ⟨rfl, rfl, rfl⟩
  | (.error cause, w) => exact ⟨rfl, rfl, rfl⟩

/-- Announcing one after the other: what fails is the end. -/
theorem run_forM_cons {β : Type} (act : β → Announcing σ Unit) (b : β) (l : List β)
    (w : World σ) :
    ((b :: l).forM act).run.run w =
      match (act b).run.run w with
      | (.ok (), w) => (l.forM act).run.run w
      | (.error cause, w) => (.error cause, w) := by
  rw [List.forM_eq_forM, List.forM_cons, ExceptT.run_bind, StateT.run_bind]
  change (match (act b).run.run w with | (answer, w) => _) = _
  generalize (act b).run.run w = ran
  match ran with
  | (.ok (), w) => rfl
  | (.error cause, w) => rfl

/-- One row after the other: what fails is the end. -/
theorem run_forM_append {β : Type} (act : β → Announcing σ Unit) (l l' : List β) (w : World σ) :
    ((l ++ l').forM act).run.run w =
      match (l.forM act).run.run w with
      | (.ok (), w) => (l'.forM act).run.run w
      | (.error cause, w) => (.error cause, w) := by
  induction l generalizing w with
  | nil => rfl
  | cons b l ih =>
    rw [List.cons_append, run_forM_cons, run_forM_cons]
    generalize (act b).run.run w = ran
    match ran with
    | (.ok (), w₁) => exact ih w₁
    | (.error cause, w₁) => rfl

/-! ### What commands uphold -/

/-- A traversal that is asked for changes nothing while none can start, admitted or not. -/
theorem perform_traverse (w : World σ) (target : Target) :
    (w.perform shut (.traverse target)).2 = w := by
  change (enter shut target w).2 = w
  rw [enter]
  split <;> rfl

/-- **A relation that every command upholds**, while traversals that are asked for do not
start. -/
structure Upheld (R : World σ → World σ → Prop) : Prop where
  refl (w : World σ) : R w w
  trans {w w' w'' : World σ} : R w w' → R w' w'' → R w w''
  perform (w : World σ) (c : Command σ) : R w (w.perform shut c).2

/-- What every command upholds, every program upholds. -/
theorem Upheld.run {R : World σ → World σ → Prop} (upheld : Upheld R) (p : Program σ ε α)
    (w : World σ) : R w (World.run shut p w).2 := by
  induction p generalizing w with
  | done a => exact upheld.refl w
  | fail e => exact upheld.refl w
  | ask c next ih => exact upheld.trans (upheld.perform w c) (ih _ _)

/-! ### What listeners respect -/

/-- **A relation that survives all that listeners do**: commands uphold it, and it survives the
changes that are made around a callback. -/
structure Respected (R : World σ → World σ → Prop) : Prop extends Upheld R where
  /-- A callback begins. -/
  called (w : World σ) (listener : Handle) (e : Event) : R w (w.record (.called listener e))
  /-- A callback fails. -/
  failed (w : World σ) (listener : String) (kind : Kind) (cause : CallbackError) :
    R w (w.note [.callbackFailed listener kind cause])
  /-- A boundary listener is told. -/
  told (w : World σ) (listener : Handle) (boundary : Boundary) :
    R w (w.record (.told listener boundary))
  /-- The context is put aside, or comes back. -/
  context (w : World σ) (context : Context σ) : R w { w with context := context }

namespace Respected

variable {R : World σ → World σ → Prop} (respected : Respected R)

include respected

theorem call (e : Event) (listener : Handle) (w : World σ) :
    R w ((World.call shut cast e imports listener).run.run w).2 := by
  have ran := respected.trans (respected.called w listener e)
    (respected.run (cast.onEvent listener e imports) (w.record (.called listener e)))
  -- After the program there is at most a line in the log.
  unfold World.call
  dsimp only [ExceptT.run, ExceptT.mk, StateT.run]
  split
  · next same =>
    rw [same] at ran
    exact ran
  · next same =>
    rw [same] at ran
    exact respected.trans ran (respected.failed _ _ _ _)

/-- What each of a row of announcements respects, all of them together respect. -/
theorem forM {β : Type} {act : β → Announcing σ Unit}
    (each : ∀ b w, R w ((act b).run.run w).2) (l : List β) (w : World σ) :
    R w ((l.forM act).run.run w).2 := by
  induction l generalizing w with
  | nil => exact respected.refl w
  | cons b l ih =>
    have here := each b w
    rw [run_forM_cons]
    split
    · next same =>
      rw [same] at here
      exact respected.trans here (ih _)
    · next same =>
      rw [same] at here
      exact here

/-- Announcing a step is respected if taking it down is. -/
theorem announce (meet : ∀ w step, R w (w.meet step)) (step : Step) (w : World σ) :
    R w ((World.announce shut cast imports step).run.run w).2 := by
  cases step with
  | unrecognized position node trail =>
    rw [run_announce_unrecognized]
    exact meet w (.unrecognized position node trail)
  | event e =>
    rw [run_announce_event]
    exact respected.trans (meet w _) (respected.forM (respected.call cast imports e) _ _)

theorem tell (boundary : Boundary) (listener : Handle) (w : World σ) :
    R w (w.tell shut cast boundary listener) := by
  refine respected.trans (respected.told w listener boundary) ?_
  -- The program runs in an empty context, and afterwards the old one is back.
  refine respected.trans (respected.context _ .empty) ?_
  exact respected.trans (respected.run (cast.onBoundary listener boundary) _)
    (respected.context _ _)

theorem tellAll (boundary : Boundary) (w : World σ) : R w (w.tellAll shut cast boundary) := by
  rw [tellAll_eq_foldl]
  generalize w.engine.roster.members = members
  induction members generalizing w with
  | nil => exact respected.refl w
  | cons listener members ih =>
    exact respected.trans (respected.tell cast boundary listener w) (ih _)

end Respected

/-! ### What traversals maintain -/

/-- **A relation that survives a whole traversal**: listeners respect it, and so do the
changes that a traversal makes on its own. -/
structure Maintained (R : World σ → World σ → Prop) : Prop extends Respected R where
  meet (w : World σ) (step : Step) : R w (w.meet step)
  opened (w : World σ) (target : Target) : R w ((w.setRunning true).note [target.notice])
  closed (w : World σ) (target : Target) (total : Summary) : R w (w.note (target.closing total))
  stopped (w : World σ) : R w (w.setRunning false)

namespace Maintained

variable {R : World σ → World σ → Prop} (maintained : Maintained R)

include maintained

/-- **What every single change respects holds across a traversal**, whatever its outcome. -/
theorem traverse (target : Target) (w : World σ) : R w (World.traverse cast target w).2 := by
  unfold World.traverse enter
  -- Refused: nothing has happened.
  split
  · exact maintained.refl w
  rw [walk_eq]
  dsimp only
  -- Opened and told of the beginning, then step by step, and in the end stopped either way.
  have begun := maintained.trans (maintained.opened w target)
    (maintained.tellAll cast .begin ((w.setRunning true).note [target.notice]))
  generalize ((w.setRunning true).note [target.notice]).tellAll shut cast .begin = w₁ at begun
  have announced := maintained.trans begun (maintained.forM
    (maintained.announce cast target.imports maintained.meet)
    (target.steps w.engine.settings.descendIntoUnknown) w₁)
  generalize ((target.steps w.engine.settings.descendIntoUnknown).forM
    (World.announce shut cast target.imports)).run.run w₁ = ran at announced
  match ran with
  | (.error cause, w₂) => exact maintained.trans announced (maintained.stopped w₂)
  -- A tour that succeeds is told of its end and closed before it stops.
  | (.ok (), w₂) =>
    refine maintained.trans announced (maintained.trans (maintained.tellAll cast .finish w₂) ?_)
    exact maintained.trans (maintained.closed _ target _) (maintained.stopped _)

/-- **It holds across a program that is run outside of traversals**, with all the traversals
that it asks for. -/
theorem execute (p : Program σ ε α) (w : World σ) : R w (World.execute cast p w).2 := by
  unfold World.execute
  induction p generalizing w with
  | done a => exact maintained.refl w
  | fail e => exact maintained.refl w
  | ask c next ih =>
    refine maintained.trans ?_ (ih _ _)
    cases c with
    -- Outside of any traversal the one that is asked for may start.
    | traverse target => exact maintained.traverse cast target w
    | _ => exact maintained.perform w _

end Maintained

end World

end SyntaxTour
