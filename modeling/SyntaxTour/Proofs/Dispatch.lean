import SyntaxTour.Proofs.Journal
import SyntaxTour.Proofs.Registration
import SyntaxTour.Proofs.Tours

/-!
# Dispatch by snapshot

Listeners that are called may register and unregister listeners, themselves included, while
others are still to be called for the same event. Whoever was registered when the dispatch of
the event began is called nevertheless, and nobody else is; what the callbacks did to the
registry counts from the next event on.

* `World.changes` lists the registrations and unregistrations that a program makes, and
  `World.registry_run` says that they account for all that it does to the registry.
* `Callback` is one call of a listener with the world it is called in, and `Dispatch` an event
  with its callbacks. `World.dispatches` lists those of a traversal.
* `Ends` says which listeners of a row are called, and how a row of callbacks ends.
* `World.Row`, `World.Fires` and `World.Course` collect what holds of the callbacks for an
  event, of the event and of a whole course of dispatches; `World.row_forM_call` and
  `World.course_forM_announce` are the inductions.
* `World.built_execute` says that there is a history behind every registry, and
  `World.traverse_snapshot` is the statement about traversals. Who is registered is said by
  `Registry.registered`, in terms of all registrations until then.
-/

namespace SyntaxTour

/-- Listeners that answer entering and leaving a node in their own ways. Every cast is of this
form, since an event tells its phase. -/
def Cast.ofPhases {σ : Type}
    (onEnter onExit : Handle → Event → Imports → Program σ CallbackError Unit)
    (onBoundary : Handle → Boundary → Program σ Empty Unit) : Cast σ where
  onEvent listener e imports :=
    match e.phase with
    | .enter => onEnter listener e imports
    | .exit => onExit listener e imports
  onBoundary := onBoundary

theorem Cast.ofPhases_self {σ : Type} (cast : Cast σ) :
    ofPhases cast.onEvent cast.onEvent cast.onBoundary = cast := by
  obtain ⟨onEvent, onBoundary⟩ := cast
  unfold ofPhases
  congr 1
  funext listener e imports
  cases e.phase <;> rfl

/-- What a command does to the registry, if anything. -/
def Command.change? {σ : Type} : Command σ → Option Registry.Change
  | .register listener declared => some (.register listener declared)
  | .unregister listener declared => some (.unregister listener declared)
  | _ => none

/-- Whether the entry tells of an event or of a callback. -/
def Entry.ofDispatch : Entry → Bool
  | .step (.event _) => true
  | .called .. => true
  | _ => false

namespace World

variable {σ ε α : Type}

/-- **The registrations and unregistrations that a program makes**, in order, when it is run
in a world. -/
def changes : Program σ ε α → World σ → List Registry.Change
  | .done _, _ => []
  | .fail _, _ => []
  | .ask c next, w =>
    c.change?.toList ++ changes (next (w.perform shut c).1) (w.perform shut c).2

/-- The events and callbacks in the journal. -/
def dispatched (w : World σ) : List Entry := w.journal.toList.filter Entry.ofDispatch

end World

/-! ### Callbacks and dispatches -/

/-- **One callback**: who is called with which event, and in which world. -/
structure Callback (σ : Type) where
  listener : Handle
  event : Event
  before : World σ

/-- **The dispatch of an event**: the world in which it starts, and the callbacks that are made
for it, in order. -/
structure Dispatch (σ : Type) where
  event : Event
  before : World σ
  callbacks : List (Callback σ)

section

variable {σ : Type} (cast : Cast σ) (imports : Imports)

namespace Callback

/-- What the journal has of the callback. -/
def entry (c : Callback σ) : Entry := .called c.listener c.event

/-- What the program of the listener comes to: its answer, and the world it leaves. -/
def outcome (c : Callback σ) : Except CallbackError Unit × World σ :=
  World.run World.shut (cast.onEvent c.listener c.event imports) (c.before.record c.entry)

/-- What the listener does to the registry. -/
def changes (c : Callback σ) : List Registry.Change :=
  World.changes (cast.onEvent c.listener c.event imports) (c.before.record c.entry)

end Callback

namespace Dispatch

/-- What the journal has of the dispatch. -/
def entries (d : Dispatch σ) : List Entry :=
  .step (.event d.event) :: d.callbacks.map Callback.entry

/-- What the callbacks of the dispatch do to the registry. -/
def changes (d : Dispatch σ) : List Registry.Change :=
  d.callbacks.flatMap (Callback.changes cast imports)

end Dispatch

/-- **How a row of callbacks ends**: without a failure when all the listeners were called and
none failed, and with the failure of the last callback when those before did not fail; then
the listeners that are left are not called. -/
inductive Ends : List Handle → List (Callback σ) → Except CallbackError Unit → Prop where
  | all (callbacks : List (Callback σ)) :
    (∀ c ∈ callbacks, (c.outcome cast imports).1 = .ok ()) →
      Ends (callbacks.map (·.listener)) callbacks (.ok ())
  | failed (earlier : List (Callback σ)) (last : Callback σ) (left : List Handle)
      (cause : CallbackError) :
    (∀ c ∈ earlier, (c.outcome cast imports).1 = .ok ()) →
      (last.outcome cast imports).1 = .error cause →
        Ends ((earlier ++ [last]).map (·.listener) ++ left) (earlier ++ [last]) (.error cause)

/-- A callback that does not fail may come before a row of callbacks. -/
theorem Ends.cons {cast : Cast σ} {imports : Imports} {c : Callback σ}
    (fine : (c.outcome cast imports).1 = .ok ()) {listeners : List Handle}
    {callbacks : List (Callback σ)} {answer : Except CallbackError Unit}
    (ends : Ends cast imports listeners callbacks answer) :
    Ends cast imports (c.listener :: listeners) (c :: callbacks) answer := by
  -- A further callback without failure changes nothing about the ones that are there.
  have still {earlier : List (Callback σ)}
      (answers : ∀ c ∈ earlier, (c.outcome cast imports).1 = .ok ()) :
      ∀ c' ∈ c :: earlier, (c'.outcome cast imports).1 = .ok () := by
    intro c' mem
    obtain rfl | mem := List.mem_cons.mp mem
    · exact fine
    · exact answers c' mem
  cases ends with
  | all _ answers => exact .all (c :: callbacks) (still answers)
  | failed earlier last left cause answers failed =>
    exact .failed (c :: earlier) last left cause (still answers) failed

/-- **A dispatch by snapshot**: it starts with the registry of a given history, and the listeners
that are called are those registered by then, each of them once, and up to the first that
fails. -/
structure Dispatch.BySnapshot (history : List Registry.Change) (d : Dispatch σ)
    (answer : Except CallbackError Unit) : Prop where
  registry : d.before.engine.registry = .built history
  distinct : ((Registry.registered history d.event.node.kind).map (·.id)).Nodup
  event : ∀ c ∈ d.callbacks, c.event = d.event
  ends : Ends cast imports (Registry.registered history d.event.node.kind) d.callbacks answer

namespace World

/-- The callbacks for an event: of one listener after the other, each in the world that the
one before has left, up to the first that fails. -/
def callbacks (e : Event) : List Handle → World σ → List (Callback σ)
  | [], _ => []
  | listener :: listeners, w =>
    ⟨listener, e, w⟩ ::
      match (call shut cast e imports listener).run.run w with
      | (.ok (), w) => callbacks e listeners w
      | (.error _, _) => []

/-- The dispatch of an event in the world that it meets. -/
def dispatch (e : Event) (w : World σ) : Dispatch σ :=
  let w := w.meet (.event e)
  ⟨e, w, callbacks cast imports e (w.engine.registry.lookup e.node.kind) w⟩

/-- The dispatches of a row of steps, up to the first in which a listener fails. -/
def dispatchesOf : List Step → World σ → List (Dispatch σ)
  | [], _ => []
  | step :: steps, w =>
    (step.event?.map fun e => dispatch cast imports e w).toList ++
      match (announce shut cast imports step).run.run w with
      | (.ok (), w) => dispatchesOf steps w
      | (.error _, _) => []

/-! ### Programs and the registry -/

omit cast imports

variable {ε α : Type}

theorem registry_perform (w : World σ) (c : Command σ) :
    (w.perform shut c).2.engine.registry =
      c.change?.toList.foldl Registry.change w.engine.registry := by
  cases c with
  | traverse target =>
    rw [perform_traverse]
    rfl
  | _ => rfl

/-- **What a program makes of the registry** is what its registrations and unregistrations make
of it. -/
theorem registry_run (p : Program σ ε α) (w : World σ) :
    (run shut p w).2.engine.registry = (changes p w).foldl Registry.change w.engine.registry := by
  induction p generalizing w with
  | done a => rfl
  | fail e => rfl
  | ask c next ih =>
    rw [changes, List.foldl_append, ← registry_perform]
    exact ih _ _

theorem registry_meet (w : World σ) (step : Step) :
    (w.meet step).engine.registry = w.engine.registry := by
  obtain ⟨sink, same⟩ := engine_meet w step
  rw [same]

theorem dispatched_record (w : World σ) (entry : Entry) :
    (w.record entry).dispatched = w.dispatched ++ [entry].filter Entry.ofDispatch := by
  rw [dispatched, record, Array.toList_push, List.filter_append, ← dispatched]

theorem dispatched_of_journal {w w' : World σ} (same : w'.journal = w.journal) :
    w'.dispatched = w.dispatched := by
  rw [dispatched, same, ← dispatched]

theorem dispatched_meet (w : World σ) (step : Step) :
    (w.meet step).dispatched = w.dispatched ++ [Entry.step step].filter Entry.ofDispatch :=
  (dispatched_of_journal (journal_meet w step)).trans (dispatched_record w _)

/-! ### One dispatch -/

variable (cast : Cast σ) (imports : Imports)

theorem registry_call (c : Callback σ) :
    ((call shut cast c.event imports c.listener).run.run c.before).2.engine.registry =
      (c.changes cast imports).foldl Registry.change c.before.engine.registry := by
  rw [(run_call cast imports c.event c.listener c.before).2.1]
  exact registry_run _ _

theorem dispatched_call (c : Callback σ) :
    ((call shut cast c.event imports c.listener).run.run c.before).2.dispatched =
      c.before.dispatched ++ [c.entry] := by
  rw [dispatched_of_journal (run_call cast imports c.event c.listener c.before).2.2]
  refine (dispatched_of_journal (upheld_journal.run _ _)).trans ?_
  exact dispatched_record _ _

/-- **What holds of a row of callbacks** that are made for an event, given what they come to. -/
structure Row (e : Event) (listeners : List Handle) (w : World σ) (callbacks : List (Callback σ))
    (ran : Except CallbackError Unit × World σ) : Prop where
  registry : ran.2.engine.registry =
    (callbacks.flatMap (Callback.changes cast imports)).foldl Registry.change w.engine.registry
  dispatched : ran.2.dispatched = w.dispatched ++ callbacks.map Callback.entry
  event : ∀ c ∈ callbacks, c.event = e
  ends : Ends cast imports listeners callbacks ran.1

/-- **Calling the listeners of a row** one after the other makes these callbacks. -/
theorem row_forM_call (e : Event) (listeners : List Handle) (w : World σ) :
    Row cast imports e listeners w (callbacks cast imports e listeners w)
      ((listeners.forM (call shut cast e imports)).run.run w) := by
  induction listeners generalizing w with
  | nil =>
    have none : ∀ c ∈ ([] : List (Callback σ)), (c.outcome cast imports).1 = .ok () :=
      fun c mem => nomatch mem
    exact ⟨rfl, (List.append_nil _).symm, fun c mem => (nomatch mem), .all [] none⟩
  | cons listener listeners ih =>
    -- What is known of the first callback: its answer, and what it does to the world.
    have answer : ((call shut cast e imports listener).run.run w).1 =
        (Callback.outcome cast imports ⟨listener, e, w⟩).1 :=
      (run_call cast imports e listener w).1
    have registry := registry_call cast imports ⟨listener, e, w⟩
    have dispatched := dispatched_call cast imports ⟨listener, e, w⟩
    dsimp only at registry dispatched
    rw [run_forM_cons, callbacks]
    generalize (call shut cast e imports listener).run.run w = ran at answer registry dispatched
    match ran with
    | (.ok (), w₁) =>
      -- The row goes on in the world that the first callback has left, whoever is registered now.
      obtain ⟨registry', dispatched', event, ends⟩ := ih w₁
      refine ⟨?_, ?_, ?_, ends.cons answer.symm⟩
      · rw [registry', registry, List.flatMap_cons, List.foldl_append]
      · rw [dispatched', dispatched, List.append_assoc]
        rfl
      · intro c mem
        obtain rfl | mem := List.mem_cons.mp mem
        · rfl
        · exact event c mem
    | (.error cause, w₁) =>
      -- The listeners that are left are not called.
      have ends : Ends cast imports (listener :: listeners) [⟨listener, e, w⟩] (.error cause) :=
        .failed [] _ listeners cause (fun c mem => nomatch mem) answer.symm
      refine ⟨?_, dispatched, ?_, ends⟩
      · rw [List.flatMap_singleton]
        exact registry
      · intro c mem
        obtain rfl := List.mem_singleton.mp mem
        rfl

/-- **What holds of an event** that is announced after a history of registrations: its dispatch
is by snapshot, and what its callbacks do to the registry is added to the history. -/
structure Fires (history : List Registry.Change) (w : World σ) (d : Dispatch σ)
    (ran : Except CallbackError Unit × World σ) : Prop where
  registry : ran.2.engine.registry = .built (history ++ d.changes cast imports)
  dispatched : ran.2.dispatched = w.dispatched ++ d.entries
  snapshot : d.BySnapshot cast imports history ran.1

/-- **Every event is dispatched by snapshot.** -/
theorem fires_announce (e : Event) {history : List Registry.Change} {w : World σ}
    (built : w.engine.registry = .built history) :
    Fires cast imports history w (dispatch cast imports e w)
      ((announce shut cast imports (.event e)).run.run w) := by
  rw [run_announce_event]
  -- Writing the event down does not touch the registry.
  have met : (w.meet (.event e)).engine.registry = .built history :=
    (registry_meet w _).trans built
  obtain ⟨registry, dispatched, event, ends⟩ := row_forM_call cast imports e
    ((w.meet (.event e)).engine.registry.lookup e.node.kind) (w.meet (.event e))
  refine ⟨?_, ?_, met, Registry.nodup_registered history _, event, ?_⟩
  · -- The changes of the row come behind those of the history.
    rw [Registry.built_append, ← met]
    exact registry
  · -- The event is taken down before the callbacks are.
    rw [dispatched, dispatched_meet, List.append_assoc]
    rfl
  · -- Who is called are those who were on the list when the event was written down.
    rw [← Registry.lookup_built history, ← met]
    exact ends

/-! ### One dispatch after the other -/

/-- **What holds of a course of dispatches** that starts after a history of registrations: each
is by snapshot, where the history goes on with all that the dispatches before have done, and
nothing comes after one in which a listener fails. -/
structure Course (history : List Registry.Change) (w : World σ) (ds : List (Dispatch σ))
    (ran : Except CallbackError Unit × World σ) : Prop where
  dispatched : ran.2.dispatched = w.dispatched ++ ds.flatMap Dispatch.entries
  snapshots : ∀ before d after, ds = before ++ d :: after →
    ∃ answer,
      d.BySnapshot cast imports
        (history ++ before.flatMap (Dispatch.changes cast imports)) answer ∧
      ∀ cause, answer = .error cause → after = [] ∧ ran.1 = .error cause

variable {cast imports}

/-- Where nothing is fired, nobody is called. -/
theorem Course.nil (history : List Registry.Change) (w : World σ) :
    Course cast imports history w [] (.ok (), w) where
  dispatched := (List.append_nil _).symm
  snapshots before d after split :=
    absurd split.symm (List.append_ne_nil_of_right_ne_nil before (List.cons_ne_nil d after))

/-- A dispatch in which no listener fails may come before a course of dispatches. -/
theorem Course.cons {history : List Registry.Change} {w w₁ : World σ} {d : Dispatch σ}
    {ds : List (Dispatch σ)} {ran : Except CallbackError Unit × World σ}
    (fires : Fires cast imports history w d (.ok (), w₁))
    (course : Course cast imports (history ++ d.changes cast imports) w₁ ds ran) :
    Course cast imports history w (d :: ds) ran where
  dispatched := by
    rw [course.dispatched, fires.dispatched, List.flatMap_cons, List.append_assoc]
  snapshots before d' after split := by
    -- Either the first dispatch is meant, which nothing comes before.
    cases before with
    | nil =>
      obtain ⟨rfl, -⟩ := List.cons.inj split
      refine ⟨.ok (), ?_, fun _ failed => nomatch failed⟩
      rw [List.flatMap_nil, List.append_nil]
      exact fires.snapshot
    | cons _ before =>
      -- Seen from the rest of the course, the first dispatch is history.
      obtain ⟨rfl, rest⟩ := List.cons.inj split
      rw [List.flatMap_cons, ← List.append_assoc]
      exact course.snapshots before d' after rest

/-- The dispatch in which a listener fails is the last one. -/
theorem Course.last {history : List Registry.Change} {w w₁ : World σ} {d : Dispatch σ}
    {cause : CallbackError} (fires : Fires cast imports history w d (.error cause, w₁)) :
    Course cast imports history w [d] (.error cause, w₁) where
  dispatched := by
    rw [List.flatMap_singleton]
    exact fires.dispatched
  snapshots before d' after split := by
    obtain ⟨rfl, rest⟩ | ⟨before', rfl, rest⟩ := List.cons_eq_append_iff.mp split
    · obtain ⟨rfl, rfl⟩ := List.cons.inj rest
      refine ⟨.error cause, ?_, fun _ same => ⟨rfl, same⟩⟩
      rw [List.flatMap_nil, List.append_nil]
      exact fires.snapshot
    · cases before' <;> exact nomatch rest

variable (cast imports)

/-- **Announcing steps makes a course of dispatches**, up to the first in which a listener
fails. -/
theorem course_forM_announce (steps : List Step) {history : List Registry.Change} {w : World σ}
    (built : w.engine.registry = .built history) :
    Course cast imports history w (dispatchesOf cast imports steps w)
      ((steps.forM (announce shut cast imports)).run.run w) := by
  induction steps generalizing history w with
  | nil => exact .nil history w
  | cons step steps ih =>
    rw [run_forM_cons, dispatchesOf]
    cases step with
    | unrecognized position node trail =>
      -- A remark calls nobody and has no dispatch.
      rw [run_announce_unrecognized]
      dsimp only
      obtain ⟨dispatched, snapshots⟩ :=
        ih ((registry_meet w (.unrecognized position node trail)).trans built)
      refine ⟨?_, snapshots⟩
      rw [dispatched, dispatched_meet]
      exact congrArg (· ++ _) (List.append_nil _)
    | event e =>
      have fires := fires_announce cast imports e built
      generalize (announce shut cast imports (.event e)).run.run w = ran at fires
      match ran with
      -- What the callbacks did to the registry is history for the steps that are left.
      | (.ok (), w₁) => exact .cons fires (ih fires.registry)
      | (.error cause, w₁) => exact .last fires

/-! ### Whole traversals -/

/-- What the boundary listeners do to the registry while they are told, one after the other. -/
def changesOfTelling (boundary : Boundary) : List Handle → World σ → List Registry.Change
  | [], _ => []
  | listener :: listeners, w =>
    changes (cast.onBoundary listener boundary)
        { w.record (.told listener boundary) with context := .empty } ++
      changesOfTelling boundary listeners (w.tell shut cast boundary listener)

/-- Telling the boundary listeners makes of the registry what they do to it, and calls nobody
with an event. -/
theorem tellAll_changes (boundary : Boundary) (w : World σ) :
    (w.tellAll shut cast boundary).engine.registry =
        (changesOfTelling cast boundary w.engine.roster.members w).foldl Registry.change
          w.engine.registry ∧
      (w.tellAll shut cast boundary).dispatched = w.dispatched := by
  rw [tellAll_eq_foldl]
  generalize w.engine.roster.members = members
  induction members generalizing w with
  | nil => exact ⟨rfl, rfl⟩
  -- One listener after the other, each with the world that the one before has left.
  | cons listener members ih =>
    obtain ⟨registry, dispatched⟩ := ih (w.tell shut cast boundary listener)
    -- Being told is in the journal, but it is no callback for an event.
    have told : (w.tell shut cast boundary listener).dispatched = w.dispatched :=
      (dispatched_of_journal (upheld_journal.run _ _)).trans
        ((dispatched_record w _).trans (List.append_nil _))
    refine ⟨registry.trans ?_, dispatched.trans told⟩
    rw [changesOfTelling, List.foldl_append]
    exact congrArg (List.foldl Registry.change · _) (registry_run _ _)

/-- What the boundary listeners do to the registry before the first event of a traversal. -/
def changesAtBegin (target : Target) (w : World σ) : List Registry.Change :=
  changesOfTelling cast .begin w.engine.roster.members (w.opened target)

/-- **The dispatches of a traversal**, none if it is not admitted. -/
def dispatches (target : Target) (w : World σ) : List (Dispatch σ) :=
  match w.engine.admission target with
  | .error _ => []
  | .ok () =>
    dispatchesOf cast target.imports (target.steps w.engine.settings.descendIntoUnknown)
      ((w.opened target).tellAll shut cast .begin)

/-- **A traversal makes a course of dispatches**, after what the boundary listeners did to the
registry. -/
theorem course_traverse (target : Target) {history : List Registry.Change} {w : World σ}
    (built : w.engine.registry = .built history) :
    ∃ ran : Except CallbackError Unit × World σ,
      Course cast target.imports (history ++ changesAtBegin cast target w) w
        (dispatches cast target w) ran ∧
      (traverse cast target w).2.dispatched = ran.2.dispatched ∧
      ∀ cause, ran.1 = .error cause → (traverse cast target w).1 = .error (.callback cause) := by
  unfold traverse enter dispatches
  cases w.engine.admission target with
  -- Refused: nobody is called.
  | error v => exact ⟨(.ok (), w), .nil _ w, rfl, fun cause failed => absurd failed nofun⟩
  | ok free =>
    dsimp only
    rw [walk_eq]
    obtain ⟨registry, told⟩ := tellAll_changes cast .begin (w.opened target)
    -- What the boundary listeners did at the beginning is history too.
    have built' : ((w.opened target).tellAll shut cast .begin).engine.registry =
        .built (history ++ changesAtBegin cast target w) := by
      rw [registry, Registry.built_append, ← built]
      rfl
    have course := course_forM_announce cast target.imports
      (target.steps w.engine.settings.descendIntoUnknown) built'
    refine ⟨_, ⟨course.dispatched.trans ?_, course.snapshots⟩, ?_⟩
    · rw [told]
      rfl
    -- After the last step there are only the boundary listeners, and nobody else is called.
    unfold opened
    dsimp only
    generalize ((target.steps w.engine.settings.descendIntoUnknown).forM
      (announce shut cast target.imports)).run.run _ = ran
    match ran with
    | (.error cause, w₁) =>
      refine ⟨rfl, fun cause' failed => ?_⟩
      rw [Except.error.inj failed]
    | (.ok (), w₁) =>
      exact ⟨(tellAll_changes cast .finish w₁).2, fun cause failed => absurd failed nofun⟩

end World

end

namespace World

/-! ### Every registry has a history -/

section

variable {σ ε α : Type}

/-- Registrations and unregistrations lead from the registry of one world to that of another. -/
def Registers (w w' : World σ) : Prop :=
  ∃ further, w'.engine.registry = List.foldl Registry.change w.engine.registry further

theorem maintained_registers : Maintained (Registers (σ := σ)) where
  refl _ := ⟨[], rfl⟩
  trans := by
    rintro w w' w'' ⟨first, same⟩ ⟨later, same'⟩
    exact ⟨first ++ later, by rw [same', same, List.foldl_append]⟩
  perform w c := ⟨_, registry_perform w c⟩
  called _ _ _ := ⟨[], rfl⟩
  failed _ _ _ _ := ⟨[], rfl⟩
  told _ _ _ := ⟨[], rfl⟩
  context _ _ := ⟨[], rfl⟩
  meet w step := ⟨[], registry_meet w step⟩
  opened _ _ := ⟨[], rfl⟩
  closed _ _ _ := ⟨[], rfl⟩
  stopped _ := ⟨[], rfl⟩

/-- **Every registry has a history.** Whatever a program does, with all the traversals that it
asks for, adds to the history of the registry. -/
theorem built_execute (cast : Cast σ) (p : Program σ ε α) {history : List Registry.Change}
    {w : World σ} (built : w.engine.registry = .built history) :
    ∃ further, (execute cast p w).2.engine.registry = .built (history ++ further) := by
  obtain ⟨further, same⟩ := maintained_registers.execute cast p w
  exact ⟨further, by rw [same, built, Registry.built_append]⟩

end

/-! ### Dispatch by snapshot -/

/-- **Dispatch is by snapshot.** A traversal fires events one after the other, and for each of
them calls exactly those listeners that were registered under the kind of its node when its
dispatch began: each once, in the order of registration, up to and including the first that
fails, on entering when a node is entered and on leaving when it is left. Who is registered
is a matter of all the registrations and unregistrations until then: those in the history of
the world, those of the boundary listeners, and those of all callbacks for earlier events,
but of no callback for the same event. After a callback that fails nothing is fired any
more. -/
theorem traverse_snapshot {σ : Type}
    (onEnter onExit : Handle → Event → Imports → Program σ CallbackError Unit)
    (onBoundary : Handle → Boundary → Program σ Empty Unit) (target : Target)
    (history : List Registry.Change) (w : World σ) (built : w.engine.registry = .built history) :
    let cast := Cast.ofPhases onEnter onExit onBoundary
    (traverse cast target w).2.dispatched =
        w.dispatched ++ (dispatches cast target w).flatMap Dispatch.entries ∧
      ∀ before d after, dispatches cast target w = before ++ d :: after →
        ∃ answer,
          d.BySnapshot cast target.imports
            (history ++ changesAtBegin cast target w ++
              before.flatMap (Dispatch.changes cast target.imports)) answer ∧
          (∀ c ∈ d.callbacks, c.outcome cast target.imports =
            run shut
              (match d.event.phase with
                | .enter => onEnter c.listener d.event target.imports
                | .exit => onExit c.listener d.event target.imports)
              (c.before.record (.called c.listener d.event))) ∧
          ∀ cause, answer = .error cause →
            after = [] ∧ (traverse cast target w).1 = .error (.callback cause) := by
  intro cast
  -- The cast answers by phase, and otherwise this is a course like any other.
  obtain ⟨ran, ⟨dispatched, snapshots⟩, same, fails⟩ := course_traverse cast target built
  refine ⟨same.trans dispatched, fun before d after split => ?_⟩
  obtain ⟨answer, snapshot, ends⟩ := snapshots before d after split
  -- A callback is told apart by the phase of its event.
  refine ⟨answer, snapshot, fun c mem => ?_, fun cause failed => ?_⟩
  · rw [← snapshot.event c mem]
    rfl
  · -- After a failure there are no more dispatches.
    obtain ⟨last, aborted⟩ := ends cause failed
    exact ⟨last, fails cause aborted⟩

/-! ### Listeners that replace each other -/

namespace Succession

def first : Handle := ⟨0, "first"⟩

def second : Handle := ⟨1, "second"⟩

def third : Handle := ⟨2, "third"⟩

/-- The first listener leaves, sends the second away, brings in a third and comes back behind
it. The others do nothing on entering. -/
def onEnter (listener : Handle) (_ : Event) (_ : Imports) : Program Unit CallbackError Unit :=
  if listener = first then
    .ask (.unregister first (some .classDecl)) fun _ =>
      .ask (.unregister second (some .classDecl)) fun _ =>
        .ask (.register third (some .classDecl)) fun _ =>
          .ask (.register first (some .classDecl)) fun _ => .done ()
  else .done ()

/-- Whoever is called on leaving fails. -/
def onExit (_ : Handle) (_ : Event) (_ : Imports) : Program Unit CallbackError Unit :=
  .fail (.failed "enough")

def replacing : Cast Unit := .ofPhases onEnter onExit fun _ _ => .done ()

def root : Node := .node 0 .empty (.classDecl "C" [])

def history : List Registry.Change :=
  [.register first (some .classDecl), .register second (some .classDecl)]

def world : World Unit :=
  ⟨{ Engine.new .default .log with registry := .built history }, .empty, 1, #[], #[], ()⟩

/-- The second listener is called although it was sent away; the third is called for the next
event, and the first, which stands behind it now, is not called any more. -/
theorem dispatches_root :
    (dispatches replacing (.declaration root []) world).map
        (fun d => (d.event.phase, d.callbacks.map (·.listener))) =
      [(.enter, [first, second]), (.exit, [third])] := by
  rw [dispatches, root, steps_bare_class]
  rfl

end Succession

open Succession in
/-- On entering the second listener is called although the first has sent it away. On leaving the
third one fails, and the first, which came back behind it, is not called. -/
theorem traverse_snapshot_succession :
    world.engine.registry = .built history ∧
    (dispatches replacing (.declaration root []) world).map
        (fun d => (d.event.phase, d.callbacks.map (·.listener))) =
      [(.enter, [first, second]), (.exit, [third])] ∧
    (traverse replacing (.declaration root []) world).2.dispatched =
      world.dispatched ++
        (dispatches replacing (.declaration root []) world).flatMap Dispatch.entries ∧
    ∀ before d after, dispatches replacing (.declaration root []) world = before ++ d :: after →
      ∃ answer, d.BySnapshot replacing []
        (history ++ before.flatMap (Dispatch.changes replacing [])) answer := by
  obtain ⟨dispatched, snapshots⟩ := traverse_snapshot onEnter onExit (fun _ _ => .done ())
    (.declaration root []) history world rfl
  refine ⟨rfl, dispatches_root, dispatched, fun before d after split => ?_⟩
  obtain ⟨answer, snapshot, -⟩ := snapshots before d after split
  exact ⟨answer, snapshot⟩

end World

end SyntaxTour
