import SyntaxTour.Proofs.Moves
import SyntaxTour.Proofs.Tours

/-!
# One traversal at a time

An engine is marked as running from the moment a traversal is admitted until it is over. All
callbacks, of listeners and of boundary listeners, fall in between, and whatever they do the
mark stays. A traversal that they ask for is therefore refused, and since a refusal changes
nothing, the one that is running goes on as if nobody had asked. When it is over the mark is
gone, however it ended.

* `World.passes` lists the worlds that a program passes through, and `Move.inside` those that
  belong to a move of a traversal.
* `World.respected_running` says that the mark survives all that listeners do.
* In a running world it is of no consequence what an admitted traversal would do
  (`World.run_of_running` and what follows it), so `World.walk_eq_shut`: a walk is the same for
  everything that might stand behind the door.
* `World.traverse_exclusive` puts this together.
-/

namespace SyntaxTour

namespace World

variable {σ ε α : Type}

/-- **The worlds that a program passes through**: the one in which it is run, and after each
command the one that the command leaves. -/
def passes (start : Start σ) : Program σ ε α → World σ → List (World σ)
  | .done _, w => [w]
  | .fail _, w => [w]
  | .ask c next, w => w :: passes start (next (w.perform start c).1) (w.perform start c).2

/-- The last of them is the world in which the program ends. -/
theorem getLast?_passes (start : Start σ) (p : Program σ ε α) (w : World σ) :
    (passes start p w).getLast? = some (run start p w).2 := by
  induction p generalizing w with
  | done a => rfl
  | fail e => rfl
  | ask c next ih =>
    rw [passes, List.getLast?_cons, ih]
    rfl

/-- What every command keeps holds all along. -/
theorem forall_passes {start : Start σ} {P : World σ → Prop}
    (keeps : ∀ w c, P w → P (w.perform start c).2) (p : Program σ ε α) {w : World σ} (here : P w) :
    ∀ w' ∈ passes start p w, P w' := by
  induction p generalizing w with
  -- A program that is over passes through the world in which it ends.
  | done a =>
    intro w' mem
    obtain rfl := List.mem_singleton.1 mem
    exact here
  | fail e =>
    intro w' mem
    obtain rfl := List.mem_singleton.1 mem
    exact here
  | ask c next ih =>
    -- Every command leaves the property in place.
    intro w' mem
    obtain rfl | mem := List.mem_cons.1 mem
    · exact here
    · exact ih _ (keeps w c here) w' mem

end World

/-- **The worlds inside a move**: those that the program of the listener passes through. -/
def Move.inside {σ : Type} (start : World.Start σ) (cast : Cast σ) (imports : Imports)
    (m : Move σ) : List (World σ) :=
  match m.entry with
  | .step _ => []
  | .called listener e =>
    World.passes start (cast.onEvent listener e imports) (m.before.record m.entry)
  | .told listener boundary =>
    World.passes start (cast.onBoundary listener boundary)
      { m.before.record m.entry with context := .empty }

namespace World

variable {σ ε α : Type}

/-! ### The mark -/

/-- **No listener changes the mark.** -/
theorem respected_running :
    Respected fun w w' : World σ => w'.engine.running = w.engine.running where
  refl _ := rfl
  trans first later := later.trans first
  perform w c := by
    cases c with
    | traverse target => rw [perform_traverse]
    | _ => rfl
  called _ _ _ := rfl
  failed _ _ _ _ := rfl
  told _ _ _ := rfl
  context _ _ := rfl

theorem running_meet (w : World σ) (step : Step) :
    (w.meet step).engine.running = w.engine.running := by
  obtain ⟨sink, same⟩ := engine_meet w step
  rw [same]

/-! ### Behind the door -/

section

variable (start : Start σ)

/-- In a running world no traversal is admitted. -/
theorem enter_of_running (target : Target) {w : World σ} (running : w.engine.running = true) :
    enter start target w = enter shut target w := by
  unfold enter
  cases admitted : w.engine.admission target with
  | error v => rfl
  | ok _ =>
    have free := (Engine.admission_eq_ok.1 admitted).2
    rw [running] at free
    exact nomatch free

theorem perform_of_running {w : World σ} (running : w.engine.running = true) (c : Command σ) :
    w.perform start c = w.perform shut c := by
  cases c with
  | traverse target => exact enter_of_running start target running
  | _ => rfl

theorem running_perform (w : World σ) (c : Command σ) (running : w.engine.running = true) :
    (w.perform start c).2.engine.running = true := by
  rw [perform_of_running start running]
  exact (respected_running.perform w c).trans running

/-- **A program that is run in a running world** does not notice what an admitted traversal
would do. -/
theorem run_of_running (p : Program σ ε α) {w : World σ} (running : w.engine.running = true) :
    run start p w = run shut p w := by
  induction p generalizing w with
  | done a => rfl
  | fail e => rfl
  | ask c next ih =>
    -- The world that the command leaves is running too, so the rest of the program agrees.
    have here := perform_of_running start running c
    have after := running_perform start w c running
    change run start (next (w.perform start c).1) (w.perform start c).2 =
      run shut (next (w.perform shut c).1) (w.perform shut c).2
    rw [ih _ after, here]

variable (cast : Cast σ) (imports : Imports)

theorem call_of_running (e : Event) (listener : Handle) {w : World σ}
    (running : w.engine.running = true) :
    (call start cast e imports listener).run.run w =
      (call shut cast e imports listener).run.run w := by
  have program := run_of_running start (cast.onEvent listener e imports)
    (w := w.record (.called listener e)) running
  unfold call
  dsimp only [ExceptT.run, ExceptT.mk, StateT.run]
  rw [program]

/-- Two ways of announcing that agree in running worlds, and stay there, agree for a whole
row. -/
theorem forM_of_running {β : Type} {act act' : β → Announcing σ Unit}
    (same : ∀ b (w : World σ), w.engine.running = true → (act b).run.run w = (act' b).run.run w)
    (keeps : ∀ b (w : World σ), ((act' b).run.run w).2.engine.running = w.engine.running)
    (l : List β) {w : World σ} (running : w.engine.running = true) :
    (l.forM act).run.run w = (l.forM act').run.run w := by
  induction l generalizing w with
  | nil => rfl
  | cons b l ih =>
    have after := (keeps b w).trans running
    rw [run_forM_cons, run_forM_cons, same b w running]
    generalize (act' b).run.run w = ran at after
    match ran with
    | (.ok (), w₁) => exact ih after
    | (.error cause, w₁) => rfl

theorem announce_of_running (step : Step) {w : World σ} (running : w.engine.running = true) :
    (announce start cast imports step).run.run w =
      (announce shut cast imports step).run.run w := by
  cases step with
  | unrecognized position node trail => rfl
  | event e =>
    have met : (w.meet (.event e)).engine.running = true :=
      (running_meet w (.event e)).trans running
    exact forM_of_running (fun listener _ => call_of_running start cast imports e listener)
      (respected_running.call cast imports e) _ met

theorem tellAll_of_running (boundary : Boundary) {w : World σ}
    (running : w.engine.running = true) :
    w.tellAll start cast boundary = w.tellAll shut cast boundary := by
  have told (listener : Handle) {w : World σ} (running : w.engine.running = true) :
      w.tell start cast boundary listener = w.tell shut cast boundary listener := by
    -- A listener on the roster runs in a world of its own, with the mark still set.
    have program := run_of_running start (cast.onBoundary listener boundary)
      (w := { w.record (.told listener boundary) with context := .empty }) running
    unfold tell
    dsimp only
    rw [program]
  rw [tellAll_eq_foldl, tellAll_eq_foldl]
  generalize w.engine.roster.members = members
  -- Nobody takes the mark away from the listeners that come after.
  induction members generalizing w with
  | nil => rfl
  | cons listener members ih =>
    have after := (respected_running.tell cast boundary listener w).trans running
    rw [List.foldl_cons, List.foldl_cons, told listener running]
    exact ih after

/-- **A walk is the same whatever stands behind the door**, since it is never opened while the
walk lasts. -/
theorem walk_eq_shut (target : Target) (w : World σ) :
    walk start cast target w = walk shut cast target w := by
  -- The mark is set before anyone is told, so it is there in each of the three parts.
  have running : ((w.opened target).tellAll shut cast .begin).engine.running = true :=
    respected_running.tellAll cast .begin (w.opened target)
  have begun : (w.opened target).tellAll start cast .begin =
      (w.opened target).tellAll shut cast .begin := tellAll_of_running start cast .begin rfl
  -- Every step keeps the mark as well.
  have kept := respected_running.announce cast target.imports running_meet
  have announced := forM_of_running
    (fun step _ => announce_of_running start cast target.imports step) kept
    (target.steps w.engine.settings.descendIntoUnknown) running
  have after := respected_running.forM kept (target.steps w.engine.settings.descendIntoUnknown)
    ((w.opened target).tellAll shut cast .begin)
  rw [walk_eq, walk_eq]
  unfold opened at *
  dsimp only
  -- The beginning and the steps are the same, so what is left is the end.
  rw [begun, announced]
  generalize ((target.steps w.engine.settings.descendIntoUnknown).forM
    (announce shut cast target.imports)).run.run _ = ran at after
  match ran with
  | (.error cause, w₂) => rfl
  | (.ok (), w₂) =>
    dsimp only
    rw [tellAll_of_running start cast .finish (after.trans running)]

/-- Neither does a traversal depend on it, admitted or not. -/
theorem enter_walk (target : Target) (w : World σ) :
    enter (walk start cast) target w = traverse cast target w := by
  unfold traverse enter
  cases w.engine.admission target with
  | error v => rfl
  | ok _ => exact walk_eq_shut start cast target w

end

/-! ### One traversal at a time -/

/-- A traversal leaves the mark as it has found it. -/
theorem running_traverse (cast : Cast σ) (target : Target) (w : World σ) :
    (traverse cast target w).2.engine.running = w.engine.running := by
  cases admitted : w.engine.admission target with
  | error v =>
    unfold traverse enter
    rw [admitted]
  | ok _ =>
    obtain ⟨begins, middle, ends, conduct, -⟩ := conduct_traverse cast admitted
    obtain ⟨ran, -, -, stopped⟩ := conduct.proceeds
    exact stopped.trans (Engine.admission_eq_ok.1 admitted).2.symm

/-- While a move is made in a running world, the mark stays. -/
theorem running_inside (start : Start σ) (cast : Cast σ) (imports : Imports) {m : Move σ}
    (running : m.before.engine.running = true) :
    ∀ w ∈ m.inside start cast imports, w.engine.running = true := by
  obtain ⟨entry, before⟩ := m
  cases entry with
  | step step => exact fun w mem => nomatch mem
  | called listener e => exact forall_passes (running_perform start) _ running
  | told listener boundary => exact forall_passes (running_perform start) _ running

theorem perform_traverse_of_running (start : Start σ) {w : World σ}
    (running : w.engine.running = true) {inner : Target} (walkable : inner.Walkable) :
    w.perform start (.traverse inner) = (.error (.violation .alreadyRunning), w) := by
  change enter start inner w = _
  rw [enter, Engine.admission_of_running running walkable]
  rfl

/-- **There is one traversal at a time.** Let no traversal be running. Then a traversal comes
to the same whatever those that its listeners ask for would do if they were admitted, and
afterwards none is running. It is made of moves, and in all the worlds inside of them it is
marked as running, so that every traversal that is asked for there is refused and changes
nothing. Outside of traversals none is running: a program that is run there, with all the
traversals it asks for, passes only through worlds without the mark. -/
theorem traverse_exclusive (cast : Cast σ) (target : Target) (w : World σ)
    (free : w.engine.running = false) :
    (∀ start : Start σ, enter (walk start cast) target w = traverse cast target w) ∧
    (traverse cast target w).2.engine.running = false ∧
    (∃ moves ran,
      Proceeds cast target.imports (w.opened target) moves ran ∧
      (traverse cast target w).2.journal.toList = w.journal.toList ++ moves.map Move.entry ∧
      ∀ m ∈ moves, ∀ start : Start σ, ∀ w' ∈ m.inside start cast target.imports,
        w'.engine.running = true ∧
        ∀ inner : Target, inner.Walkable →
          w'.perform start (.traverse inner) = (.error (.violation .alreadyRunning), w')) ∧
    ∀ {ε α : Type} (p : Program σ ε α), ∀ w' ∈ passes (walk shut cast) p w,
      w'.engine.running = false := by
  refine ⟨fun start => enter_walk start cast target w,
    (running_traverse cast target w).trans free, ?_, fun p => ?_⟩
  · -- Refused traversals have no moves.
    cases admitted : w.engine.admission target with
    | error v =>
      refine ⟨[], (.ok (), w.opened target), .done _, ?_, fun m mem => nomatch mem⟩
      unfold traverse enter
      rw [admitted]
      exact (List.append_nil _).symm
    | ok _ =>
      -- A conduct is a row of moves, and all that happens is in one of them.
      obtain ⟨begins, middle, ends, conduct, -⟩ := conduct_traverse cast admitted
      obtain ⟨ran, proceeds, journal, -⟩ := conduct.proceeds
      -- The row starts in the opened world, and no move takes the mark away.
      refine ⟨_, ran, proceeds, ?_, fun m mem start w' inside => ?_⟩
      · rw [journal]
        exact proceeds.journal
      · have marked : m.before.engine.running = true :=
          (proceeds.respected respected_running running_meet).1 m mem
        have running := running_inside start cast target.imports marked w' inside
        exact ⟨running, fun inner => perform_traverse_of_running start running⟩
  · refine forall_passes (fun w c free => ?_) p free
    cases c with
    -- Outside of traversals the one that is asked for may start, and it comes to an end.
    | traverse inner => exact (running_traverse cast inner w).trans free
    | _ => exact free

/-! ### A listener that asks for traversals -/

namespace Intruding

def root : Node := .node 0 .empty (.classDecl "C" [])

def target : Target := .declaration root []

def intruder : Handle := ⟨0, "intruder"⟩

def bystander : Handle := ⟨1, "bystander"⟩

/-- A world in which one listener waits for classes and one for the boundaries. -/
def world : World Nat :=
  ⟨{ Engine.new .default .log with
      registry := (Registry.empty.register intruder (some .classDecl)).2
      roster := (Roster.empty.add bystander).2 },
    .empty, 1, #[], #[], 0⟩

/-- Both ask for a traversal of the same class. The listener asks again when it was refused,
fails if it is ever let in, and counts the refusals. -/
def intruding : Cast Nat where
  onEvent _ _ _ :=
    .ask (.traverse target) fun
      | .ok _ => .fail (.failed "let in")
      | .error _ => .ask (.traverse target) fun
        | .ok _ => .fail (.failed "let in")
        | .error _ => .ask .own fun (count : Nat) => .ask (.setOwn (count + 2)) fun _ => .done ()
  onBoundary _ _ := .ask (.traverse target) fun _ => .done ()

theorem traverse_root :
    (traverse intruding target world).1 = .ok ⟨1, 1, 0⟩ ∧
      (traverse intruding target world).2.own = 4 := by
  change (walk shut intruding target world).1 = _ ∧ (walk shut intruding target world).2.own = _
  rw [walk_eq, target, root, steps_bare_class]
  exact ⟨rfl, rfl⟩

end Intruding

open Intruding in
/-- A listener that asks for another traversal twice at each of two events is refused all four
times, and the one on the roster is refused as well. -/
theorem traverse_exclusive_intruding :
    world.engine.running = false ∧
    (traverse intruding target world).1 = .ok ⟨1, 1, 0⟩ ∧
    (traverse intruding target world).2.own = 4 ∧
    enter (walk (traverse intruding) intruding) target world = traverse intruding target world ∧
    (traverse intruding target world).2.engine.running = false ∧
    ∃ moves : List (Move Nat),
      (traverse intruding target world).2.journal.toList = moves.map Move.entry ∧
      ∀ m ∈ moves, ∀ w ∈ m.inside (traverse intruding) intruding [],
        w.engine.running = true ∧
        w.perform (traverse intruding) (.traverse target) =
          (.error (.violation .alreadyRunning), w) := by
  obtain ⟨same, after, ⟨moves, -, -, journal, inside⟩, -⟩ :=
    traverse_exclusive intruding target world rfl
  refine ⟨rfl, traverse_root.1, traverse_root.2, same _, after, moves, journal, ?_⟩
  intro m mem w mem'
  obtain ⟨running, refused⟩ := inside m mem _ w mem'
  exact ⟨running, refused target rfl⟩

end World

end SyntaxTour
