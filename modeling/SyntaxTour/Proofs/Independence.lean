import SyntaxTour.Proofs.Nesting

/-!
# Listeners do not change the walk

Listeners may request replacements, come and go, and change all that they share, and still
every traversal of a tree under the same settings goes the same way: it fires the same events
and reports the same diagnostics, as far as it gets. A listener has a say in one thing only,
which is how far that is.

* `World.reported` is what has been reported so far, by a sink of either kind.
* `World.Accounted` says that what was reported is what the announced steps call for under
  the settings in force; `World.maintained_accounted` says it of all that can happen.
* `World.traverse_independent` compares any two traversals.
-/

namespace SyntaxTour

/-- The reported diagnostic, if the notice tells of one. -/
def Notice.diagnostic? : Notice → Option Diagnostic
  | diagnostic d => some d
  | _ => none

/-- **The diagnostics that steps call for** under given settings. -/
def Settings.diagnosed (s : Settings) (steps : List Step) : List Diagnostic :=
  if s.reportUnrecognized then steps.filterMap Step.diagnostic? else []

theorem Settings.diagnosed_append (s : Settings) (steps further : List Step) :
    s.diagnosed (steps ++ further) = s.diagnosed steps ++ s.diagnosed further := by
  unfold diagnosed
  split
  · exact List.filterMap_append
  · rfl

theorem Settings.diagnosed_prefix (s : Settings) {steps further : List Step}
    (early : steps <+: further) : s.diagnosed steps <+: s.diagnosed further := by
  obtain ⟨rest, rfl⟩ := early
  rw [diagnosed_append]
  exact List.prefix_append _ _

namespace World

variable {σ τ : Type}

/-! ### What is reported -/

/-- **The diagnostics reported so far**: those that were collected, or those in the log if
the sink writes there. -/
def reported (w : World σ) : List Diagnostic :=
  match w.engine.sink with
  | .log => w.log.toList.filterMap Notice.diagnostic?
  | .collect reported => reported

theorem reported_note {w : World σ} {notices : List Notice}
    (other : notices.filterMap Notice.diagnostic? = []) :
    (w.note notices).reported = w.reported := by
  unfold reported note
  cases w.engine.sink with
  | log => simp [List.filterMap_append, other]
  | collect reported => rfl

/-- A report is received, whichever the sink. -/
theorem reported_report (w : World σ) (d : Diagnostic) :
    (w.report d).reported = w.reported ++ [d] := by
  obtain ⟨engine, context, next, log, journal, own⟩ := w
  obtain ⟨registry, roster, settings, sink, running⟩ := engine
  cases sink with
  | log => simp [report, reported, note, DiagnosticSink.report, Notice.diagnostic?]
  | collect reported => rfl

/-- **Nothing that a listener does reports anything.** -/
theorem reported_perform (w : World σ) (c : Command σ) :
    (w.perform shut c).2.reported = w.reported := by
  cases c with
  | register listener declared =>
    refine reported_note ?_
    unfold Registry.registerNotice
    split <;> rfl
  | unregister listener declared =>
    refine reported_note ?_
    unfold Registry.unregisterNotice
    split <;> rfl
  | traverse target => rw [perform_traverse]
  | _ => rfl

theorem settings_perform (w : World σ) (c : Command σ) :
    (w.perform shut c).2.engine.settings = w.engine.settings := by
  cases c with
  | traverse target => rw [perform_traverse]
  | _ => rfl

theorem settings_meet (w : World σ) (step : Step) :
    (w.meet step).engine.settings = w.engine.settings := by
  obtain ⟨sink, same⟩ := engine_meet w step
  rw [same]

/-- A step that has a diagnostic brings it with it, if the settings have it reported. -/
theorem reported_meet (w : World σ) (step : Step) :
    (w.meet step).reported = w.reported ++ w.engine.settings.diagnosed [step] := by
  unfold meet Settings.diagnosed
  cases step with
  | unrecognized position node trail =>
    -- Taking the step down touches neither the settings nor what was reported.
    change World.reported (ite (w.engine.settings.reportUnrecognized = true) _ _) = _
    split
    · exact reported_report _ _
    · exact (List.append_nil _).symm
  -- An event is told to the listeners and not to the receiver of the diagnostics.
  | event e =>
    have silent : (if w.engine.settings.reportUnrecognized then
        [Step.event e].filterMap Step.diagnostic? else []) = [] := by
      split <;> rfl
    rw [silent, List.append_nil]
    dsimp only
    split
    · exact reported_note rfl
    · rfl

/-! ### What is reported, and what is announced -/

/-- **What was reported between two worlds is accounted for** by the steps that were announced
between them. The settings are still the same. -/
structure Accounted (w w' : World σ) : Prop where
  settings : w'.engine.settings = w.engine.settings
  reported : ∃ added, w'.steps = w.steps ++ added ∧
    w'.reported = w.reported ++ w.engine.settings.diagnosed added

/-- A change that announces nothing has to report nothing. -/
theorem accounted_of_eq {w w' : World σ} (settings : w'.engine.settings = w.engine.settings)
    (steps : w'.steps = w.steps) (reported : w'.reported = w.reported) : Accounted w w' := by
  have none : w.engine.settings.diagnosed [] = [] := by
    unfold Settings.diagnosed
    split <;> rfl
  refine ⟨settings, [], ?_, ?_⟩
  · rw [steps, List.append_nil]
  · rw [reported, none, List.append_nil]

theorem Accounted.trans {w w' w'' : World σ} (first : Accounted w w')
    (later : Accounted w' w'') : Accounted w w'' := by
  obtain ⟨settings, added, steps, told⟩ := first
  obtain ⟨settings', added', steps', told'⟩ := later
  refine ⟨settings'.trans settings, added ++ added', ?_, ?_⟩
  · rw [steps', steps, List.append_assoc]
  · -- The later steps are diagnosed under the same settings as the first.
    rw [told', told, settings, Settings.diagnosed_append, List.append_assoc]

/-- **All that happens in a traversal is accounted for.** -/
theorem maintained_accounted : Maintained (Accounted (σ := σ)) where
  refl w := accounted_of_eq rfl rfl rfl
  trans := Accounted.trans
  perform w c := accounted_of_eq (settings_perform w c) (respected_steps.perform w c)
    (reported_perform w c)
  called w listener e := accounted_of_eq rfl (respected_steps.called w listener e) rfl
  failed w listener kind cause := accounted_of_eq rfl rfl (reported_note rfl)
  told w listener boundary := accounted_of_eq rfl (respected_steps.told w listener boundary) rfl
  context w context := accounted_of_eq rfl rfl rfl
  meet w step := ⟨settings_meet w step, [step], steps_meet w step, reported_meet w step⟩
  opened w target := by
    refine accounted_of_eq rfl rfl (reported_note ?_)
    cases target <;> rfl
  closed w target total := by
    refine accounted_of_eq rfl rfl (reported_note ?_)
    cases target <;> rfl
  stopped w := accounted_of_eq rfl rfl rfl

/-! ### Two traversals -/

/-- **What one traversal adds**: the events that it fires, and the diagnostics it reports. -/
structure Adds (w w' : World σ) (fired : List Event) (told : List Diagnostic) : Prop where
  events : w'.events = w.events ++ fired
  reported : w'.reported = w.reported ++ told

/-- What a traversal adds comes from the first steps of its tour, and these are all of them if
it succeeds. -/
theorem traverse_adds (cast : Cast σ) (target : Target) (w : World σ) :
    ∃ announced,
      announced <+: target.steps w.engine.settings.descendIntoUnknown ∧
      Adds w (traverse cast target w).2 (eventsOf announced)
        (w.engine.settings.diagnosed announced) ∧
      ∀ summary, (traverse cast target w).1 = .ok summary →
        announced = target.steps w.engine.settings.descendIntoUnknown ∧
          summary = .ofSteps announced := by
  obtain ⟨announced, steps, early, outcome⟩ := steps_traverse cast target w
  obtain ⟨-, added, steps', told⟩ := maintained_accounted.traverse cast target w
  -- Both speak of the steps that were added to the same ones.
  obtain rfl : announced = added := List.append_cancel_left (steps.symm.trans steps')
  refine ⟨announced, early, ⟨?_, told⟩, fun summary success => ?_⟩
  · rw [events, steps]
    exact eventsOf_append _ _
  · rw [success] at outcome
    exact outcome

/-- **Listeners do not change the walk.** Take any two traversals that start from the same
roots under the same settings, with whatever listeners, registries, imports, receivers of
requests and states on either side. If both succeed, they fire the same events, each with
the same node and the same nodes around it, report the same diagnostics and come to the same
summary; if a listener ends one of them, what it fired and reported until then is how the
other begins. -/
theorem traverse_independent (cast : Cast σ) (cast' : Cast τ) (target target' : Target)
    (w : World σ) (w' : World τ) (roots : target.roots = target'.roots)
    (settings : w.engine.settings = w'.engine.settings) :
    ∃ fired told fired' told',
      Adds w (traverse cast target w).2 fired told ∧
      Adds w' (traverse cast' target' w').2 fired' told' ∧
      match (traverse cast target w).1, (traverse cast' target' w').1 with
      | .ok summary, .ok summary' => fired = fired' ∧ told = told' ∧ summary = summary'
      | .error (.callback _), .ok _ => fired <+: fired' ∧ told <+: told'
      | .ok _, .error (.callback _) => fired' <+: fired ∧ told' <+: told
      | .error (.callback _), .error (.callback _) =>
        (fired <+: fired' ∧ told <+: told') ∨ (fired' <+: fired ∧ told' <+: told)
      | _, _ => True := by
  obtain ⟨announced, early, adds, whole⟩ := traverse_adds cast target w
  obtain ⟨announced', early', adds', whole'⟩ := traverse_adds cast' target' w'
  -- The steps of a tour depend on its roots and on the settings, and on nothing else.
  have tours : target'.steps w'.engine.settings.descendIntoUnknown =
      target.steps w.engine.settings.descendIntoUnknown := by
    rw [Target.steps, Target.steps, roots, settings]
  rw [tours] at early' whole'
  rw [← settings] at adds'
  -- A beginning of the steps gives a beginning of the events and of the diagnostics.
  have follows {a b : List Step} (h : a <+: b) : eventsOf a <+: eventsOf b ∧
      w.engine.settings.diagnosed a <+: w.engine.settings.diagnosed b :=
    ⟨h.filterMap Step.event?, w.engine.settings.diagnosed_prefix h⟩
  refine ⟨_, _, _, _, adds, adds', ?_⟩
  generalize (traverse cast target w).1 = answer at whole
  generalize (traverse cast' target' w').1 = answer' at whole'
  cases answer with
  -- A success announces the whole tour, a failure a beginning of it.
  | ok summary =>
    obtain ⟨rfl, rfl⟩ := whole summary rfl
    cases answer' with
    | ok summary' =>
      obtain ⟨rfl, rfl⟩ := whole' summary' rfl
      exact ⟨rfl, rfl, rfl⟩
    | error failure =>
      cases failure with
      | callback cause => exact follows early'
      | violation v => trivial
  | error failure =>
    cases failure with
    | violation v => trivial
    | callback cause =>
      cases answer' with
      | ok summary' =>
        obtain ⟨rfl, -⟩ := whole' summary' rfl
        exact follows early
      | error failure' =>
        cases failure' with
        | callback cause' =>
          -- Both are beginnings of one tour.
          exact (List.prefix_or_prefix_of_prefix early early').imp follows follows
        | violation v => trivial

/-! ### A listener that meddles -/

namespace Meddling

/-- A member that no class should have. -/
def stray : Node := .node 0 .empty (.unknown "Record" [])

def method : Node := .node 1 .empty (.methodDecl "m" [] none none)

def root : Node := .node 2 .empty (.classDecl "C" [stray, method])

/-- A world in which nobody listens. -/
def quiet : World Unit := ⟨.new .default (.collect []), .empty, 3, #[], #[], ()⟩

def silent : Cast Unit := ⟨fun _ _ _ => .done (), fun _ _ => .done ()⟩

def meddler : Handle := ⟨0, "meddler"⟩

/-- A world in which one listener waits for methods. -/
def uneasy : World Nat :=
  ⟨{ Engine.new .default .log with
      registry := (Registry.empty.register meddler (some .methodDecl)).2 },
    .empty, 3, #[], #[], 0⟩

/-- The listener leaves, asks for another method in the place of the one it is called for, and
fails. -/
def meddling : Cast Nat where
  onEvent listener e _ :=
    .ask (.unregister listener (some .methodDecl)) fun _ =>
      .ask (.request e.node root) fun _ => .fail (.failed "enough")
  onBoundary _ _ := .done ()

theorem steps_root : (Target.declaration root []).steps false =
    [.event ⟨.enter, root, []⟩, .unrecognized .member stray [root],
      .event ⟨.enter, stray, [root]⟩, .event ⟨.exit, stray, [root]⟩,
      .event ⟨.enter, method, [root]⟩, .event ⟨.exit, method, [root]⟩,
      .event ⟨.exit, root, []⟩] := by
  rw [Target.steps, Target.roots, List.flatMap_singleton, root, stray, method]
  simp [tour_node, Shape.visits, Shape.slots, Shape.kind, Position.admits]

theorem traverse_quiet : (traverse silent (.declaration root []) quiet).1 = .ok ⟨3, 3, 1⟩ := by
  change (walk shut silent (.declaration root []) quiet).1 = _
  rw [walk_eq, show quiet.engine.settings.descendIntoUnknown = false from rfl, steps_root]
  rfl

theorem traverse_uneasy : (traverse meddling (.declaration root []) uneasy).1 =
    .error (.callback (.failed "enough")) := by
  change (walk shut meddling (.declaration root []) uneasy).1 = _
  rw [walk_eq, show uneasy.engine.settings.descendIntoUnknown = false from rfl, steps_root]
  rfl

end Meddling

open Meddling in
/-- Of two traversals of one class, nobody listens to the first, and the second ends at the method,
where its listener fails. What the second has announced is where the first began. -/
theorem traverse_independent_meddling :
    (traverse silent (.declaration root []) quiet).1 = .ok ⟨3, 3, 1⟩ ∧
    (traverse meddling (.declaration root []) uneasy).1 = .error (.callback (.failed "enough")) ∧
      ∃ fired told fired' told',
        Adds quiet (traverse silent (.declaration root []) quiet).2 fired told ∧
        Adds uneasy (traverse meddling (.declaration root []) uneasy).2 fired' told' ∧
        fired' <+: fired ∧ told' <+: told := by
  obtain ⟨fired, told, fired', told', adds, adds', early⟩ :=
    traverse_independent silent meddling (.declaration root []) (.declaration root [])
      quiet uneasy rfl rfl
  rw [traverse_quiet, traverse_uneasy] at early
  exact ⟨traverse_quiet, traverse_uneasy, fired, told, fired', told', adds, adds', early⟩

end World

end SyntaxTour
