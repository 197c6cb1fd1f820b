import SyntaxTour.Proofs.Passage

/-!
# What a traversal leaves in the journal

The journal of a world tells what happened, and among it the steps that were announced. A
listener cannot write to it: whatever it does is a program over commands, and no command
does so. The steps that a traversal leaves there are therefore those it announced, and they
depend on the listeners in one way only: a listener that fails cuts them short.

* `World.steps` is what was announced so far.
* `World.upheld_journal` says that programs leave the journal alone, `World.respected_steps`
  that listeners add no steps, and `World.steps_announce` that announcing a step adds this
  step, whether or not a listener fails.
* `World.steps_traverse` says which steps a traversal announces, for each of its outcomes.
-/

namespace SyntaxTour

/-- The announced step, if the entry tells of one. -/
def Entry.step? : Entry → Option Step
  | .step s => some s
  | _ => none

namespace World

variable {σ ε α : Type}

/-- The steps announced so far. -/
def steps (w : World σ) : List Step := w.journal.toList.filterMap Entry.step?

theorem steps_of_journal {w w' : World σ} (same : w'.journal = w.journal) :
    w'.steps = w.steps := by
  rw [steps, same, ← steps]

theorem steps_record (w : World σ) (entry : Entry) :
    (w.record entry).steps = w.steps ++ entry.step?.toList := by
  rw [steps, record, Array.toList_push, List.filterMap_append, ← steps]
  cases entry <;> rfl

@[simp] theorem journal_report (w : World σ) (d : Diagnostic) :
    (w.report d).journal = w.journal := by
  rw [report]
  split <;> rfl

/-! ### Listeners leave the steps alone -/

/-- No command writes to the journal, while traversals that are asked for do not start. -/
theorem journal_perform (w : World σ) (c : Command σ) :
    (w.perform shut c).2.journal = w.journal := by
  cases c with
  | traverse target => rw [perform_traverse]
  | _ => rfl

/-- **Programs leave the journal alone.** -/
theorem upheld_journal : Upheld fun w w' : World σ => w'.journal = w.journal where
  refl _ := rfl
  trans first later := later.trans first
  perform := journal_perform

/-- **Listeners add no steps**: what goes into the journal around a callback is no step. -/
theorem respected_steps : Respected fun w w' : World σ => w'.steps = w.steps where
  refl _ := rfl
  trans first later := later.trans first
  perform w c := steps_of_journal (upheld_journal.perform w c)
  called w listener e := by
    rw [steps_record]
    exact List.append_nil _
  failed _ _ _ _ := rfl
  told w listener boundary := by
    rw [steps_record]
    exact List.append_nil _
  context _ _ := rfl

/-! ### Announcing -/

/-- A step is taken down before anyone is called, and nothing else is. -/
theorem journal_meet (w : World σ) (step : Step) :
    (w.meet step).journal = (w.record (.step step)).journal := by
  unfold meet
  cases step with
  | unrecognized position node trail =>
    -- A diagnostic goes to its sink, which is not the journal.
    dsimp only
    split
    · exact journal_report _ _
    · rfl
  | event e =>
    dsimp only
    split <;> rfl

theorem steps_meet (w : World σ) (step : Step) : (w.meet step).steps = w.steps ++ [step] :=
  (steps_of_journal (journal_meet w step)).trans (steps_record w _)

variable (cast : Cast σ) (imports : Imports)

/-- **Announcing a step adds it to the steps**, whether or not a listener fails. -/
theorem steps_announce (step : Step) (w : World σ) :
    ((announce shut cast imports step).run.run w).2.steps = w.steps ++ [step] := by
  refine Eq.trans ?_ (steps_meet w step)
  cases step with
  | unrecognized position node trail => rfl
  | event e =>
    rw [run_announce_event]
    exact respected_steps.forM (respected_steps.call cast imports e) _ _

/-- Announcing a list of steps adds them up to the first at which a listener fails. -/
theorem steps_forM_announce (steps : List Step) (w : World σ) :
    ∃ done left, steps = done ++ left ∧
      ((steps.forM (announce shut cast imports)).run.run w).2.steps = w.steps ++ done ∧
      (((steps.forM (announce shut cast imports)).run.run w).1.isOk → left = []) := by
  -- By the steps left: each is taken down before any listener hears of it.
  induction steps generalizing w with
  | nil => exact ⟨[], [], rfl, (List.append_nil _).symm, fun _ => rfl⟩
  | cons step steps ih =>
    have here := steps_announce cast imports step w
    rw [run_forM_cons]
    split
    · next w' same =>
      rw [same] at here
      obtain ⟨done, left, split, added, whole⟩ := ih w'
      refine ⟨step :: done, left, by rw [split]; rfl, ?_, whole⟩
      rw [added, here, List.append_assoc]
      rfl
    · next same =>
      -- The step at which a listener fails was announced; the others are left.
      rw [same] at here
      exact ⟨[step], steps, rfl, here, fun ok => nomatch ok⟩

/-! ### Whole traversals -/

/-- **The steps of a traversal** are the first steps of its tour. One that succeeds announces
all of them and counts them, and one that is not admitted announces none. -/
theorem steps_traverse (target : Target) (w : World σ) :
    ∃ announced,
      (traverse cast target w).2.steps = w.steps ++ announced ∧
      announced <+: target.steps w.engine.settings.descendIntoUnknown ∧
      match (traverse cast target w).1 with
      | .ok summary =>
        announced = target.steps w.engine.settings.descendIntoUnknown ∧
          summary = .ofSteps announced
      | .error (.callback _) => True
      | .error (.violation _) => announced = [] := by
  unfold traverse enter
  split
  -- Refused: nothing was announced.
  · exact ⟨[], (List.append_nil _).symm, List.nil_prefix, rfl⟩
  rw [walk_eq]
  dsimp only
  generalize target.steps w.engine.settings.descendIntoUnknown = steps
  -- Telling of the beginning announces no step.
  have begun : (((w.setRunning true).note [target.notice]).tellAll shut cast .begin).steps =
      w.steps := respected_steps.tellAll cast .begin _
  generalize ((w.setRunning true).note [target.notice]).tellAll shut cast .begin = w₁ at begun
  obtain ⟨done, left, whole, added, ok⟩ := steps_forM_announce cast target.imports steps w₁
  refine ⟨done, ?_⟩
  rw [begun] at added
  generalize (steps.forM (announce shut cast target.imports)).run.run w₁ = ran at added ok
  -- A failure leaves the rest of the steps unannounced, a success nothing.
  match ran with
  | (.error cause, w₂) => exact ⟨added, ⟨left, whole.symm⟩, trivial⟩
  | (.ok (), w₂) =>
    have finished : done = steps := by rw [whole, ok rfl, List.append_nil]
    refine ⟨(respected_steps.tellAll cast .finish w₂).trans added, ⟨left, whole.symm⟩, finished, ?_⟩
    rw [finished]

end World

end SyntaxTour
