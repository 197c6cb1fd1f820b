import SyntaxTour.Proofs.Parallel

/-!
# Frames in the log

A traversal writes a line to the log when it begins, and some write one when they are over. These
lines frame what is in between, which has nothing to do with them: listeners cannot read the log,
and neither does anything else depend on it.

* `Notice.isFrame` tells these lines from the others.
* `World.unframed` is a world without them, and `World.parallel_unframed` says that worlds which
  differ in frames only stay so.
* `World.run_steps_of_unframed` is what this means for a row of steps.
-/

namespace SyntaxTour

/-- Whether the notice is about a traversal as a whole, which begins or is over. -/
def Notice.isFrame : Notice → Bool
  | .traversingClass _ | .traversingFile .. | .finished .. => true
  | _ => false

namespace Target

theorem isFrame_notice (target : Target) : target.notice.isFrame = true := by
  cases target <;> rfl

theorem isFrame_of_mem_closing (target : Target) (total : Summary) :
    ∀ notice ∈ target.closing total, notice.isFrame = true := by
  cases target with
  | declaration root imports => exact List.forall_mem_singleton.2 rfl
  | file f => exact fun notice mem => nomatch mem

end Target

namespace Registry

theorem isFrame_registerNotice (listener : Handle) (declared : Option Kind) (added : Bool) :
    (registerNotice listener declared added).isFrame = false := by
  cases added <;> rfl

theorem isFrame_of_mem_unregisterNotice (listener : Handle) (declared : Option Kind)
    (removed : Bool) :
    ∀ notice ∈ unregisterNotice listener declared removed, notice.isFrame = false := by
  cases removed with
  | false => exact fun notice mem => nomatch mem
  | true => exact List.forall_mem_singleton.2 rfl

end Registry

namespace World

variable {σ : Type}

/-! ### Worlds without frames -/

/-- **A world without the lines that frame traversals in the log.** -/
def unframed (w : World σ) : World σ :=
  { w with log := w.log.filter fun notice => !notice.isFrame }

theorem unframed_note (w : World σ) (notices : List Notice) :
    (w.note notices).unframed = w.unframed.note (notices.filter fun notice => !notice.isFrame) := by
  unfold unframed note
  congr 1
  exact Array.ext' (by simp)

/-- Frames leave a world as it is without them. -/
theorem unframed_note_of_frames (w : World σ) {notices : List Notice}
    (frames : ∀ notice ∈ notices, notice.isFrame = true) :
    (w.note notices).unframed = w.unframed := by
  rw [unframed_note, List.filter_eq_nil_iff.2 fun notice mem => by rw [frames notice mem]; decide]
  unfold note
  congr 1

/-- The line at the beginning of a traversal is a frame. -/
theorem unframed_opened (target : Target) (w : World σ) :
    (w.opened target).unframed = (w.setRunning true).unframed :=
  unframed_note_of_frames (w.setRunning true) (List.forall_mem_singleton.2 target.isFrame_notice)

/-- Lines of all other sorts are written to a world without frames alike. -/
theorem note_unframed (w : World σ) {notices : List Notice}
    (plain : ∀ notice ∈ notices, notice.isFrame = false) :
    w.unframed.note notices = (w.note notices).unframed := by
  rw [unframed_note, List.filter_eq_self.2 fun notice mem => by rw [plain notice mem]; rfl]

/-- Commands write no frames and read none. -/
theorem perform_unframed (w : World σ) (c : Command σ) :
    w.unframed.perform shut c = Prod.map id unframed (w.perform shut c) := by
  cases c with
  | register listener declared =>
    let answer := w.engine.registry.register listener declared
    exact Prod.ext rfl (note_unframed { w with engine := { w.engine with registry := answer.2 } }
      (List.forall_mem_singleton.2 (Registry.isFrame_registerNotice listener declared answer.1)))
  | unregister listener declared =>
    let answer := w.engine.registry.unregister listener declared
    exact Prod.ext rfl (note_unframed { w with engine := { w.engine with registry := answer.2 } }
      (Registry.isFrame_of_mem_unregisterNotice listener declared answer.1))
  | traverse target =>
    change enter shut target w.unframed = Prod.map id unframed (enter shut target w)
    unfold enter
    rw [show w.unframed.engine = w.engine from rfl]
    split <;> rfl
  | _ => rfl

theorem report_unframed (w : World σ) (d : Diagnostic) :
    w.unframed.report d = (w.report d).unframed := by
  unfold report
  rw [show w.unframed.engine = w.engine from rfl]
  cases sink : w.engine.sink with
  | log =>
    have line : w.unframed.note [.diagnostic d] = (w.note [.diagnostic d]).unframed :=
      note_unframed w (List.forall_mem_singleton.2 rfl)
    dsimp only
    rw [line]
    rfl
  | collect reported => rfl

/-- Meeting a step may write a line to the log, but no frame. -/
theorem meet_unframed (w : World σ) (step : Step) :
    w.unframed.meet step = (w.meet step).unframed := by
  unfold meet
  cases step with
  | unrecognized position node trail =>
    dsimp only
    rw [apply_ite unframed]
    exact ite_congr rfl (fun _ => report_unframed (w.record _) _) fun _ => rfl
  | event e =>
    dsimp only
    rw [apply_ite unframed]
    exact ite_congr rfl (fun _ => note_unframed (w.record _) (List.forall_mem_singleton.2 rfl))
      fun _ => rfl

/-- **Worlds that differ in frames stay so**, and no reply shows a difference. -/
theorem parallel_unframed :
    Parallel (fun _ => Eq) fun u v : World σ => u.unframed = v.unframed where
  registry same := congrArg (·.engine.registry) same
  roster same := congrArg (·.engine.roster) same
  -- A command is performed in a world without frames as in the world itself.
  perform {u v} same c := by
    have alike : Prod.map id unframed (u.perform shut c) =
        Prod.map id unframed (v.perform shut c) := by
      rw [← perform_unframed, same, perform_unframed]
    exact Prod.mk.inj alike
  setOwn {u v own own'} same kept := by
    have kept : own = own' := kept
    rw [kept]
    exact congrArg (fun w : World σ => { w with own := own' }) same
  record same entry := congrArg (·.record entry) same
  -- A failing callback is noted at once; that notice is no frame.
  failed {u v} same listener kind cause := by
    have plain : ∀ notice ∈ [Notice.callbackFailed listener kind cause],
        notice.isFrame = false := List.forall_mem_singleton.2 rfl
    rw [← note_unframed u plain, same, note_unframed v plain]
  meet {u v} same step := by rw [← meet_unframed, same, meet_unframed]
  aside same := congrArg (fun w : World σ => { w with context := .empty }) same
  back {u v _ _} same same₁ := by
    have context : u.unframed.context = v.unframed.context := congrArg World.context same
    rw [show u.context = v.context from context]
    exact congrArg (fun w : World σ => { w with context := v.context }) same₁

/-- Worlds that differ in frames go through the same steps in the same way. -/
theorem run_steps_of_unframed (cast : Cast σ) (imports : Imports) {u v : World σ}
    (same : u.unframed = v.unframed) (steps : List Step) :
    Prod.map id unframed ((steps.forM (announce shut cast imports)).run.run u) =
      Prod.map id unframed ((steps.forM (announce shut cast imports)).run.run v) := by
  have each (step : Step) {u v : World σ} (same : u.unframed = v.unframed) :=
    parallel_unframed.announce cast.indifferent imports step same
  obtain ⟨answer, worlds⟩ := both_forM each steps same
  exact Prod.ext answer worlds

end World

end SyntaxTour
