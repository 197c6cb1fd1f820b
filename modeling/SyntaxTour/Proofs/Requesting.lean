import SyntaxTour.Proofs.Dispatch

/-!
# Requests made by listeners

Listeners request replacements while a traversal runs, and the context passes the requests on.
With a patch behind it, no request gets lost and none is recorded in part: an accepted request
stands at the end of the patch and is counted, a refused one leaves no trace, and nothing else
that a traversal or a listener does touches the patch or the count. This does not depend on how
the traversal ends, since it holds at every single call.

* `Asking` is one call for a replacement, with the world in which it is made. `World.askings`
  lists those of a traversal.
* `Opposed` says which two nodes a request must not bring together. `Asking.result_of_opposed` says
  that such a request is refused, and `Asking.result_of_fitting` that no other is.
* `Books` says that between two worlds there were these calls, and that nothing else happened to
  the patch and to the count. `books_run` follows it through programs, `books_traverse` through
  traversals.
* `World.traverse_requests` is the statement about traversals.
-/

namespace SyntaxTour

/-- **One node for a statement, the other for an expression.** -/
def Opposed (old new : Node) : Prop :=
  (old.category.family? = some .statement ∧ new.category.family? = some .expression) ∨
    (old.category.family? = some .expression ∧ new.category.family? = some .statement)

/-- Opposed nodes do not pass the check, and all others do. -/
theorem checkReplacement_of_opposed {old new : Node} (opposed : Opposed old new) :
    checkReplacement old new = .error (.familyMismatch old.kind new.kind) := by
  unfold checkReplacement
  rcases opposed with ⟨first, second⟩ | ⟨first, second⟩
  · rw [first, second]
    rfl
  · rw [first, second]
    rfl

theorem checkReplacement_of_fitting {old new : Node} (fitting : ¬ Opposed old new) :
    checkReplacement old new = .ok () := by
  unfold checkReplacement
  split
  · next f g first second =>
    split
    · rfl
    · next different =>
      -- There are two families only.
      refine absurd ?_ fitting
      rw [Opposed, first, second]
      cases f <;> cases g <;> simp at different ⊢
  · rfl

/-! ### One call -/

/-- **One call for a replacement**, and the world in which it is made. -/
structure Asking (σ : Type) where
  old : Node
  new : Node
  before : World σ

namespace Asking

variable {σ : Type} (a : Asking σ)

/-- What the listener is told. -/
def answer : Except Refusal Unit :=
  (a.before.perform World.shut (.request a.old a.new)).1

/-- The world that the call leaves. -/
def after : World σ :=
  (a.before.perform World.shut (.request a.old a.new)).2

/-- The request that is made if the call is accepted. -/
def request : Request := ⟨a.old, a.new⟩

variable {a} {p : Patch} (forwards : a.before.context.outlet = .patch p)

include forwards

/-- **A call that brings opposed nodes together is refused**, and nothing changes. -/
theorem result_of_opposed (opposed : Opposed a.old a.new) :
    a.answer = .error (.familyMismatch a.old.kind a.new.kind) ∧ a.after = a.before := by
  have refused : p.request a.old a.new = .error (.familyMismatch a.old.kind a.new.kind) := by
    rw [Patch.request, checkReplacement_of_opposed opposed]
    rfl
  unfold answer after World.perform Context.request
  dsimp only
  rw [forwards]
  dsimp only
  rw [refused]
  exact ⟨rfl, rfl⟩

/-- **Any other call is accepted**: it is the last request of the patch, and is counted. -/
theorem result_of_fitting (fitting : ¬ Opposed a.old a.new) :
    a.answer = .ok () ∧ a.after.context.outlet = .patch ⟨p.requests ++ [a.request]⟩ ∧
      a.after.context.accepted = a.before.context.accepted + 1 := by
  have accepted : p.request a.old a.new = .ok ⟨p.requests ++ [a.request]⟩ := by
    rw [Patch.request, checkReplacement_of_fitting fitting]
    rfl
  unfold answer after World.perform Context.request
  dsimp only
  rw [forwards]
  dsimp only
  rw [accepted]
  exact ⟨rfl, rfl, rfl⟩

end Asking

/-- The requests of the calls that were accepted, in the order of the calls. -/
def granted {σ : Type} (calls : List (Asking σ)) : List Request :=
  (calls.filter fun a => a.answer.isOk).map Asking.request

/-! ### The calls between two worlds -/

section

variable {σ : Type} {w w₁ w₂ : World σ} {calls later : List (Asking σ)}

/-- The patch and the count are the same in both worlds. -/
structure SameBooks (w w₁ : World σ) : Prop where
  outlet : w₁.context.outlet = w.context.outlet
  accepted : w₁.context.accepted = w.context.accepted

/-- **The calls between two worlds**, each made in a world with the patch and the count that the
call before has left. -/
inductive Books : World σ → List (Asking σ) → World σ → Prop where
  | quiet {w w₁ : World σ} : SameBooks w w₁ → Books w [] w₁
  | call {w w₁ : World σ} {a : Asking σ} {calls : List (Asking σ)} :
    SameBooks w a.before → Books a.after calls w₁ → Books w (a :: calls) w₁

namespace Books

theorem of_context (same : w₁.context = w.context) : Books w [] w₁ :=
  .quiet ⟨congrArg Context.outlet same, congrArg Context.accepted same⟩

theorem append (first : Books w calls w₁) (second : Books w₁ later w₂) :
    Books w (calls ++ later) w₂ := by
  induction first with
  | quiet same =>
    -- What is quiet at first does not count as a call.
    cases second with
    | quiet same' =>
      exact .quiet ⟨same'.outlet.trans same.outlet, same'.accepted.trans same.accepted⟩
    | call same' second =>
      exact .call ⟨same'.outlet.trans same.outlet, same'.accepted.trans same.accepted⟩ second
  | call same _ ih => exact .call same (ih second)

/-- What leaves the context alone makes no difference, neither before the calls nor after. -/
theorem begun (books : Books w₁ calls w₂) (same : w₁.context = w.context) : Books w calls w₂ :=
  (of_context same).append books

theorem ended (books : Books w calls w₁) (same : w₂.context = w₁.context) : Books w calls w₂ := by
  have whole := books.append (of_context same)
  rw [List.append_nil] at whole
  exact whole

/-- The calls before a call lead to the world in which it is made. -/
theorem earlier {a : Asking σ} (books : Books w (calls ++ a :: later) w₁) :
    Books w calls a.before := by
  generalize split : calls ++ a :: later = all at books
  induction books generalizing calls with
  | quiet => exact absurd split (List.append_ne_nil_of_right_ne_nil _ (List.cons_ne_nil _ _))
  | call same _ ih =>
    cases calls with
    | nil =>
      obtain ⟨rfl, -⟩ := List.cons.inj split
      exact .quiet same
    | cons b calls =>
      obtain ⟨rfl, rest⟩ := List.cons.inj split
      exact .call same (ih rest)

/-- **The patch and the count keep the books**: what was accepted was added, and nothing else. -/
theorem patch {p : Patch} (books : Books w calls w₁) (forwards : w.context.outlet = .patch p) :
    w₁.context.outlet = .patch ⟨p.requests ++ granted calls⟩ ∧
      w₁.context.accepted = w.context.accepted + (granted calls).length := by
  -- By the calls: the patch is that of the calls that were granted so far.
  induction books generalizing p with
  | quiet same =>
    refine ⟨?_, same.accepted⟩
    rw [same.outlet, forwards]
    exact congrArg (fun requests => Outlet.patch ⟨requests⟩) (List.append_nil _).symm
  | @call w w₁ a calls same _ ih =>
    have here : a.before.context.outlet = .patch p := same.outlet.trans forwards
    by_cases opposed : Opposed a.old a.new
    · -- Refused: the call is not among those that were granted.
      obtain ⟨answer, after⟩ := Asking.result_of_opposed here opposed
      have none : granted (a :: calls) = granted calls := by
        unfold granted
        rw [List.filter_cons_of_neg (by rw [answer]; exact Bool.false_ne_true)]
      obtain ⟨outlet, accepted⟩ := ih ((congrArg (·.context.outlet) after).trans here)
      rw [none]
      refine ⟨outlet, ?_⟩
      rw [accepted, after, same.accepted]
    · -- Granted: the request is the next one in the patch and is counted.
      obtain ⟨answer, outlet, accepted⟩ := Asking.result_of_fitting here opposed
      have first : granted (a :: calls) = a.request :: granted calls := by
        unfold granted
        rw [List.filter_cons_of_pos (by rw [answer]; rfl), List.map_cons]
      obtain ⟨outlet', accepted'⟩ := ih outlet
      rw [first]
      constructor
      · rw [outlet', List.append_assoc]
        rfl
      · rw [accepted', accepted, same.accepted, List.length_cons]
        omega

end Books

end

/-! ### The calls of programs and traversals -/

/-- The call for a replacement, if the command is one. -/
def Command.asking? {σ : Type} (w : World σ) : Command σ → Option (Asking σ)
  | .request old new => some ⟨old, new, w⟩
  | _ => none

namespace World

variable {σ ε α : Type}

/-- **The calls that a program makes**, in order, when it is run in a world. -/
def askingsOf : Program σ ε α → World σ → List (Asking σ)
  | .done _, _ => []
  | .fail _, _ => []
  | .ask c next, w =>
    (c.asking? w).toList ++ askingsOf (next (w.perform shut c).1) (w.perform shut c).2

theorem books_perform (w : World σ) (c : Command σ) :
    Books w (c.asking? w).toList (w.perform shut c).2 := by
  cases c with
  | request old new => exact .call ⟨rfl, rfl⟩ (.of_context rfl)
  | setMemory memory => exact .quiet ⟨rfl, rfl⟩
  | traverse target =>
    rw [perform_traverse]
    exact .of_context rfl
  | _ => exact .of_context rfl

/-- **Programs keep the books.** -/
theorem books_run (p : Program σ ε α) (w : World σ) :
    Books w (askingsOf p w) (run shut p w).2 := by
  induction p generalizing w with
  | done a => exact .of_context rfl
  | fail e => exact .of_context rfl
  | ask c next ih => exact (books_perform w c).append (ih _ _)

end World

section

variable {σ : Type} (cast : Cast σ) (imports : Imports)

/-- The calls that a listener makes when it is called. -/
def Callback.askings (c : Callback σ) : List (Asking σ) :=
  World.askingsOf (cast.onEvent c.listener c.event imports) (c.before.record c.entry)

/-- The calls that are made for an event. -/
def Dispatch.askings (d : Dispatch σ) : List (Asking σ) :=
  d.callbacks.flatMap (Callback.askings cast imports)

namespace World

/-- **The calls of a traversal** for replacements, in order. Boundary listeners have no part in
its context, and so they make none. -/
def askings (target : Target) (w : World σ) : List (Asking σ) :=
  (dispatches cast target w).flatMap (Dispatch.askings cast target.imports)

theorem books_call (c : Callback σ) :
    Books c.before (c.askings cast imports)
      ((call shut cast c.event imports c.listener).run.run c.before).2 := by
  -- Before the program the callback is taken down, and after it there may be a line in the log.
  have program : Books c.before (c.askings cast imports) (c.outcome cast imports).2 :=
    (books_run (cast.onEvent c.listener c.event imports) (c.before.record c.entry)).begun rfl
  unfold Callback.outcome at program
  unfold call
  dsimp only [ExceptT.run, ExceptT.mk, StateT.run]
  rw [show Entry.called c.listener c.event = c.entry from rfl]
  generalize run shut (cast.onEvent c.listener c.event imports) _ = ran at program
  match ran with
  | (.ok (), w) => exact program
  | (.error cause, w) =>
    have noted : (w.note [.callbackFailed c.listener.name c.event.node.kind cause]).context =
      w.context := rfl
    exact program.ended noted

theorem books_forM_call (e : Event) (listeners : List Handle) (w : World σ) :
    Books w ((callbacks cast imports e listeners w).flatMap (Callback.askings cast imports))
      ((listeners.forM (call shut cast e imports)).run.run w).2 := by
  induction listeners generalizing w with
  | nil => exact .of_context rfl
  | cons listener listeners ih =>
    have first := books_call cast imports ⟨listener, e, w⟩
    dsimp only at first
    rw [run_forM_cons, callbacks, List.flatMap_cons]
    generalize (call shut cast e imports listener).run.run w = ran at first
    obtain ⟨ended, w₁⟩ := ran
    cases ended with
    | ok _ => exact first.append (ih w₁)
    | error cause => exact first.append (.of_context rfl)

/-- Taking a step down leaves the context alone. -/
theorem context_meet (w : World σ) (step : Step) : (w.meet step).context = w.context := by
  unfold meet report
  cases step with
  | unrecognized position node trail =>
    dsimp only
    split
    · split <;> rfl
    · rfl
  | event e =>
    dsimp only
    split <;> rfl

theorem books_announce (e : Event) (w : World σ) :
    Books w ((dispatch cast imports e w).askings cast imports)
      ((announce shut cast imports (.event e)).run.run w).2 := by
  rw [run_announce_event]
  exact (books_forM_call cast imports e _ _).begun (context_meet w (.event e))

theorem books_forM_announce (steps : List Step) (w : World σ) :
    Books w ((dispatchesOf cast imports steps w).flatMap (Dispatch.askings cast imports))
      ((steps.forM (announce shut cast imports)).run.run w).2 := by
  induction steps generalizing w with
  | nil => exact .of_context rfl
  | cons step steps ih =>
    rw [run_forM_cons, dispatchesOf, List.flatMap_append]
    cases step with
    | unrecognized position node trail =>
      -- Nobody is called for an unrecognized node.
      rw [run_announce_unrecognized]
      exact (ih _).begun (context_meet w _)
    | event e =>
      have here := books_announce cast imports e w
      rw [show (Step.event e).event? = some e from rfl, Option.map_some, Option.toList_some,
        List.flatMap_singleton]
      generalize (announce shut cast imports (.event e)).run.run w = ran at here
      obtain ⟨ended, w₁⟩ := ran
      cases ended with
      | ok _ => exact here.append (ih w₁)
      -- The row ends here, but the calls of the callback that failed have been made.
      | error cause => exact here.append (.of_context rfl)

theorem context_tellAll (boundary : Boundary) (w : World σ) :
    (w.tellAll shut cast boundary).context = w.context := by
  rw [tellAll_eq_foldl]
  generalize w.engine.roster.members = members
  induction members generalizing w with
  | nil => rfl
  | cons listener members ih => exact ih (w.tell shut cast boundary listener)

/-- **Traversals keep the books**, whatever their outcome. -/
theorem books_traverse (target : Target) (w : World σ) :
    Books w (askings cast target w) (traverse cast target w).2 := by
  unfold traverse enter askings dispatches
  cases w.engine.admission target with
  -- Refused: no call was made.
  | error v => exact .of_context rfl
  | ok _ =>
    dsimp only
    rw [walk_eq]
    dsimp only
    unfold opened
    -- The boundary listeners come before the steps and after them.
    have told : (((w.setRunning true).note [target.notice]).tellAll shut cast .begin).context =
        w.context := context_tellAll cast .begin _
    have announced := (books_forM_announce cast target.imports
      (target.steps w.engine.settings.descendIntoUnknown) _).begun told
    generalize ((target.steps w.engine.settings.descendIntoUnknown).forM
      (announce shut cast target.imports)).run.run _ = ran at announced ⊢
    match ran with
    | (.error cause, w₁) =>
      have stopped : (w₁.setRunning false).context = w₁.context := rfl
      exact announced.ended stopped
    | (.ok (), w₁) =>
      refine announced.ended ?_
      exact context_tellAll cast .finish w₁

/-- **Requests are neither lost nor recorded in part.** Let the context of a traversal pass
requests on to a patch. Whatever the listeners do, and however the traversal ends, the patch
holds afterwards what it held before, followed by the requests of exactly those calls that were
accepted, unchanged and in the order of the calls, and as many more are counted. So it stands
already at each of the calls, with the calls before it. A call is refused if and only if it
brings a node for a statement and one for an expression together, and then it leaves the world
as it is. -/
theorem traverse_requests (target : Target) (w : World σ) {p : Patch}
    (forwards : w.context.outlet = .patch p) :
    let calls := askings cast target w
    let after := (traverse cast target w).2.context
    after.outlet = .patch ⟨p.requests ++ granted calls⟩ ∧
    after.accepted = w.context.accepted + (granted calls).length ∧
    ∀ earlier a later, calls = earlier ++ a :: later →
      a.before.context.outlet = .patch ⟨p.requests ++ granted earlier⟩ ∧
      a.before.context.accepted = w.context.accepted + (granted earlier).length ∧
      (a.answer = .error (.familyMismatch a.old.kind a.new.kind) ↔ Opposed a.old a.new) ∧
      (¬ Opposed a.old a.new → a.answer = .ok ()) ∧
      (Opposed a.old a.new → a.after = a.before) := by
  intro calls after
  have books := books_traverse cast target w
  obtain ⟨outlet, accepted⟩ := books.patch forwards
  refine ⟨outlet, accepted, fun earlier a later split => ?_⟩
  -- The calls before this one are a log of their own, up to the world in which it is made.
  have before : Books w earlier a.before := by
    rw [show askings cast target w = earlier ++ a :: later from split] at books
    exact books.earlier
  obtain ⟨outlet', accepted'⟩ := before.patch forwards
  refine ⟨outlet', accepted', ⟨fun refused => ?_, fun opposed => ?_⟩, fun fitting => ?_,
    fun opposed => ?_⟩
  · -- Refused means opposed, since a fitting request is answered differently.
    by_contra fitting
    have answer := (Asking.result_of_fitting outlet' fitting).1
    exact nomatch refused.symm.trans answer
  · exact (Asking.result_of_opposed outlet' opposed).1
  · exact (Asking.result_of_fitting outlet' fitting).1
  · exact (Asking.result_of_opposed outlet' opposed).2

end World

end

namespace World

/-! ### A listener that is refused and fails later -/

namespace Persisting

def name : Node := .node 0 .empty (.ident "x")

def method : Node := .node 1 .empty (.methodDecl "m" [] none none)

def block : Node := .node 2 .empty (.block false [])

def root : Node := .node 3 .empty (.classDecl "C" [])

def target : Target := .declaration root []

def persistent : Handle := ⟨0, "persistent"⟩

/-- A request that was made before. -/
def patch : Patch := ⟨[⟨block, method⟩]⟩

/-- A world in which one listener waits for classes. -/
def world : World Unit :=
  ⟨{ Engine.new .default .log with
      registry := (Registry.empty.register persistent (some .classDecl)).2 },
    ⟨.patch patch, 1, .empty⟩, 4, #[], #[], ()⟩

/-- The listener asks for a name in the place of the class, which is refused, and goes on to ask
for a method and a block. When the class is left, it fails. -/
def persisting : Cast Unit where
  onEvent _ e _ :=
    match e.phase with
    | .enter =>
      .ask (.request root method) fun _ =>
        .ask (.request root name) fun _ =>
          .ask (.request root block) fun _ => .done ()
    | .exit => .fail (.failed "enough")
  onBoundary _ _ := .done ()

theorem traverse_root :
    (traverse persisting target world).1 = .error (.callback (.failed "enough")) := by
  change (walk shut persisting target world).1 = _
  rw [walk_eq, target, root, steps_bare_class]
  rfl

theorem granted_root :
    granted (askings persisting target world) = [⟨root, method⟩, ⟨root, block⟩] := by
  rw [askings, dispatches, target, root, steps_bare_class]
  rfl

end Persisting

open Persisting in
/-- There is a request already, two more are granted and one is refused in between, and then the
listener fails. The patch keeps all that was granted. -/
theorem traverse_requests_persisting :
    world.context.outlet = .patch patch ∧
    (traverse persisting target world).1 = .error (.callback (.failed "enough")) ∧
    (traverse persisting target world).2.context.outlet =
      .patch ⟨[⟨block, method⟩, ⟨root, method⟩, ⟨root, block⟩]⟩ ∧
    (traverse persisting target world).2.context.accepted = 3 := by
  obtain ⟨outlet, accepted, -⟩ := traverse_requests persisting target world (p := patch) rfl
  rw [granted_root] at outlet accepted
  exact ⟨rfl, traverse_root, outlet, accepted⟩

end World

end SyntaxTour
