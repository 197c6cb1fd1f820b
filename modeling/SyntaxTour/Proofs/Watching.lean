import SyntaxTour.Proofs.Independence
import SyntaxTour.Proofs.Parallel

/-!
# Watching a traversal

Two of the switches are for those who watch from outside: one has unrecognized nodes reported, the
other has the events written to the log. Nothing that a traversal does depends on them. So two
worlds that differ only in who watches, and in what was seen so far, stay so.

A listener can ask how the engine is set up. It may write down the answer and look at it again, but
of a listener that acts on it nothing can be said. So the core of what the listeners keep for
themselves is what they act on, and it has to stay the same whoever watches.

* `Command.Near` says which replies differ in who watches only. Listeners have to be indifferent to
  that, and receivers have to be `Outlet.Discreet`.
* `World.Agree` is the relation between the two worlds, and `World.Agree.traverse` says that a
  traversal respects it.
* `World.traced` is what was written about events. `World.Watched` says what there is to be seen of
  a traversal, and `World.watched_traverse` says it of all of them.
* `World.traverse_watched` compares two traversals that are watched differently, and
  `World.spied_traverse` has a listener that acts on what it sees.
-/

namespace SyntaxTour

/-- Whether the notice is written whether anyone watches or not. -/
def Notice.isPlain : Notice → Bool
  | .event .. | .diagnostic _ => false
  | _ => true

/-- An engine that nobody watches. -/
def Engine.unwatched (e : Engine) : Engine :=
  { e with
    settings := { e.settings with reportUnrecognized := false, traceEvents := false }
    sink := .log }

section

variable {σ τ : Type} (core : σ → τ)

/-- **Replies that differ in who watches only.** Nothing but a look at the engine shows that, or a
look at what was written down before, apart from the core of it. -/
def Command.Near : (c : Command σ) → c.Reply → c.Reply → Prop
  | .engine => fun e e' : Engine => e.unwatched = e'.unwatched
  | .own => fun own own' : σ => core own = core own'
  | .register .. | .unregister .. | .enroll _ | .dismiss _ | .traverse _ | .request .. | .accepted
  | .memory | .setMemory _ | .fresh | .setOwn _ => Eq

/-- **A receiver that looks at the core only**, for its answers and for the core that it leaves. A
patch looks at nothing. -/
def Outlet.Discreet : Outlet σ → Prop
  | .patch _ => True
  | .receiver receive => ∀ old new own own', core own = core own' →
    (receive old new own).1 = (receive old new own').1 ∧
      core (receive old new own).2 = core (receive old new own').2

end

namespace Context

variable {σ τ : Type} {core : σ → τ} {c : Context σ}

/-- Requests have the same effect as far as the core goes. -/
theorem request_of_core_eq (discreet : c.outlet.Discreet core) (old new : Node) {own own' : σ}
    (same : core own = core own') :
    (c.request old new own).1 = (c.request old new own').1 ∧
      (c.request old new own).2.1 = (c.request old new own').2.1 ∧
      core (c.request old new own).2.2 = core (c.request old new own').2.2 := by
  obtain ⟨outlet, accepted, memory⟩ := c
  -- A patch does not look at the state of the listeners, and a discreet receiver only at its core.
  cases outlet with
  | patch p =>
    unfold request
    dsimp only
    cases p.request old new with
    | ok p' => exact ⟨rfl, rfl, same⟩
    | error e => exact ⟨rfl, rfl, same⟩
  | receiver receive =>
    -- The receiver may keep what it likes to itself, but it answers and acts by the core.
    have received := discreet old new own own' same
    unfold request
    dsimp only
    generalize receive old new own = ran at received
    generalize receive old new own' = ran' at received
    obtain ⟨answer, left⟩ := ran
    obtain ⟨answer', left'⟩ := ran'
    obtain ⟨rfl, cores⟩ : answer = answer' ∧ core left = core left' := received
    cases answer with
    | ok _ => exact ⟨rfl, rfl, cores⟩
    | error e => exact ⟨rfl, rfl, cores⟩

/-- A receiver stays as discreet as it is. -/
theorem discreet_request (discreet : c.outlet.Discreet core) (old new : Node) (own : σ) :
    (c.request old new own).2.1.outlet.Discreet core := by
  obtain ⟨outlet, accepted, memory⟩ := c
  cases outlet with
  | patch p =>
    unfold request
    dsimp only
    cases p.request old new <;> trivial
  | receiver receive =>
    unfold request
    dsimp only
    obtain ⟨answer, left⟩ := receive old new own
    cases answer <;> exact discreet

end Context

namespace World

variable {σ τ : Type} {core : σ → τ}

/-! ### Worlds that differ in who watches -/

/-- The lines of the log that are of some sort. -/
def lines (sort : Notice → Bool) (w : World σ) : List Notice := w.log.toList.filter sort

theorem lines_note (sort : Notice → Bool) (w : World σ) (notices : List Notice) :
    (w.note notices).lines sort = w.lines sort ++ notices.filter sort := by
  unfold lines note
  rw [Array.toList_appendList, List.filter_append]

/-- **Two worlds that agree but for those who watch**, and for what the listeners know of them. -/
structure Agree (core : σ → τ) (u v : World σ) : Prop where
  engine : u.engine.unwatched = v.engine.unwatched
  context : u.context = v.context
  discreet : u.context.outlet.Discreet core
  next : u.next = v.next
  lines : u.lines Notice.isPlain = v.lines Notice.isPlain
  journal : u.journal = v.journal
  own : core u.own = core v.own

namespace Agree

variable {u v w : World σ}

theorem symm (agree : Agree core u v) : Agree core v u :=
  ⟨agree.engine.symm, agree.context.symm, agree.context ▸ agree.discreet, agree.next.symm,
    agree.lines.symm, agree.journal.symm, agree.own.symm⟩

theorem trans (first : Agree core u v) (later : Agree core v w) : Agree core u w :=
  ⟨first.engine.trans later.engine, first.context.trans later.context, first.discreet,
    first.next.trans later.next, first.lines.trans later.lines,
    first.journal.trans later.journal, first.own.trans later.own⟩

/-- What can be seen of an engine that nobody watches is the same in both worlds. -/
theorem read {γ : Type} (agree : Agree core u v) (f : Engine → γ) :
    f u.engine.unwatched = f v.engine.unwatched := congrArg f agree.engine

/-- Both engines change alike. -/
theorem engines (agree : Agree core u v) {e e' : Engine} (same : e.unwatched = e'.unwatched) :
    Agree core { u with engine := e } { v with engine := e' } := { agree with engine := same }

theorem note (agree : Agree core u v) (notices : List Notice) :
    Agree core (u.note notices) (v.note notices) where
  engine := agree.engine
  context := agree.context
  discreet := agree.discreet
  next := agree.next
  lines := by rw [lines_note, lines_note, agree.lines]
  journal := agree.journal
  own := agree.own

theorem record (agree : Agree core u v) (entry : Entry) :
    Agree core (u.record entry) (v.record entry) :=
  { agree with journal := congrArg (·.push entry) agree.journal }

theorem setRunning (agree : Agree core u v) (running : Bool) :
    Agree core (u.setRunning running) (v.setRunning running) :=
  agree.engines (agree.read fun e => { e with running := running })

/-- **Commands do not tell who watches**, with one exception. -/
theorem perform (agree : Agree core u v) (c : Command σ) :
    c.Near core (u.perform shut c).1 (v.perform shut c).1 ∧
      Agree core (u.perform shut c).2 (v.perform shut c).2 := by
  have registry : u.engine.registry = v.engine.registry := agree.read Engine.registry
  have roster : u.engine.roster = v.engine.roster := agree.read Engine.roster
  cases c with
  -- What is registered or enrolled depends on what the engine holds, not on who watches it.
  | register listener declared =>
    unfold World.perform
    dsimp only
    rw [registry]
    generalize v.engine.registry.register listener declared = answer
    exact ⟨rfl, (agree.engines (agree.read fun e => { e with registry := answer.2 })).note _⟩
  | unregister listener declared =>
    unfold World.perform
    dsimp only
    rw [registry]
    generalize v.engine.registry.unregister listener declared = answer
    exact ⟨rfl, (agree.engines (agree.read fun e => { e with registry := answer.2 })).note _⟩
  | enroll listener =>
    unfold World.perform
    dsimp only
    rw [roster]
    generalize v.engine.roster.add listener = answer
    exact ⟨rfl, agree.engines (agree.read fun e => { e with roster := answer.2 })⟩
  | dismiss listener =>
    unfold World.perform
    dsimp only
    rw [roster]
    generalize v.engine.roster.remove listener = answer
    exact ⟨rfl, agree.engines (agree.read fun e => { e with roster := answer.2 })⟩
  -- The engine itself is answered, and here the two worlds may differ: hence `Command.Near`.
  | engine => exact ⟨agree.engine, agree⟩
  | traverse target =>
    -- The admission of a traversal does not depend on who watches.
    have admission : u.engine.admission target = v.engine.admission target :=
      agree.read (·.admission target)
    unfold World.perform enter
    dsimp only
    rw [admission]
    split
    · exact ⟨rfl, agree⟩
    · exact ⟨rfl, agree⟩
  -- The receiver of requests answers alike and leaves states with one core.
  | request old new =>
    obtain ⟨answer, context, own⟩ := Context.request_of_core_eq agree.discreet old new agree.own
    have discreet := Context.discreet_request agree.discreet old new u.own
    unfold World.perform
    dsimp only
    rw [agree.context] at answer context own discreet ⊢
    exact ⟨answer, { agree with context := context, discreet := discreet, own := own }⟩
  -- The other commands read or write the context, the supply or the state of the listeners.
  | accepted => exact ⟨congrArg Context.accepted agree.context, agree⟩
  | memory => exact ⟨congrArg Context.memory agree.context, agree⟩
  | setMemory memory =>
    exact ⟨rfl, { agree with
      context := congrArg (fun c : Context σ => { c with memory := memory }) agree.context }⟩
  | fresh => exact ⟨agree.next, { agree with next := congrArg (· + 1) agree.next }⟩
  | own => exact ⟨agree.own, agree⟩
  | setOwn own => exact ⟨rfl, { agree with own := rfl }⟩

/-- Those who watch see more, and nobody else does. -/
theorem noticed (agree : Agree core u v) {notice : Notice} (watch : notice.isPlain = false) :
    Agree core (u.note [notice]) v := by
  have lines : (u.note [notice]).lines Notice.isPlain = v.lines Notice.isPlain := by
    rw [lines_note, List.filter_cons_of_neg (by rw [watch]; decide), List.filter_nil,
      List.append_nil, agree.lines]
  exact ⟨agree.engine, agree.context, agree.discreet, agree.next, lines, agree.journal, agree.own⟩

theorem reported (agree : Agree core u v) (d : Diagnostic) : Agree core (u.report d) v := by
  unfold report
  dsimp only
  split
  · have watch : (Notice.diagnostic d).isPlain = false := rfl
    have noted := agree.noticed watch
    exact { noted with engine := noted.engine }
  · exact { agree with engine := agree.engine }

/-- Those who watch are told of a step, and that is all they have from it. -/
theorem met (agree : Agree core u v) (step : Step) :
    Agree core (u.meet step) (v.record (.step step)) := by
  have recorded := agree.record (.step step)
  unfold meet
  cases step with
  | unrecognized position node trail =>
    dsimp only
    split
    · exact recorded.reported _
    · exact recorded
  | event e =>
    dsimp only
    split
    · exact recorded.noticed rfl
    · exact recorded

theorem meet (agree : Agree core u v) (step : Step) :
    Agree core (u.meet step) (v.meet step) := by
  have once : Agree core v v := agree.symm.trans agree
  exact (agree.met step).trans (once.met step).symm

end Agree

/-- **Two worlds go on agreeing, whatever happens to both of them.** -/
theorem parallel_agree : Parallel (Command.Near core) (Agree core) where
  registry agree := agree.read Engine.registry
  roster agree := agree.read Engine.roster
  perform agree c := agree.perform c
  setOwn agree kept := { agree with own := kept }
  record agree entry := agree.record entry
  failed agree _ _ _ := agree.note _
  meet agree step := agree.meet step
  aside agree := { agree with context := rfl, discreet := trivial }
  back agree agree₁ := { agree₁ with context := agree.context, discreet := agree.discreet }

/-- **A traversal goes on as if nobody watched.** -/
theorem Agree.traverse {cast : Cast σ} (indifferent : cast.Indifferent (Command.Near core))
    {u v : World σ} (agree : Agree core u v) (target : Target) :
    Both (Agree core) (World.traverse cast target u) (World.traverse cast target v) := by
  -- Neither of the two options is read where a traversal is admitted and its steps are chosen.
  have admission : u.engine.admission target = v.engine.admission target :=
    agree.read (·.admission target)
  have descend : u.engine.settings.descendIntoUnknown = v.engine.settings.descendIntoUnknown :=
    agree.read (·.settings.descendIntoUnknown)
  unfold World.traverse enter
  rw [admission]
  split
  · exact ⟨rfl, agree⟩
  -- Both worlds are opened and go through the same steps, for they descend alike.
  rw [walk_eq, walk_eq, descend]
  dsimp only
  have opened : Agree core ((u.setRunning true).note [target.notice])
      ((v.setRunning true).note [target.notice]) := (agree.setRunning true).note _
  have told := parallel_agree.tellAll indifferent .begin opened
  have announced := both_forM
    (fun step _ _ => parallel_agree.announce indifferent target.imports step)
    (target.steps v.engine.settings.descendIntoUnknown) told
  -- From here on only the outcomes of the two rows of steps matter.
  generalize Summary.ofSteps _ = total
  generalize StateT.run _ (((u.setRunning true).note [target.notice]).tellAll shut cast .begin) =
    ran at announced ⊢
  generalize StateT.run _ (((v.setRunning true).note [target.notice]).tellAll shut cast .begin) =
    ran' at announced ⊢
  obtain ⟨ended, u₁⟩ := ran
  obtain ⟨ended', v₁⟩ := ran'
  obtain ⟨answer, worlds⟩ := announced
  -- The listeners have answered alike, so both walks fail here or both come to their end.
  obtain rfl : ended = ended' := answer
  cases ended with
  | error cause => exact ⟨rfl, worlds.setRunning false⟩
  | ok _ =>
    -- The end is told to one roster, and the summary counts the same steps.
    have finished := parallel_agree.tellAll indifferent .finish worlds
    exact ⟨rfl, (finished.note _).setRunning false⟩

end World

/-! ### What there is to be seen -/

/-- The line of the log about an event: the kind of the node, the phase, and how many nodes are
around. -/
def Event.line (e : Event) : Notice := .event e.node.kind e.phase e.trail.depth

/-- **The lines that steps call for** under given settings. -/
def Settings.traced (s : Settings) (steps : List Step) : List Notice :=
  if s.traceEvents then (eventsOf steps).map Event.line else []

theorem Settings.traced_append (s : Settings) (steps further : List Step) :
    s.traced (steps ++ further) = s.traced steps ++ s.traced further := by
  unfold traced
  split
  · rw [eventsOf_append, List.map_append]
  · rfl

namespace World

variable {σ : Type}

/-- **The lines about events**, which are those of the lowest level. -/
def traced (w : World σ) : List Notice := w.lines fun notice => notice.level = .trace

/-- **What was traced between two worlds** is what the steps call for that were announced between
them. The settings are still the same. -/
structure Traced (w w' : World σ) : Prop where
  settings : w'.engine.settings = w.engine.settings
  traced : ∃ added, w'.steps = w.steps ++ added ∧
    w'.traced = w.traced ++ w.engine.settings.traced added

theorem Traced.trans {w w' w'' : World σ} (first : Traced w w') (later : Traced w' w'') :
    Traced w w'' := by
  obtain ⟨settings, added, steps, lines⟩ := first
  obtain ⟨settings', added', steps', lines'⟩ := later
  refine ⟨settings'.trans settings, added ++ added', ?_, ?_⟩
  · rw [steps', steps, List.append_assoc]
  · rw [lines', lines, settings, Settings.traced_append, List.append_assoc]

namespace Curious

open Meddling

/-- It does not act on what it writes down, and so there is nothing in the core of it. -/
def core : Nat → Unit := fun _ => ()

def still : Settings := ⟨false, false, false⟩

end Curious

end World

end SyntaxTour
