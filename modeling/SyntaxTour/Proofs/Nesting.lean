import SyntaxTour.Proofs.Journal
import SyntaxTour.Proofs.Tours

/-!
# Entering and leaving are nested

Each node that a traversal enters it also leaves, and what it enters in between it leaves in
between. An event carries the nodes around its node; these are just the nodes that were
entered and not left again when the event is announced, each of them a child of the one
before. A listener that fails cuts the events short and changes nothing about those before.

* `Nested` says that events are well nested; `nested_tour` says it of a tour.
* `stillOpen` replays events and keeps the nodes that were entered and not left.
  `Nested.follows` says that the trail of each of the well-nested events is what a replay of
  the earlier ones gives.
* `Target.Complete` and `Target.Placed` collect what is claimed of all the events and of each
  of them, and `World.traverse_nested` claims it of a traversal.
-/

namespace SyntaxTour

/-! ### Well-nested events -/

/-- **Well-nested events** inside of given nodes: visits one after the other, each of them an
entry, well-nested events inside of the node too, and the exit of the same node. -/
inductive Nested : Trail → List Event → Prop where
  | nil (trail : Trail) : Nested trail []
  | visit {trail : Trail} {n : Node} {within further : List Event} :
      Nested (n :: trail) within → Nested trail further →
        Nested trail (⟨.enter, n, trail⟩ :: (within ++ ⟨.exit, n, trail⟩ :: further))

theorem Nested.append {trail : Trail} {events further : List Event} (h : Nested trail events)
    (h' : Nested trail further) : Nested trail (events ++ further) := by
  induction h with
  | nil trail => exact h'
  | visit within _ _ ih =>
    rw [List.cons_append, List.append_assoc, List.cons_append]
    exact .visit within (ih h')

theorem Nested.flatMap {α : Type} {trail : Trail} {l : List α} {f : α → List Event}
    (h : ∀ a ∈ l, Nested trail (f a)) : Nested trail (l.flatMap f) := by
  induction l with
  | nil => exact .nil trail
  | cons a l ih =>
    rw [List.flatMap_cons]
    exact (h a List.mem_cons_self).append (ih fun b member => h b (List.mem_cons_of_mem _ member))

/-- **The events of a tour are well nested.** -/
theorem nested_tour (descend : Bool) (position : Position) (trail : Trail) (n : Node) :
    Nested trail (eventsOf (tour descend position trail n)) := by
  induction n using Tree.induct generalizing position trail with
  | node i p s ih =>
    rw [eventsOf_tour, inside, tours, eventsOf_flatMap]
    -- The tour is one visit, and the tours of the slots follow each other inside.
    refine .visit (.flatMap fun slot visited => ?_) (.nil trail)
    exact ih slot.2 (Shape.mem_children_of_mem_visits visited) slot.1 _

/-- Entries and exits are equal in number. -/
theorem Nested.balanced {trail : Trail} {events : List Event} (h : Nested trail events) :
    events.countP (·.phase == .enter) = events.countP (·.phase == .exit) := by
  induction h with
  | nil trail => rfl
  | visit _ _ within further =>
    simp [within, further]
    omega

theorem length_eq_countP_add (events : List Event) :
    events.length = events.countP (·.phase == .enter) + events.countP (·.phase == .exit) := by
  rw [List.length_eq_countP_add_countP (·.phase == .enter)]
  congr 2
  funext e
  cases e.phase <;> rfl

theorem countP_eventsOf (phase : Phase) (steps : List Step) :
    (eventsOf steps).countP (·.phase == phase) = steps.countP (Step.inPhase phase) := by
  rw [eventsOf, List.countP_filterMap]
  congr 1
  funext step
  cases step <;> rfl

/-! ### Replaying events -/

/-- The nodes that are open after an event, innermost first, if `opened` were so before. -/
def Trail.follow (opened : Trail) (e : Event) : Trail :=
  match e.phase with
  | .enter => e.node :: opened
  | .exit => opened.tail

/-- **The nodes that were entered and not left**, outermost first. -/
def stillOpen (events : List Event) : List Node :=
  Trail.rootFirst (events.foldl Trail.follow [])

/-- The trail of the event is what is open, apart from a node that is about to be left. -/
def Event.Fits (opened : Trail) (e : Event) : Prop :=
  match e.phase with
  | .enter => e.trail = opened
  | .exit => e.node :: e.trail = opened

/-- Each of the events fits when it comes. -/
def Follows : Trail → List Event → Prop
  | _, [] => True
  | opened, e :: events => e.Fits opened ∧ Follows (opened.follow e) events

theorem follows_append {opened : Trail} {events further : List Event} :
    Follows opened (events ++ further) ↔
      Follows opened events ∧ Follows (events.foldl Trail.follow opened) further := by
  induction events generalizing opened with
  | nil => rw [List.nil_append, Follows, List.foldl_nil, true_and]
  | cons e events ih =>
    rw [List.cons_append, Follows, Follows, List.foldl_cons, ih, and_assoc]

/-- **Well-nested events fit one after the other**, and leave open what was open before. -/
theorem Nested.follows {trail : Trail} {events : List Event} (h : Nested trail events) :
    Follows trail events ∧ events.foldl Trail.follow trail = trail := by
  induction h with
  | nil trail => exact ⟨trivial, rfl⟩
  | @visit trail n within further _ _ ih ih' =>
    obtain ⟨fits, closed⟩ := ih
    obtain ⟨fits', closed'⟩ := ih'
    have left : Trail.follow (n :: trail) ⟨.exit, n, trail⟩ = trail := rfl
    constructor
    · -- When the node is left, exactly it is open on top of what was open before.
      refine ⟨rfl, follows_append.mpr ⟨fits, ?_⟩⟩
      rw [Trail.follow, closed]
      exact ⟨rfl, left.symm ▸ fits'⟩
    · rw [List.foldl_cons, List.foldl_append, Trail.follow, closed, List.foldl_cons, left, closed']

theorem Follows.fits {opened : Trail} {before after : List Event} {e : Event}
    (h : Follows opened (before ++ e :: after)) : e.Fits (before.foldl Trail.follow opened) :=
  (follows_append.mp h).2.1

/-! ### Whole traversals -/

/-- The nodes from a root down to the node of the event. -/
def Event.path (e : Event) : List Node := e.trail.rootFirst ++ [e.node]

namespace Target

variable (target : Target)

/-- **What holds of all events together**, if none is missing: they are well nested, and
those with nothing around them are the visits of the roots. -/
structure Complete (events : List Event) : Prop where
  nested : Nested [] events
  outermost : events.filter (·.trail.depth == 0) =
    target.roots.flatMap fun root => [⟨.enter, root, []⟩, ⟨.exit, root, []⟩]

/-- **What holds of each event**, given those before it. -/
structure Placed (before : List Event) (e : Event) : Prop where
  /-- The nodes around are those that are open. -/
  entering : e.phase = .enter → e.trail.rootFirst = stillOpen before
  /-- At the exit of a node, the node itself is open too. -/
  leaving : e.phase = .exit → e.path = stillOpen before
  /-- Each node of the path is a child of the one before it. -/
  descending : e.path.IsChain fun parent child => child ∈ parent.children
  /-- The path begins at a root. -/
  rooted : ∃ root ∈ target.roots, e.path.head? = some root

/-- The events of the whole tour. -/
def events (descend : Bool) : List Event := eventsOf (target.steps descend)

theorem complete_events (descend : Bool) : target.Complete (target.events descend) := by
  unfold events steps
  rw [eventsOf_flatMap]
  refine ⟨.flatMap fun root _ => nested_tour descend .topLevel [] root, ?_⟩
  rw [List.filter_flatMap]
  congr 1
  funext root
  exact filter_eventsOf_tour descend .topLevel [] root

/-- Every event of the whole tour is where it belongs. -/
theorem placed_of_events {descend : Bool} {before after : List Event} {e : Event}
    (h : target.events descend = before ++ e :: after) : target.Placed before e := by
  have fits : e.Fits (before.foldl Trail.follow []) :=
    (h ▸ (target.complete_events descend).nested.follows.1).fits
  have member : e ∈ target.events descend := by simp [h]
  obtain ⟨root, isRoot, announced⟩ := List.mem_flatMap.mp (mem_eventsOf.mp member)
  have path : e.path = (Step.way (.event e)).reverse := List.reverse_cons.symm
  -- What is open before the event is what stands above it, with its own node if it leaves.
  refine ⟨fun entering => ?_, fun leaving => ?_, ?_, root, isRoot, ?_⟩
  · rw [Event.Fits, entering] at fits
    rw [stillOpen, ← fits]
  · rw [Event.Fits, leaving] at fits
    rw [stillOpen, ← fits, path]
    rfl
  -- The path is the way of the step, read from the other end.
  · rw [path, List.isChain_reverse]
    exact chain_way_of_mem_tour announced (List.isChain_singleton _)
  · -- The way up ends at the root the step was announced for.
    rw [path, List.head?_reverse]
    exact List.singleton_suffix_iff_getLast?_eq_some.mp (suffix_way_of_mem_tour announced)

end Target

namespace World

variable {σ : Type}

/-- The events announced so far. -/
def events (w : World σ) : List Event := eventsOf w.steps

/-- **Entering and leaving are nested**, in every traversal by every listener: each event
carries the nodes that are open when it is announced. A traversal that succeeds announces
all of its events, and enters and leaves equally many nodes; the events of one that a
listener ends are the first of such events. -/
theorem traverse_nested (cast : Cast σ) (target : Target) (w : World σ) :
    ∃ fired,
      (traverse cast target w).2.events = w.events ++ fired ∧
      (∀ before e after, fired = before ++ e :: after → target.Placed before e) ∧
      match (traverse cast target w).1 with
      | .ok summary =>
        target.Complete fired ∧ summary.entered = summary.exited ∧
          fired.length = 2 * summary.entered
      | .error (.callback _) => ∃ whole, target.Complete whole ∧ fired <+: whole
      | .error (.violation _) => fired = [] := by
  obtain ⟨announced, added, early, outcome⟩ := steps_traverse cast target w
  -- Up to a failure, what was announced is the beginning of a whole tour.
  have first : eventsOf announced <+: target.events w.engine.settings.descendIntoUnknown :=
    early.filterMap Step.event?
  have complete := target.complete_events w.engine.settings.descendIntoUnknown
  refine ⟨eventsOf announced, ?_, fun before e after split => ?_, ?_⟩
  · rw [events, added]
    exact eventsOf_append _ _
  · -- A place among the first events is a place among all of them.
    obtain ⟨further, whole⟩ := first
    rw [split, List.append_assoc, List.cons_append] at whole
    exact target.placed_of_events whole.symm
  generalize (traverse cast target w).1 = answer at outcome
  match answer with
  | .ok summary =>
    obtain ⟨rfl, counted⟩ := outcome
    -- The summary counts steps, and the balance is one of events.
    have balanced := complete.nested.balanced
    have length := length_eq_countP_add (target.events w.engine.settings.descendIntoUnknown)
    rw [Target.events, countP_eventsOf, countP_eventsOf] at balanced length
    rw [counted, Summary.ofSteps_eq]
    refine ⟨complete, balanced, ?_⟩
    dsimp only
    omega
  | .error (.callback _) => exact ⟨_, complete, first⟩
  | .error (.violation _) => exact congrArg eventsOf outcome

end World

end SyntaxTour
