import Mathlib.Data.List.Chain
import SyntaxTour.Tour

/-!
# Inside a tour

A tour is a list of steps, and its recursion can be read back from the list: every entry in
it begins the tour of the entered node, which goes on to what stands in the slots of this
node and ends by leaving it. Whatever is said about a place in a tour is said about such an
inner tour.

* `Step.way` is the node of a step with the nodes around it; `suffix_way_of_mem_tour` and
  `chain_way_of_mem_tour` say that within a tour these ways go on from the way of the tour,
  always from a node to one of its children.
* `eventsOf` leaves out the remarks; `filter_eventsOf_tour` says which events of a tour are
  outermost.
* `Position.Standing` says that a node stands in a position, below what is around it.
* `beginsTour_of_tour` is the statement about entries. It includes whether a remark comes
  before the entry, which depends on the position alone.
* `Summary.ofSteps_eq` says what the three numbers of a summary count.
-/

namespace SyntaxTour

namespace Step

/-- The nodes around the node of the step. -/
def trail : Step → Trail
  | unrecognized _ _ trail => trail
  | event e => e.trail

/-- The node of the step. -/
def node : Step → Node
  | unrecognized _ node _ => node
  | event e => e.node

/-- The node of the step and the nodes around it, innermost first. -/
def way (step : Step) : Trail := step.node :: step.trail

end Step

/-- The tours of a row of nodes, each in its position. -/
def tours (descend : Bool) (trail : Trail) (slots : List (Position × Node)) : List Step :=
  slots.flatMap fun slot => tour descend slot.1 trail slot.2

/-- What a tour does between entering a node and leaving it. -/
def inside (descend : Bool) (position : Position) (trail : Trail) (n : Node) : List Step :=
  tours descend (n :: trail) (n.shape.visits position descend)

/-- What a tour does before it enters a node. -/
def remark (position : Position) (trail : Trail) (n : Node) : List Step :=
  if position.admits n.kind then [] else [.unrecognized position n trail]

variable (descend : Bool) (position : Position) (trail : Trail) (n : Node)

/-- The tour of a node that is given by its parts. -/
theorem tour_node (i : Nat) (p : Span) (s : Shape Node) :
    tour descend position trail (.node i p s) =
      (if position.admits s.kind then [] else [.unrecognized position (.node i p s) trail]) ++
        .event ⟨.enter, .node i p s, trail⟩ ::
          ((s.visits position descend).flatMap (fun slot =>
              tour descend slot.1 (.node i p s :: trail) slot.2) ++
            [.event ⟨.exit, .node i p s, trail⟩]) :=
  tour_eq ..

/-- A class without members is entered and left. -/
theorem steps_bare_class (i : Nat) (p : Span) (name : String) (imports : Imports) :
    (Target.declaration (.node i p (.classDecl name [])) imports).steps descend =
      [.event ⟨.enter, .node i p (.classDecl name []), []⟩,
        .event ⟨.exit, .node i p (.classDecl name []), []⟩] := by
  rw [Target.steps, Target.roots, List.flatMap_singleton, tour_node]
  rfl

theorem tour_eq_remark :
    tour descend position trail n =
      remark position trail n ++ .event ⟨.enter, n, trail⟩ ::
        (inside descend position trail n ++ [.event ⟨.exit, n, trail⟩]) :=
  tour_eq descend position trail n

/-! ### Ways -/

variable {descend position trail n}

/-- A step of a tour is about the node that the tour is of, or about something inside. -/
theorem way_of_mem_tour {step : Step} (h : step ∈ tour descend position trail n) :
    step.way = n :: trail ∨
      ∃ slot ∈ n.shape.visits position descend, step ∈ tour descend slot.1 (n :: trail) slot.2 := by
  rw [tour_eq_remark] at h
  simp only [List.mem_append, List.mem_cons, List.not_mem_nil, or_false] at h
  -- The four parts of a tour: the remark, the entry, what is inside, the exit.
  rcases h with h | rfl | h | rfl
  · unfold remark at h
    split at h
    · exact absurd h List.not_mem_nil
    · rw [List.mem_singleton.mp h]
      exact Or.inl rfl
  · exact Or.inl rfl
  · obtain ⟨slot, visited, h⟩ := List.mem_flatMap.mp h
    exact Or.inr ⟨slot, visited, h⟩
  · exact Or.inl rfl

/-- Every way within a tour goes on from the way of the tour. -/
theorem suffix_way_of_mem_tour {step : Step} (h : step ∈ tour descend position trail n) :
    n :: trail <:+ step.way := by
  induction n using Tree.induct generalizing position trail with
  | node i p s ih =>
    rcases way_of_mem_tour h with way | ⟨slot, visited, h⟩
    · exact way ▸ List.suffix_rfl
    · exact (List.suffix_cons _ _).trans (ih _ (Shape.mem_children_of_mem_visits visited) h)

theorem depth_le_of_mem_tour {step : Step} (h : step ∈ tour descend position trail n) :
    trail.depth ≤ step.trail.depth := by
  have := (suffix_way_of_mem_tour h).length_le
  exact Nat.le_of_succ_le_succ this

theorem mem_tour_of_mem_inside {step : Step} (h : step ∈ inside descend position trail n) :
    step ∈ tour descend position trail n := by
  rw [tour_eq_remark]
  exact List.mem_append_right _ (List.mem_cons_of_mem _ (List.mem_append_left _ h))

/-- What is inside is deeper than what it is inside of. -/
theorem depth_lt_of_mem_inside {step : Step} (h : step ∈ inside descend position trail n) :
    trail.depth < step.trail.depth := by
  obtain ⟨slot, -, h⟩ := List.mem_flatMap.mp h
  exact depth_le_of_mem_tour h

/-- **A way goes from child to parent all along**, in a tour whose own way does. -/
theorem chain_way_of_mem_tour {step : Step} (h : step ∈ tour descend position trail n)
    (chain : (n :: trail).IsChain fun child parent => child ∈ parent.children) :
    step.way.IsChain fun child parent => child ∈ parent.children := by
  induction n using Tree.induct generalizing position trail with
  | node i p s ih =>
    rcases way_of_mem_tour h with way | ⟨slot, visited, h⟩
    · exact way ▸ chain
    · have child := Shape.mem_children_of_mem_visits visited
      exact ih _ child h (.cons_cons child chain)

/-! ### Events -/

/-- The events among steps. -/
def eventsOf (steps : List Step) : List Event := steps.filterMap Step.event?

theorem mem_eventsOf {e : Event} {steps : List Step} :
    e ∈ eventsOf steps ↔ .event e ∈ steps := by
  rw [eventsOf, List.mem_filterMap]
  constructor
  · rintro ⟨step, member, event⟩
    cases step with
    | unrecognized position node trail => cases event
    | event e' => exact Option.some.inj event ▸ member
  · intro member
    exact ⟨_, member, rfl⟩

theorem eventsOf_append (steps further : List Step) :
    eventsOf (steps ++ further) = eventsOf steps ++ eventsOf further :=
  List.filterMap_append

theorem eventsOf_flatMap {α : Type} (l : List α) (f : α → List Step) :
    eventsOf (l.flatMap f) = l.flatMap fun a => eventsOf (f a) :=
  List.filterMap_flatMap

/-- The events of a tour: the entry, what is inside, and the exit. -/
theorem eventsOf_tour (descend : Bool) (position : Position) (trail : Trail) (n : Node) :
    eventsOf (tour descend position trail n) =
      ⟨.enter, n, trail⟩ :: (eventsOf (inside descend position trail n) ++
        [⟨.exit, n, trail⟩]) := by
  have remarks : eventsOf (remark position trail n) = [] := by
    unfold remark
    split <;> rfl
  rw [tour_eq_remark, eventsOf_append, remarks, List.nil_append, ← List.singleton_append,
    eventsOf_append, eventsOf_append]
  rfl

/-- What is inside has no event as far out as the node it is inside of. -/
theorem filter_eventsOf_inside (descend : Bool) (position : Position) (trail : Trail) (n : Node) :
    (eventsOf (inside descend position trail n)).filter (·.trail.depth == trail.depth) = [] := by
  rw [List.filter_eq_nil_iff]
  intro e member same
  have deeper : trail.depth < e.trail.depth := depth_lt_of_mem_inside (mem_eventsOf.mp member)
  exact absurd (beq_iff_eq.mp same) (Nat.ne_of_gt deeper)

/-- **The outermost events of a tour** are those of its own node. -/
theorem filter_eventsOf_tour (descend : Bool) (position : Position) (trail : Trail) (n : Node) :
    (eventsOf (tour descend position trail n)).filter (·.trail.depth == trail.depth) =
      [⟨.enter, n, trail⟩, ⟨.exit, n, trail⟩] := by
  rw [eventsOf_tour, List.filter_cons, List.filter_append, filter_eventsOf_inside]
  simp

/-! ### Entries -/

/-- **The position in which a node stands**: the outermost nodes are declarations of their
own, and any other node is in one of the slots of the node around it. -/
def Position.Standing (position : Position) (trail : Trail) (n : Node) : Prop :=
  match trail with
  | [] => position = .topLevel
  | parent :: _ => (position, n) ∈ parent.shape.slots

theorem standing_of_mem_visits {slot : Position × Node}
    (h : slot ∈ n.shape.visits position descend) : slot.1.Standing (n :: trail) slot.2 := by
  unfold Shape.visits at h
  split at h
  · exact h
  · exact absurd h List.not_mem_nil

/-- The last of these steps is a remark. -/
def remarked (steps : List Step) : Bool :=
  match steps.getLast? with
  | some (.unrecognized ..) => true
  | _ => false

theorem remarked_remark : remarked (remark position trail n) = !position.admits n.kind := by
  unfold remark
  cases position.admits n.kind <;> rfl

theorem remarked_concat_event (steps : List Step) (e : Event) :
    remarked (steps ++ [.event e]) = false := by
  rw [remarked, List.getLast?_append]
  rfl

/-- What does not end with a remark does not matter. -/
theorem remarked_append {steps : List Step} (quiet : remarked steps = false)
    (further : List Step) : remarked (steps ++ further) = remarked further := by
  cases further using List.reverseRecOn with
  | nil => rw [List.append_nil, quiet]; rfl
  | append_singleton further step =>
    rw [remarked, remarked, ← List.append_assoc, List.getLast?_concat, List.getLast?_concat]

theorem remarked_tour : remarked (tour descend position trail n) = false := by
  rw [tour_eq_remark, ← List.cons_append, ← List.append_assoc]
  exact remarked_concat_event _ _

theorem remarked_tours (slots : List (Position × Node)) :
    remarked (tours descend trail slots) = false := by
  induction slots using List.reverseRecOn with
  | nil => rfl
  | append_singleton slots slot ih =>
    rw [tours, List.flatMap_append, ← tours, remarked_append ih, List.flatMap_singleton]
    exact remarked_tour

/-- A member of the concatenation stands in one of the lists. -/
theorem exists_split_of_flatMap {α β : Type} {f : α → List β} {l : List α} {b : β}
    {before after : List β} (h : l.flatMap f = before ++ b :: after) :
    ∃ l₁ a l₂ before' after', l = l₁ ++ a :: l₂ ∧ f a = before' ++ b :: after' ∧
      before = l₁.flatMap f ++ before' ∧ after = after' ++ l₂.flatMap f := by
  induction l generalizing before with
  | nil => simp at h
  | cons a l ih =>
    rw [List.flatMap_cons, List.append_eq_append_iff] at h
    -- The member comes from a later list, or it is in the first one or just behind it.
    rcases h with ⟨middle, rfl, h⟩ | ⟨middle, h, rest⟩
    · obtain ⟨l₁, a', l₂, before', after', rfl, split, rfl, rfl⟩ := ih h
      exact ⟨a :: l₁, a', l₂, before', after', rfl, split, by simp, rfl⟩
    · cases middle with
      | nil =>
        -- The member is the first of the remaining lists, and `before` ends just there.
        obtain ⟨l₁, a', l₂, before', after', rfl, split, empty, rfl⟩ := @ih [] rest.symm
        refine ⟨a :: l₁, a', l₂, before', after', rfl, split, ?_, rfl⟩
        rw [List.flatMap_cons, List.append_assoc, ← empty, h, List.append_nil, List.append_nil]
      -- The member is in the first list.
      | cons b' middle =>
        obtain ⟨rfl, rfl⟩ := List.cons.inj rest
        exact ⟨[], a, l, before, middle, rfl, h, rfl, rfl⟩

/-- **An entry that begins a tour.** The entered node stands in some position. A remark comes
before the entry if this position does not admit the node, and after the entry comes the rest
of the tour of the node in this position. -/
def BeginsTour (descend : Bool) (n : Node) (trail : Trail) (before after : List Step) : Prop :=
  ∃ position : Position, position.Standing trail n ∧
    remarked before = !position.admits n.kind ∧
    ∃ further, after = inside descend position trail n ++ .event ⟨.exit, n, trail⟩ :: further

/-- What comes earlier, up to something else than a remark, and what comes later do not
matter. -/
theorem BeginsTour.append {before after earlier : List Step}
    (h : BeginsTour descend n trail before after) (quiet : remarked earlier = false)
    (later : List Step) :
    BeginsTour descend n trail (earlier ++ before) (after ++ later) := by
  obtain ⟨position, standing, remarks, further, rfl⟩ := h
  refine ⟨position, standing, (remarked_append quiet _).trans remarks, further ++ later, ?_⟩
  rw [List.append_assoc, List.cons_append]

/-- If every entry of each tour in a row begins a tour, then so does every entry of the
row. -/
theorem beginsTour_of_tours {around : Trail} {slots : List (Position × Node)}
    (each : ∀ slot ∈ slots, ∀ before after,
      tour descend slot.1 around slot.2 = before ++ .event ⟨.enter, n, trail⟩ :: after →
        BeginsTour descend n trail before after)
    {before after : List Step}
    (h : tours descend around slots = before ++ .event ⟨.enter, n, trail⟩ :: after) :
    BeginsTour descend n trail before after := by
  obtain ⟨earlier, slot, later, before, after, rfl, here, rfl, rfl⟩ := exists_split_of_flatMap h
  have member : slot ∈ earlier ++ slot :: later := by simp
  exact (each slot member _ _ here).append (remarked_tours earlier) (tours descend around later)

/-- An event of a tour does not stand in the remark. -/
theorem split_remark {steps before after : List Step} {e : Event}
    (h : remark position trail n ++ steps = before ++ .event e :: after) :
    ∃ before', before = remark position trail n ++ before' ∧
      steps = before' ++ .event e :: after := by
  rcases List.append_eq_append_iff.mp h with ⟨middle, rfl, rest⟩ | ⟨middle, remarks, rest⟩
  · exact ⟨middle, rfl, rest⟩
  · cases middle with
    | nil => exact ⟨[], by rw [remarks, List.append_nil, List.append_nil], rest.symm⟩
    | cons step middle =>
      -- The event would be a member of the remark.
      obtain ⟨rfl, -⟩ := List.cons.inj rest
      have member : .event e ∈ remark position trail n := by simp [remarks]
      unfold remark at member
      split at member <;> simp at member

/-- An entry of a visit is the first one, or it is between entering and leaving. -/
theorem split_visit {steps before after : List Step} {root : Node} {around : Trail}
    (h : .event ⟨.enter, root, around⟩ :: (steps ++ [.event ⟨.exit, root, around⟩]) =
      before ++ .event ⟨.enter, n, trail⟩ :: after) :
    (before = [] ∧ root = n ∧ around = trail ∧
      after = steps ++ [.event ⟨.exit, root, around⟩]) ∨
    ∃ before' after', before = .event ⟨.enter, root, around⟩ :: before' ∧
      steps = before' ++ .event ⟨.enter, n, trail⟩ :: after' ∧
      after = after' ++ [.event ⟨.exit, root, around⟩] := by
  -- The entry is the first step, or it is announced behind it.
  rcases List.cons_eq_append_iff.mp h with ⟨rfl, first⟩ | ⟨before, rfl, rest⟩
  · obtain ⟨entry, rfl⟩ := List.cons.inj first
    injection entry with entry
    injection entry with _ node around
    exact Or.inl ⟨rfl, node.symm, around.symm, rfl⟩
  · refine Or.inr ⟨before, ?_⟩
    rcases List.append_eq_append_iff.mp rest with ⟨middle, rfl, last⟩ | ⟨middle, rfl, entry⟩
    · -- The entry would be the exit at the end.
      cases middle with
      | nil => simp at last
      | cons step middle => simp at last
    · -- So it is one of the steps between the entry of the root and its exit.
      cases middle with
      | nil => simp at entry
      | cons step middle =>
        obtain ⟨rfl, rfl⟩ := List.cons.inj entry
        exact ⟨middle, rfl, rfl, rfl⟩

/-- **Every entry of a tour begins a tour.** -/
theorem beginsTour_of_tour {root : Node} {around : Trail} {before after : List Step}
    (standing : position.Standing around root)
    (h : tour descend position around root = before ++ .event ⟨.enter, n, trail⟩ :: after) :
    BeginsTour descend n trail before after := by
  induction root using Tree.induct generalizing position around before after with
  | node i p s ih =>
    rw [tour_eq_remark] at h
    obtain ⟨before, rfl, visit⟩ := split_remark h
    rcases split_visit visit with ⟨rfl, rfl, rfl, rfl⟩ | ⟨before, after, rfl, within, rfl⟩
    · -- The entry of the root itself.
      refine ⟨position, standing, ?_, [], rfl⟩
      rw [List.append_nil, remarked_remark]
    · -- An entry inside: what comes before it starts with the entry of the root.
      have begins : BeginsTour descend n trail before after :=
        beginsTour_of_tours (fun slot visited _ _ => ih slot.2
          (Shape.mem_children_of_mem_visits visited) (standing_of_mem_visits visited)) within
      rw [List.append_cons]
      exact begins.append (remarked_concat_event _ _) _

/-- **Every entry of the whole tour begins a tour.** -/
theorem beginsTour_of_steps {target : Target} {before after : List Step}
    (h : target.steps descend = before ++ .event ⟨.enter, n, trail⟩ :: after) :
    BeginsTour descend n trail before after := by
  have row : target.steps descend = tours descend [] (target.roots.map (.topLevel, ·)) := by
    rw [tours, List.flatMap_map]
    rfl
  refine beginsTour_of_tours (fun slot member before after => ?_) (row ▸ h)
  obtain ⟨root, -, rfl⟩ := List.mem_map.mp member
  exact beginsTour_of_tour rfl

/-! ### Counting -/

/-- Whether the step is an event of a phase. -/
def Step.inPhase (phase : Phase) : Step → Bool
  | event e => e.phase == phase
  | unrecognized .. => false

/-- Whether the step is a remark. -/
def Step.isRemark : Step → Bool
  | event _ => false
  | unrecognized .. => true

theorem Summary.foldl_add (steps : List Step) (total : Summary) :
    steps.foldl (fun total step => total.add (ofStep step)) total =
      total.add ⟨steps.countP (Step.inPhase .enter), steps.countP (Step.inPhase .exit),
        steps.countP Step.isRemark⟩ := by
  induction steps generalizing total with
  | nil => rfl
  | cons step steps ih =>
    rw [List.foldl_cons, ih]
    rcases step with ⟨position, node, trail⟩ | ⟨phase, node, trail⟩
    · simp [add, ofStep, Step.inPhase, List.countP_cons, Nat.add_assoc, Nat.add_comm 1,
        Step.isRemark]
    · cases phase <;>
        simp [add, ofStep, Step.inPhase, Step.isRemark, Nat.add_assoc, Nat.add_comm 1]

/-- **What a summary counts**: entries, exits and remarks. -/
theorem Summary.ofSteps_eq (steps : List Step) :
    ofSteps steps = ⟨steps.countP (Step.inPhase .enter), steps.countP (Step.inPhase .exit),
      steps.countP Step.isRemark⟩ := by
  rw [ofSteps, foldl_add]
  simp [add, zero]

end SyntaxTour
