import SyntaxTour.Proofs.Coverage

/-!
# What fits where

Which kinds a position admits is written down kind by kind, and apart from it there is the
sorting of kinds into categories. The two have to agree: a position is a place for a category,
give or take a few kinds.

* `Position.Fits` says by category what fits a position, and `Position.admits_iff_fits` that
  this is what the position admits.
* `Visit` is a node with the position in which it is visited. `visitsOf` lists the visits of a
  tour by what fits, without looking at what the tour does.
* `Visit.arrival` is how a tour comes to a node; `filter_arrives_tour` says that every tour comes
  to its visits in this way.
* `World.traverse_recognizes` is what a successful traversal counts as unrecognized.
-/

namespace SyntaxTour

/-! ### Positions and categories -/

namespace Position

/-- **What fits a position.** A position of statements is no place for a method, though it is a
declaration, and a position of types is one for the two sorts of names, though they are
expressions. Below an unknown construct everything fits but another one. -/
def Fits : Position → Kind → Prop
  | topLevel, k => k = .classDecl
  | member, k => k.category = .declaration ∨ k = .block
  | binding, k => k = .variableDecl
  | statement, k => (k.category = .declaration ∨ k.category = .statement) ∧ k ≠ .methodDecl
  | expression, k => k.category = .expression ∨ k.category = .type
  | type, k => k.category = .type ∨ k = .ident ∨ k = .select
  | loose, k => k ≠ .other

instance : (position : Position) → (k : Kind) → Decidable (position.Fits k)
  | topLevel, k => inferInstanceAs (Decidable (k = .classDecl))
  | member, k => inferInstanceAs (Decidable (k.category = .declaration ∨ k = .block))
  | binding, k => inferInstanceAs (Decidable (k = .variableDecl))
  | statement, k => inferInstanceAs
    (Decidable ((k.category = .declaration ∨ k.category = .statement) ∧ k ≠ .methodDecl))
  | expression, k => inferInstanceAs (Decidable (k.category = .expression ∨ k.category = .type))
  | type, k => inferInstanceAs (Decidable (k.category = .type ∨ k = .ident ∨ k = .select))
  | loose, k => inferInstanceAs (Decidable (k ≠ .other))

/-- **A position admits what fits.** -/
theorem admits_iff_fits (position : Position) (k : Kind) :
    position.admits k = true ↔ position.Fits k := by
  cases position <;> cases k <;> decide

/-- What is at home in positions of expressions fits all of them. -/
theorem fits_expression {k : Kind} (home : k.category.family? = some .expression) :
    expression.Fits k := by
  cases k <;> first | decide | cases home

end Position

/-! ### Visits -/

/-- **A node in the position in which it is visited**, with the nodes around it. -/
structure Visit where
  position : Position
  node : Node
  trail : Trail

namespace Visit

/-- Whether the node fits the position. -/
def Fits (v : Visit) : Prop := v.position.Fits v.node.kind

instance (v : Visit) : Decidable v.Fits :=
  inferInstanceAs (Decidable (v.position.Fits v.node.kind))

/-- **How a tour comes to a node**: it enters it, and remarks on it before if it does not fit. -/
def arrival (v : Visit) : List Step :=
  if v.Fits then [.event ⟨.enter, v.node, v.trail⟩]
  else [.unrecognized v.position v.node v.trail, .event ⟨.enter, v.node, v.trail⟩]

theorem arrival_eq (v : Visit) :
    v.arrival = remark v.position v.trail v.node ++ [.event ⟨.enter, v.node, v.trail⟩] := by
  have agree : v.position.admits v.node.kind = true ↔ v.Fits := Position.admits_iff_fits ..
  unfold arrival remark
  by_cases fits : v.Fits
  · rw [if_pos fits, if_pos (agree.mpr fits)]
    rfl
  · rw [if_neg fits, if_neg fun admitted => fits (agree.mp admitted)]
    rfl

/-- A visit has one entry. -/
theorem visited_arrival (v : Visit) : visited .enter v.arrival = [(v.node, v.trail)] := by
  unfold arrival
  split <;> rfl

/-- A visit has one remark where the node does not fit, and none otherwise. -/
theorem countP_arrival (v : Visit) :
    v.arrival.countP Step.isRemark = if v.Fits then 0 else 1 := by
  unfold arrival
  split <;> rfl

end Visit

/-- **The visits below a node**, in order. What fits is gone into with all its slots, and what does
not fit is not, except for unknown constructs if they are to be looked into. -/
def visitsOf (descend : Bool) (position : Position) (trail : Trail) (n : Node) : List Visit :=
  ⟨position, n, trail⟩ ::
    if position.Fits n.kind ∨ descend = true ∧ n.kind = .other then
      n.shape.slots.attach.flatMap fun slot => visitsOf descend slot.1.1 (n :: trail) slot.1.2
    else []
termination_by sizeOf n
decreasing_by
  exact Tree.sizeOf_lt_of_mem_children (Shape.mem_children_of_mem_slots slot.2)

/-- The visits of a whole traversal. -/
def Target.visits (descend : Bool) (target : Target) : List Visit :=
  target.roots.flatMap (visitsOf descend .topLevel [])

/-- The visits go on to the slots that a tour goes on to. -/
theorem visitsOf_eq (descend : Bool) (position : Position) (trail : Trail) (n : Node) :
    visitsOf descend position trail n =
      ⟨position, n, trail⟩ :: (n.shape.visits position descend).flatMap fun slot =>
        visitsOf descend slot.1 (n :: trail) slot.2 := by
  let below (slot : Position × Node) := visitsOf descend slot.1 (n :: trail) slot.2
  have goesOn : (position.Fits n.kind ∨ descend = true ∧ n.kind = .other) ↔
      (position.admits n.shape.kind || (descend && n.shape.kind == .other)) = true := by
    rw [Bool.or_eq_true, Bool.and_eq_true, beq_iff_eq, Position.admits_iff_fits]
    exact Iff.rfl
  rw [visitsOf, List.flatMap_subtype (g := below) fun _ _ => rfl, List.unattach_attach, Shape.visits]
  by_cases open_ : position.Fits n.kind ∨ descend = true ∧ n.kind = .other
  · rw [if_pos open_, if_pos (goesOn.mp open_)]
  · rw [if_neg open_, if_neg fun h => open_ (goesOn.mpr h)]
    rfl

/-- The visits of a node that is given by its parts. -/
theorem visitsOf_node (descend : Bool) (position : Position) (trail : Trail) (i : Nat) (p : Span)
    (s : Shape Node) :
    visitsOf descend position trail (.node i p s) =
      ⟨position, .node i p s, trail⟩ :: (s.visits position descend).flatMap fun slot =>
        visitsOf descend slot.1 (.node i p s :: trail) slot.2 :=
  visitsOf_eq ..

/-- Every node is visited in the position in which it stands. -/
theorem standing_of_mem_visitsOf {descend : Bool} {position : Position} {trail : Trail} {n : Node}
    (standing : position.Standing trail n) {v : Visit}
    (h : v ∈ visitsOf descend position trail n) : v.position.Standing v.trail v.node := by
  induction n using Tree.induct generalizing position trail with
  | node i p s ih =>
    rw [visitsOf_eq] at h
    rcases List.mem_cons.mp h with rfl | h
    · exact standing
    · obtain ⟨slot, goesOn, h⟩ := List.mem_flatMap.mp h
      exact ih slot.2 (Shape.mem_children_of_mem_visits goesOn) (standing_of_mem_visits goesOn) h

/-- Whether a tour comes to a node with this step: whether it is not an exit. -/
def Step.arrives : Step → Bool
  | unrecognized .. => true
  | event e => e.phase == .enter

/-- **A tour comes to its visits, one after the other**, and to nothing else. -/
theorem filter_arrives_tour (descend : Bool) (position : Position) (trail : Trail) (n : Node) :
    (tour descend position trail n).filter Step.arrives =
      (visitsOf descend position trail n).flatMap Visit.arrival := by
  -- By the tree: what is below one node is toured slot by slot.
  induction n using Tree.induct generalizing position trail with
  | node i p s ih =>
    set n : Node := .node i p s
    have before : (remark position trail n).filter Step.arrives = remark position trail n := by
      unfold remark
      split <;> rfl
    have below : (inside descend position trail n).filter Step.arrives =
        (n.shape.visits position descend).flatMap fun slot =>
          (visitsOf descend slot.1 (n :: trail) slot.2).flatMap Visit.arrival := by
      rw [inside, tours, List.filter_flatMap]
      exact List.flatMap_congr fun slot goesOn =>
        ih slot.2 (Shape.mem_children_of_mem_visits goesOn) slot.1 (n :: trail)
    -- Around what is below there are a remark and an entry, which stay, and an exit, which goes.
    rw [tour_eq_remark, List.filter_append, before, List.filter_cons_of_pos rfl,
      List.filter_append, below, visitsOf_eq, List.flatMap_cons, Visit.arrival_eq,
      List.flatMap_assoc]
    simp [Step.arrives]

/-- The visits of a whole traversal, as a tour comes to them. -/
theorem filter_arrives_steps (descend : Bool) (target : Target) :
    (target.steps descend).filter Step.arrives = (target.visits descend).flatMap Visit.arrival := by
  rw [Target.steps, Target.visits, List.filter_flatMap, List.flatMap_assoc]
  exact List.flatMap_congr fun root _ => filter_arrives_tour descend .topLevel [] root

/-! ### What a traversal counts -/

/-- Leaving out exits leaves out no entry. -/
theorem visited_filter_arrives (steps : List Step) :
    visited .enter (steps.filter Step.arrives) = visited .enter steps := by
  unfold visited eventsOf
  rw [List.filterMap_filter, List.filter_filterMap, List.filter_filterMap]
  congr 2
  funext step
  cases step with
  | unrecognized position node trail => rfl
  | event e =>
    obtain ⟨phase, node, trail⟩ := e
    cases phase <;> rfl

/-- Nor does it leave out a remark. -/
theorem countP_filter_arrives (steps : List Step) :
    (steps.filter Step.arrives).countP Step.isRemark = steps.countP Step.isRemark := by
  rw [List.countP_filter]
  congr 1
  funext step
  cases step <;> rfl

/-- There is a remark for every visit of a node that does not fit. -/
theorem countP_isRemark_steps (descend : Bool) (target : Target) :
    (target.steps descend).countP Step.isRemark =
      (target.visits descend).countP fun v => !decide v.Fits := by
  rw [← countP_filter_arrives, filter_arrives_steps]
  induction target.visits descend with
  | nil => rfl
  | cons v visits ih =>
    rw [List.flatMap_cons, List.countP_append, ih, Visit.countP_arrival, List.countP_cons,
      Nat.add_comm]
    by_cases fits : v.Fits <;> simp [fits]

namespace World

variable {σ : Type}

/-- **What a traversal recognizes**, if it succeeds. It comes to the nodes it visits one after the
other, each in the position in which it stands, and remarks on those that do not fit; and these are
what it counts as unrecognized. So it counts nothing if all of them fit, and it never counts a node
that is at home in positions of expressions and stands in one of them. -/
theorem traverse_recognizes (cast : Cast σ) (target : Target) (w : World σ) {summary : Summary}
    (success : (traverse cast target w).1 = .ok summary) :
    ∃ fired visits,
      (traverse cast target w).2.steps = w.steps ++ fired ∧
      visits = target.visits w.engine.settings.descendIntoUnknown ∧
      (∀ v ∈ visits, v.position.Standing v.trail v.node) ∧
      visited .enter fired = visits.map (fun v => (v.node, v.trail)) ∧
      fired.filter Step.arrives = visits.flatMap Visit.arrival ∧
      summary.unrecognized = visits.countP (fun v => !decide v.Fits) ∧
      (summary.unrecognized = 0 ↔ ∀ v ∈ visits, v.Fits) ∧
      ∀ n trail, n.category.family? = some .expression →
        Visit.arrival ⟨.expression, n, trail⟩ = [.event ⟨.enter, n, trail⟩] := by
  obtain ⟨fired, added, -, outcome⟩ := steps_traverse cast target w
  -- A tour that ran to its end announced all of its steps.
  rw [success] at outcome
  obtain ⟨rfl, rfl⟩ := outcome
  set descend := w.engine.settings.descendIntoUnknown
  have arrivals := filter_arrives_steps descend target
  have counted : (Summary.ofSteps (target.steps descend)).unrecognized =
      (target.visits descend).countP fun v => !decide v.Fits := by
    rw [Summary.ofSteps_eq]
    exact countP_isRemark_steps descend target
  refine ⟨_, _, added, rfl, fun v member => ?_, ?_, arrivals, counted, ?_, fun n trail home => ?_⟩
  · -- Every visit stands in the slot of a parent, by the tour of the root it is below.
    obtain ⟨root, -, member⟩ := List.mem_flatMap.mp member
    have top : Position.topLevel.Standing [] root := rfl
    exact standing_of_mem_visitsOf top member
  · rw [← visited_filter_arrives, arrivals, visited_flatMap]
    simp only [Visit.visited_arrival]
    exact List.map_eq_flatMap.symm
  · -- No node counted, no node out of place.
    rw [counted, List.countP_eq_zero]
    simp
  · exact if_pos (Position.fits_expression home)

/-! ### A block in the place of a type -/

namespace Stray

/-- A block, which is no type. -/
def block : Node := .node 0 .empty (.block false [])

/-- The class of an array, where an expression stands. -/
def array : Node := .node 1 .empty (.arrayType block)

def field : Node := .node 2 .empty (.variableDecl "v" none (some array))

def root : Node := .node 3 .empty (.classDecl "C" [field])

def cast : Cast Unit := ⟨fun _ _ _ => .done (), fun _ _ => .done ()⟩

/-- A world in which nobody listens. -/
def world : World Unit := ⟨.new {} (.collect []), .empty, 4, #[], #[], ()⟩

theorem visits_root : (Target.declaration root []).visits false =
    [⟨.topLevel, root, []⟩, ⟨.member, field, [root]⟩, ⟨.expression, array, [field, root]⟩,
      ⟨.type, block, [array, field, root]⟩] := by
  rw [Target.visits, Target.roots, List.flatMap_singleton, root, field, array, block]
  simp [visitsOf_node, Shape.visits, Shape.slots, Shape.kind, Position.admits]

theorem steps_root : (Target.declaration root []).steps false =
    [.event ⟨.enter, root, []⟩, .event ⟨.enter, field, [root]⟩,
      .event ⟨.enter, array, [field, root]⟩,
      .unrecognized .type block [array, field, root],
      .event ⟨.enter, block, [array, field, root]⟩,
      .event ⟨.exit, block, [array, field, root]⟩, .event ⟨.exit, array, [field, root]⟩,
      .event ⟨.exit, field, [root]⟩, .event ⟨.exit, root, []⟩] := by
  rw [Target.steps, Target.roots, List.flatMap_singleton, root, field, array, block]
  simp [tour_node, Shape.visits, Shape.slots, Shape.kind, Position.admits]

theorem traverse_root :
    (traverse cast (.declaration root []) world).1 = .ok ⟨4, 4, 1⟩ := by
  change (walk shut cast (.declaration root []) world).1 = _
  rw [walk_eq, show world.engine.settings.descendIntoUnknown = false from rfl, steps_root]
  rfl

end Stray

open Stray in
/-- An array type may stand where an expression belongs, but a block may not stand for its element
type. So it is the one node that is not recognized. -/
theorem traverse_recognizes_stray :
    (traverse cast (.declaration root []) world).1 = .ok ⟨4, 4, 1⟩ ∧
    ∃ fired : List Step,
      (traverse cast (.declaration root []) world).2.steps = [] ++ fired ∧
      fired.filter Step.arrives =
        [.event ⟨.enter, root, []⟩, .event ⟨.enter, field, [root]⟩,
          .event ⟨.enter, array, [field, root]⟩,
          .unrecognized .type block [array, field, root],
          .event ⟨.enter, block, [array, field, root]⟩] := by
  obtain ⟨fired, visits, added, rfl, -, -, arrivals, -⟩ :=
    traverse_recognizes cast (.declaration root []) world traverse_root
  refine ⟨traverse_root, fired, added, ?_⟩
  rw [arrivals, show world.engine.settings.descendIntoUnknown = false from rfl, visits_root]
  rfl

end World

end SyntaxTour
