import SyntaxTour.Proofs.Independence

/-!
# Looking into unknown constructs

One of the switches of a traversal decides whether it looks into unknown constructs. With the
switch on, a tour makes the steps it makes with the switch off, in the same order and each with
the same nodes around it, and more steps in between: all of them below an unknown construct,
which none of the others are.

* `Trail.isKnown` says that no unknown construct is around.
* `filter_tour` is the comparison of two tours of one node, `Target.filter_steps` that of two
  whole tours.
* `tour_true_eq` says that there is no difference where every unknown construct that is visited
  is empty.
* `World.traverse_descending` compares two traversals, by any listeners.
-/

namespace SyntaxTour

/-- Whether no unknown construct is around. -/
def Trail.isKnown (trail : Trail) : Bool := trail.all fun n => n.kind != .other

theorem Trail.isKnown_cons (n : Node) (trail : Trail) :
    Trail.isKnown (n :: trail) = (n.kind != .other && trail.isKnown) := rfl

/-- What goes on from a way that holds an unknown construct holds it too. -/
theorem Trail.isKnown_of_suffix {way trail : Trail} (h : way <:+ trail)
    (known : trail.isKnown = true) : way.isKnown = true := by
  unfold Trail.isKnown at known ⊢
  rw [List.all_eq_true] at known ⊢
  intro n member
  exact known n (h.subset member)

/-- No position admits an unknown construct. -/
theorem Position.admits_other (position : Position) : position.admits .other = false := by
  cases position <;> rfl

/-- An event has the trail of its step. -/
theorem eventsOf_filter (steps : List Step) :
    eventsOf (steps.filter fun step => step.trail.isKnown) =
      (eventsOf steps).filter fun e => e.trail.isKnown := by
  unfold eventsOf
  rw [List.filterMap_filter, List.filter_filterMap]
  congr 1
  funext step
  cases step with
  | unrecognized position node trail => exact ite_self none
  | event e =>
    rw [Step.event?, Option.filter_some]
    rfl

/-! ### What the switch decides -/

namespace Shape

variable {α : Type} {s : Shape α}

/-- With the switch off, nothing in an unknown construct is visited. -/
theorem visits_false_of_other (position : Position) (unknown : s.kind = .other) :
    s.visits position false = [] := by
  rw [visits, unknown, Position.admits_other]
  rfl

/-- The switch is of no consequence for a node of any other kind. -/
theorem visits_true_of_ne (position : Position) (known : s.kind ≠ .other) :
    s.visits position true = s.visits position false := by
  have other : (s.kind == .other) = false := beq_eq_false_iff_ne.mpr known
  rw [visits, visits, other, Bool.and_false, Bool.and_false]

/-- Neither is it for a node without children. -/
theorem visits_eq_nil_of_childless (position : Position) (descend : Bool)
    (childless : s.children = []) : s.visits position descend = [] := by
  rw [List.eq_nil_iff_forall_not_mem]
  intro slot visited
  have child := mem_children_of_mem_visits visited
  rw [childless] at child
  exact List.not_mem_nil child

end Shape

/-! ### Two tours -/

section

variable {position : Position} {trail : Trail} {n : Node}

/-- What is around the node of a tour is around at each of its steps. -/
theorem suffix_trail_of_mem_tour {descend : Bool} {step : Step}
    (h : step ∈ tour descend position trail n) : trail <:+ step.trail := by
  have way : n :: trail <:+ step.node :: step.trail := suffix_way_of_mem_tour h
  rcases List.suffix_cons_iff.mp way with same | later
  · obtain ⟨-, around⟩ := List.cons.inj same
    exact around ▸ List.suffix_rfl
  · exact (List.suffix_cons n trail).trans later

/-- Below an unknown construct every step has it around. -/
theorem filter_inside_of_other (unknown : n.kind = .other) (descend : Bool) :
    (inside descend position trail n).filter (fun step => step.trail.isKnown) = [] := by
  rw [List.filter_eq_nil_iff]
  intro step member known
  obtain ⟨slot, -, member⟩ := List.mem_flatMap.mp member
  have around := Trail.isKnown_of_suffix (suffix_trail_of_mem_tour member) known
  rw [Trail.isKnown_cons, unknown] at around
  exact Bool.noConfusion around

/-- The steps of a tour, apart from those inside, have around them what the tour has. -/
theorem filter_tour_eq (descend : Bool) (known : trail.isKnown = true) :
    (tour descend position trail n).filter (fun step => step.trail.isKnown) =
      remark position trail n ++ .event ⟨.enter, n, trail⟩ ::
        ((inside descend position trail n).filter (fun step => step.trail.isKnown) ++
          [.event ⟨.exit, n, trail⟩]) := by
  -- A remark is about the place of the node itself.
  have remarks : (remark position trail n).filter (fun step => step.trail.isKnown) =
      remark position trail n := by
    rw [List.filter_eq_self]
    intro step member
    unfold remark at member
    split at member
    · exact absurd member List.not_mem_nil
    · rw [List.mem_singleton.mp member]
      exact known
  -- Entry and exit have around them what the tour has.
  have own (phase : Phase) (steps : List Step) :
      (.event ⟨phase, n, trail⟩ :: steps).filter (fun step => step.trail.isKnown) =
        .event ⟨phase, n, trail⟩ :: steps.filter (fun step => step.trail.isKnown) :=
    List.filter_cons_of_pos (p := fun step : Step => step.trail.isKnown) known
  rw [tour_eq_remark, List.filter_append, remarks, own, List.filter_append, own, List.filter_nil]

/-- **The switch only adds steps, and all of them below unknown constructs.** Without those, a
tour that looks into unknown constructs is the tour that does not. -/
theorem filter_tour (known : trail.isKnown = true) :
    (tour true position trail n).filter (fun step => step.trail.isKnown) =
      tour false position trail n := by
  induction n using Tree.induct generalizing position trail with
  | node i p s ih =>
    rw [filter_tour_eq true known, tour_eq_remark]
    congr 3
    set n : Node := .node i p s
    by_cases unknown : n.kind = .other
    · -- The tour that does not look inside has nothing there.
      have nothing : inside false position trail n = [] := by
        rw [inside, Shape.visits_false_of_other position unknown]
        rfl
      rw [filter_inside_of_other unknown, nothing]
    · -- The node is known, and so are all that stand around its children.
      have below : Trail.isKnown (n :: trail) = true := by
        rw [Trail.isKnown_cons, known, Bool.and_true]
        exact bne_iff_ne.mpr unknown
      rw [inside, inside, tours, tours, List.filter_flatMap,
        Shape.visits_true_of_ne position unknown]
      refine List.flatMap_congr fun slot visited => ?_
      exact ih slot.2 (Shape.mem_children_of_mem_visits visited) below

/-- **There is no difference where the visited unknown constructs are empty.** -/
theorem tour_true_eq
    (empty : ∀ e ∈ eventsOf (tour false position trail n), e.node.kind = .other →
      e.node.children = []) :
    tour true position trail n = tour false position trail n := by
  induction n using Tree.induct generalizing position trail with
  | node i p s ih =>
    rw [tour_eq_remark, tour_eq_remark]
    congr 3
    rw [eventsOf_tour] at empty
    set n : Node := .node i p s
    by_cases unknown : n.kind = .other
    · -- The node itself is one of those that are visited.
      have childless : n.shape.children = [] := empty _ List.mem_cons_self unknown
      rw [inside, inside, Shape.visits_eq_nil_of_childless position true childless,
        Shape.visits_eq_nil_of_childless position false childless]
      rfl
    · -- What is visited below a known node is visited either way.
      rw [inside, inside, tours, tours, Shape.visits_true_of_ne position unknown]
      refine List.flatMap_congr fun slot visited => ?_
      refine ih slot.2 (Shape.mem_children_of_mem_visits visited) fun e member => ?_
      refine empty e (List.mem_cons_of_mem _ (List.mem_append_left _ (mem_eventsOf.mpr ?_)))
      exact List.mem_flatMap.mpr ⟨slot, visited, mem_eventsOf.mp member⟩

end

namespace Target

variable (target : Target)

theorem filter_steps :
    (target.steps true).filter (fun step => step.trail.isKnown) = target.steps false := by
  unfold steps
  rw [List.filter_flatMap]
  exact List.flatMap_congr fun root _ => filter_tour rfl

theorem steps_true_eq
    (empty : ∀ e ∈ target.events false, e.node.kind = .other → e.node.children = []) :
    target.steps true = target.steps false := by
  unfold steps
  refine List.flatMap_congr fun root isRoot => tour_true_eq fun e member => ?_
  refine empty e (mem_eventsOf.mpr ?_)
  exact List.mem_flatMap.mpr ⟨root, isRoot, mem_eventsOf.mp member⟩

/-- The events of the two tours compare like their steps. -/
theorem filter_events :
    (target.events true).filter (fun e => e.trail.isKnown) = target.events false := by
  unfold events
  rw [← eventsOf_filter, filter_steps]

end Target

/-- Fewer steps count for less. -/
theorem Summary.ofSteps_le {steps further : List Step} (fewer : steps.Sublist further) :
    (ofSteps steps).entered ≤ (ofSteps further).entered ∧
      (ofSteps steps).unrecognized ≤ (ofSteps further).unrecognized := by
  rw [ofSteps_eq, ofSteps_eq]
  exact ⟨fewer.countP_le, fewer.countP_le⟩

/-- Fewer steps call for fewer diagnostics. -/
theorem Settings.diagnosed_sublist {s s' : Settings}
    (same : s.reportUnrecognized = s'.reportUnrecognized) {steps further : List Step}
    (fewer : steps.Sublist further) : (s.diagnosed steps).Sublist (s'.diagnosed further) := by
  unfold diagnosed
  rw [same]
  split
  · exact fewer.filterMap Step.diagnostic?
  · exact List.Sublist.slnil

/-! ### Two traversals -/

namespace World

variable {σ τ : Type}

/-- **Looking into unknown constructs only adds events.** Take any two traversals that succeed
from the same roots, by whatever listeners and in whatever worlds, under settings that differ in
the one switch. The events of the one that does not look into unknown constructs are those
events of the other that have no unknown construct around them, in the same order and with the
same nodes around each; its diagnostics are among those of the other, and it counts no more
entries and no more unrecognized nodes. If every unknown construct that it visits is empty, then
there is no difference at all. -/
theorem traverse_descending (cast : Cast σ) (cast' : Cast τ) (target target' : Target)
    (w : World σ) (w' : World τ) (roots : target.roots = target'.roots)
    (off : w.engine.settings.descendIntoUnknown = false)
    (on : w'.engine.settings = { w.engine.settings with descendIntoUnknown := true })
    {summary summary' : Summary} (success : (traverse cast target w).1 = .ok summary)
    (success' : (traverse cast' target' w').1 = .ok summary') :
    ∃ fired told fired' told',
      Adds w (traverse cast target w).2 fired told ∧
      Adds w' (traverse cast' target' w').2 fired' told' ∧
      fired = fired'.filter (fun e => e.trail.all fun n => n.kind != .other) ∧
      fired.Sublist fired' ∧ told.Sublist told' ∧
      summary.entered ≤ summary'.entered ∧ summary.unrecognized ≤ summary'.unrecognized ∧
      ((∀ e ∈ fired, e.node.kind = .other → e.node.children = []) →
        fired = fired' ∧ told = told' ∧ summary = summary') := by
  -- Either traversal adds what its own tour fires and reports.
  obtain ⟨steps, -, adds, whole⟩ := traverse_adds cast target w
  obtain ⟨steps', -, adds', whole'⟩ := traverse_adds cast' target' w'
  obtain ⟨rfl, rfl⟩ := whole summary success
  obtain ⟨rfl, rfl⟩ := whole' summary' success'
  -- The steps depend on the roots and on the switch, so both tours are tours of one target.
  have tours' : target'.steps w'.engine.settings.descendIntoUnknown = target.steps true := by
    rw [on, Target.steps, Target.steps, roots]
  -- With the switch off the tour is a part of what it is with the switch on.
  rw [off] at adds ⊢
  rw [tours'] at adds' ⊢
  have reports : w.engine.settings.reportUnrecognized = w'.engine.settings.reportUnrecognized := by
    rw [on]
  have fewer : (target.steps false).Sublist (target.steps true) := by
    rw [← target.filter_steps]
    exact List.filter_sublist
  have counted := Summary.ofSteps_le fewer
  refine ⟨_, _, _, _, adds, adds', target.filter_events.symm, fewer.filterMap Step.event?,
    Settings.diagnosed_sublist reports fewer, counted.1, counted.2, fun empty => ?_⟩
  -- Where no construct has anything inside of it there is nothing to descend into.
  have same : target.steps true = target.steps false := target.steps_true_eq empty
  rw [same]
  refine ⟨rfl, ?_, rfl⟩
  unfold Settings.diagnosed
  rw [reports]

/-! ### A construct with something in it -/

namespace Macro

/-- An empty construct inside of another. -/
def inner : Node := .node 0 .empty (.unknown "Inner" [])

def outer : Node := .node 1 .empty (.unknown "Macro" [inner])

def root : Node := .node 2 .empty (.classDecl "C" [outer])

def target : Target := .declaration root []

def cast : Cast Unit := ⟨fun _ _ _ => .done (), fun _ _ => .done ()⟩

/-- A world in which nobody listens. -/
def world (descend : Bool) : World Unit :=
  ⟨.new { descendIntoUnknown := descend } (.collect []), .empty, 3, #[], #[], ()⟩

theorem steps_false : target.steps false =
    [.event ⟨.enter, root, []⟩, .unrecognized .member outer [root],
      .event ⟨.enter, outer, [root]⟩, .event ⟨.exit, outer, [root]⟩,
      .event ⟨.exit, root, []⟩] := by
  rw [target, Target.steps, Target.roots, List.flatMap_singleton, root, outer, inner]
  simp [tour_node, Shape.visits, Shape.slots, Shape.kind, Position.admits]

theorem steps_true : target.steps true =
    [.event ⟨.enter, root, []⟩, .unrecognized .member outer [root],
      .event ⟨.enter, outer, [root]⟩,
      .unrecognized .loose inner [outer, root],
      .event ⟨.enter, inner, [outer, root]⟩, .event ⟨.exit, inner, [outer, root]⟩,
      .event ⟨.exit, outer, [root]⟩, .event ⟨.exit, root, []⟩] := by
  rw [target, Target.steps, Target.roots, List.flatMap_singleton, root, outer, inner]
  simp [tour_node, Shape.visits, Shape.slots, Shape.kind, Position.admits]

theorem traverse_false : (traverse cast target (world false)).1 = .ok ⟨2, 2, 1⟩ := by
  change (walk shut cast target (world false)).1 = _
  rw [walk_eq, show (world false).engine.settings.descendIntoUnknown = false from rfl,
    steps_false]
  rfl

theorem traverse_true : (traverse cast target (world true)).1 = .ok ⟨3, 3, 2⟩ := by
  change (walk shut cast target (world true)).1 = _
  rw [walk_eq, show (world true).engine.settings.descendIntoUnknown = true from rfl, steps_true]
  rfl

end Macro

open Macro in
/-- A construct inside of another: without descending it is neither visited nor reported. -/
theorem traverse_descending_macro :
    (traverse cast target (world false)).1 = .ok ⟨2, 2, 1⟩ ∧
    (traverse cast target (world true)).1 = .ok ⟨3, 3, 2⟩ ∧
    ∃ fired told fired' told',
      Adds (world false) (traverse cast target (world false)).2 fired told ∧
      Adds (world true) (traverse cast target (world true)).2 fired' told' ∧
      fired = fired'.filter (fun e => e.trail.all fun n => n.kind != .other) ∧
      told.Sublist told' := by
  obtain ⟨fired, told, fired', told', adds, adds', known, -, fewer, -⟩ :=
    traverse_descending cast cast target target (world false) (world true) rfl rfl rfl
      traverse_false traverse_true
  exact ⟨traverse_false, traverse_true, fired, told, fired', told', adds, adds', known, fewer⟩

end World

end SyntaxTour
