import Mathlib.Data.List.Perm.Basic
import SyntaxTour.Proofs.Journal
import SyntaxTour.Proofs.Tours

/-!
# What a traversal covers

The slots of a node and its children are listed in different orders, by different functions,
and a child that had no slot would never be visited. No kind of node has such a child: below
a node that its position admits, a traversal visits all children, and each once. Below an
unrecognized node it visits nothing, unless it is told to look into unknown constructs.

* `Shape.slots_perm_children` says that the slots hold the children.
* `visited` reads off a list of steps which occurrences were entered or left, and
  `directlyBelow` those that are entered directly below a node.
* `Covers` says what is visited below one entry; `covers_of_beginsTour` proves it wherever an
  entry begins a tour.
* `visited_perm_occurrences` says that a tour without remarks visits each occurrence in a tree
  once, and `World.traverse_covers` puts both together for a traversal.
-/

namespace SyntaxTour

/-! ### Slots and children -/

/-- **The slots of a node hold its children**, each of them once. -/
theorem Shape.slots_perm_children {α : Type} (s : Shape α) :
    (s.slots.map Prod.snd).Perm s.children := by
  classical
  rw [List.perm_iff_count]
  intro a
  -- Most kinds have the same order in both; the counts settle those that do not.
  cases s <;> simp [slots, children, Function.comp_def, List.count_cons] <;> omega

/-- Below an admitted node a tour goes on to the children. -/
theorem visits_perm_children {position : Position} {n : Node} (descend : Bool)
    (admitted : position.admits n.kind) :
    ((n.shape.visits position descend).map Prod.snd).Perm n.children := by
  have slots : n.shape.visits position descend = n.shape.slots := by
    rw [Shape.visits, show n.shape.kind = n.kind from rfl, admitted]
    rfl
  rw [slots]
  exact n.shape.slots_perm_children

/-- Below an unknown construct a tour can be told to go on to the children. -/
theorem visits_of_unknown (position : Position) {n : Node} (unknown : n.kind = .other) :
    (n.shape.visits position true).map Prod.snd = n.children := by
  have looked : position.admits n.shape.kind || (true && n.shape.kind == .other) := by
    rw [show n.shape.kind = .other from unknown]
    exact Bool.or_true _
  rw [Shape.visits, if_pos looked, Tree.children]
  -- Unknown constructs are the only nodes of their kind.
  cases shape : n.shape with
  | unknown label children => simp [Shape.slots, Shape.children, Function.comp_def]
  | _ =>
    rw [Tree.kind, shape] at unknown
    cases unknown

/-! ### Occurrences -/

/-- **Every occurrence of a node in a tree**, with the nodes around it. -/
def occurrences (trail : Trail) (n : Node) : List (Node × Trail) :=
  (n, trail) :: n.children.attach.flatMap fun c => occurrences (n :: trail) c.1
termination_by sizeOf n
decreasing_by exact Tree.sizeOf_lt_of_mem_children c.2

theorem occurrences_eq (trail : Trail) (n : Node) :
    occurrences trail n = (n, trail) :: n.children.flatMap (occurrences (n :: trail)) := by
  rw [occurrences]
  simp [List.flatMap_subtype]

/-- Without what is around them, the occurrences are those of `Tree.preorder`. -/
theorem map_fst_occurrences (trail : Trail) (n : Node) :
    (occurrences trail n).map Prod.fst = n.preorder := by
  induction n using Tree.induct generalizing trail with
  | node i p s ih =>
    rw [occurrences_eq, Tree.preorder_eq, List.map_cons, List.map_flatMap]
    congr 1
    exact List.flatMap_congr fun c child => ih c child _

/-- **The occurrences that are entered, or left**, in the order of the steps. -/
def visited (phase : Phase) (steps : List Step) : List (Node × Trail) :=
  ((eventsOf steps).filter (·.phase == phase)).map fun e => (e.node, e.trail)

theorem visited_flatMap {α : Type} (phase : Phase) (l : List α) (f : α → List Step) :
    visited phase (l.flatMap f) = l.flatMap fun a => visited phase (f a) := by
  rw [visited, eventsOf_flatMap, List.filter_flatMap, List.map_flatMap]
  rfl

/-- The node of a tour is entered before what is inside, and left after it. -/
theorem visited_tour (phase : Phase) (descend : Bool) (position : Position) (trail : Trail)
    (n : Node) :
    visited phase (tour descend position trail n) =
      match phase with
      | .enter => (n, trail) :: visited phase (inside descend position trail n)
      | .exit => visited phase (inside descend position trail n) ++ [(n, trail)] := by
  rw [visited, visited, eventsOf_tour]
  cases phase <;> simp

/-- A tour without remarks is one of a node that its position admits. -/
theorem admits_of_quiet {descend : Bool} {position : Position} {trail : Trail} {n : Node}
    (quiet : ∀ step ∈ tour descend position trail n, step.isRemark = false) :
    position.admits n.kind := by
  by_contra refused
  have member : .unrecognized position n trail ∈ tour descend position trail n := by
    rw [tour_eq_remark, remark, if_neg refused]
    exact List.mem_append_left _ (List.mem_singleton_self _)
  exact Bool.noConfusion (quiet _ member)

open scoped List in
/-- **A tour without remarks visits every occurrence once.** -/
theorem visited_perm_occurrences (phase : Phase) {descend : Bool} {position : Position}
    {trail : Trail} {n : Node}
    (quiet : ∀ step ∈ tour descend position trail n, step.isRemark = false) :
    (visited phase (tour descend position trail n)).Perm (occurrences trail n) := by
  induction n using Tree.induct generalizing position trail with
  | node i p s ih =>
    set n : Node := .node i p s
    -- The slots come in the order of a visit, the children in that of the text.
    have below : (visited phase (inside descend position trail n)).Perm
        (n.children.flatMap (occurrences (n :: trail))) := by
      calc visited phase (inside descend position trail n)
          = (n.shape.visits position descend).flatMap fun slot =>
              visited phase (tour descend slot.1 (n :: trail) slot.2) :=
            visited_flatMap phase _ _
        _ ~ (n.shape.visits position descend).flatMap fun slot =>
              occurrences (n :: trail) slot.2 :=
            .flatMap_left _ fun slot visited =>
              ih slot.2 (Shape.mem_children_of_mem_visits visited) fun step member =>
                quiet step (mem_tour_of_mem_inside (List.mem_flatMap.mpr ⟨slot, visited, member⟩))
        _ = ((n.shape.visits position descend).map Prod.snd).flatMap (occurrences (n :: trail)) :=
            (List.flatMap_map ..).symm
        _ ~ n.children.flatMap (occurrences (n :: trail)) :=
            (visits_perm_children descend (admits_of_quiet quiet)).flatMap_right _
    rw [visited_tour, occurrences_eq]
    -- The event of the node itself stands in front of its children or behind them.
    cases phase with
    | enter => exact below.cons _
    | exit => exact (List.perm_append_singleton _ _).trans (below.cons _)

/-! ### Directly below a node -/

/-- What comes after the entry of a node with `trail` around it, up to its exit: the steps
that are deeper. -/
def during (trail : Trail) (steps : List Step) : List Step :=
  steps.takeWhile fun step => trail.depth < step.trail.depth

/-- **What is entered directly below a node** with `trail` around it, in the steps that come
after its entry. -/
def directlyBelow (trail : Trail) (steps : List Step) : List (Node × Trail) :=
  (visited .enter (during trail steps)).filter
    fun occurrence => occurrence.2.depth == trail.depth + 1

/-- A visit lasts until the tour leaves the node. -/
theorem during_inside (descend : Bool) (position : Position) (trail : Trail) (n : Node)
    (further : List Step) :
    during trail (inside descend position trail n ++ .event ⟨.exit, n, trail⟩ :: further) =
      inside descend position trail n := by
  rw [during, List.takeWhile_append_of_pos fun step member => by
      simpa using depth_lt_of_mem_inside member,
    List.takeWhile_cons_of_neg (by simp [Step.trail]), List.append_nil]

/-- Only the node of a tour is entered as far out as itself. -/
theorem filter_visited_tour (descend : Bool) (position : Position) (trail : Trail) (n : Node) :
    (visited .enter (tour descend position trail n)).filter
      (fun occurrence => occurrence.2.depth == trail.depth) = [(n, trail)] := by
  -- Of the two outermost events of a tour, only one is an entry.
  have outermost := filter_eventsOf_tour descend position trail n
  rw [visited, List.filter_map, List.filter_filter]
  simp only [Function.comp_def, Bool.and_comm]
  rw [← List.filter_filter, outermost]
  rfl

/-- Directly below a node, the tour enters what it goes on to, in this order. -/
theorem directlyBelow_inside (descend : Bool) (position : Position) (trail : Trail) (n : Node)
    (further : List Step) :
    directlyBelow trail
        (inside descend position trail n ++ .event ⟨.exit, n, trail⟩ :: further) =
      ((n.shape.visits position descend).map Prod.snd).map (·, n :: trail) := by
  have each (slot : Position × Node) :
      (visited .enter (tour descend slot.1 (n :: trail) slot.2)).filter
        (fun occurrence => occurrence.2.depth == trail.depth + 1) = [(slot.2, n :: trail)] :=
    filter_visited_tour descend slot.1 (n :: trail) slot.2
  rw [directlyBelow, during_inside, inside, tours, visited_flatMap, List.filter_flatMap]
  simp only [each, List.map_map, Function.comp_def]
  exact List.map_eq_flatMap.symm

/-! ### Whole traversals -/

/-- **What is visited directly below an entry**, given the steps before and after it. The
position decides whether the node is recognized, and the remark before the entry says that it
is not. Below a recognized node the children are visited, in some order. Below any other one
nothing is, except for the children of an unknown construct, in their order, if the tour is
to look into it. -/
def Covers (descend : Bool) (n : Node) (trail : Trail) (before after : List Step) : Prop :=
  ∃ position : Position, position.Standing trail n ∧
    remarked before = !position.admits n.kind ∧
    (position.admits n.kind = true →
      (directlyBelow trail after).Perm (n.children.map (·, n :: trail))) ∧
    (position.admits n.kind = false →
      if descend && n.kind == .other then
        directlyBelow trail after = n.children.map (·, n :: trail)
      else during trail after = [])

theorem covers_of_beginsTour {descend : Bool} {n : Node} {trail : Trail}
    {before after : List Step} (h : BeginsTour descend n trail before after) :
    Covers descend n trail before after := by
  obtain ⟨position, standing, remarks, further, rfl⟩ := h
  -- A node in its place, and one that is not recognized.
  refine ⟨position, standing, remarks, fun admitted => ?_, fun unrecognized => ?_⟩
  · rw [directlyBelow_inside]
    exact (visits_perm_children descend admitted).map _
  · split
    · -- Only the children of an unknown construct are visited nevertheless.
      next looked =>
      rw [Bool.and_eq_true, beq_iff_eq] at looked
      obtain ⟨rfl, unknown⟩ := looked
      rw [directlyBelow_inside, visits_of_unknown position unknown]
    · -- What is not recognized has no visits in it.
      next passed =>
      have visits : n.shape.visits position descend = [] := by
        rw [Shape.visits, show n.shape.kind = n.kind from rfl, unrecognized, Bool.false_or,
          if_neg passed]
      rw [during_inside, inside, visits]
      rfl

namespace World

variable {σ : Type}

/-- **What a traversal covers**, if it succeeds. At each of its entries it visits what there
is to visit directly below the node; and if it finds nothing unrecognized, then it enters
each occurrence of a node below its roots once, and leaves it once. -/
theorem traverse_covers (cast : Cast σ) (target : Target) (w : World σ) {summary : Summary}
    (success : (traverse cast target w).1 = .ok summary) :
    ∃ fired,
      (traverse cast target w).2.steps = w.steps ++ fired ∧
      (∀ before n trail after, fired = before ++ .event ⟨.enter, n, trail⟩ :: after →
        Covers w.engine.settings.descendIntoUnknown n trail before after) ∧
      (summary.unrecognized = 0 →
        ∀ phase, (visited phase fired).Perm (target.roots.flatMap (occurrences []))) := by
  obtain ⟨fired, added, -, outcome⟩ := steps_traverse cast target w
  rw [success] at outcome
  obtain ⟨rfl, rfl⟩ := outcome
  refine ⟨_, added, fun before n trail after split => ?_, fun none phase => ?_⟩
  · exact covers_of_beginsTour (beginsTour_of_steps split)
  · -- No remark is among the steps of any root.
    rw [Summary.ofSteps_eq, List.countP_eq_zero] at none
    rw [Target.steps, visited_flatMap]
    refine .flatMap_left _ fun root isRoot => visited_perm_occurrences phase fun step member => ?_
    exact Bool.eq_false_iff.mpr (none step (List.mem_flatMap.mpr ⟨root, isRoot, member⟩))

/-! ### A class with a method -/

namespace Method

/-- The result type of the method. -/
def result : Node := .node 0 .empty (.ident "T")

/-- The body of the method, which is visited before the result type. -/
def body : Node := .node 1 .empty (.block false [])

def method : Node := .node 2 .empty (.methodDecl "m" [] (some result) (some body))

def root : Node := .node 3 .empty (.classDecl "C" [method])

/-- A world in which nobody listens. -/
def world : World Unit := ⟨.new .default .log, .empty, 4, #[], #[], ()⟩

def cast : Cast Unit := ⟨fun _ _ _ => .done (), fun _ _ => .done ()⟩

theorem steps_root : (Target.declaration root []).steps false =
    [.event ⟨.enter, root, []⟩, .event ⟨.enter, method, [root]⟩,
      .event ⟨.enter, body, [method, root]⟩, .event ⟨.exit, body, [method, root]⟩,
      .event ⟨.enter, result, [method, root]⟩, .event ⟨.exit, result, [method, root]⟩,
      .event ⟨.exit, method, [root]⟩, .event ⟨.exit, root, []⟩] := by
  rw [Target.steps, Target.roots, List.flatMap_singleton, root, method, result, body]
  simp [tour_node, Shape.visits, Shape.slots, Shape.kind, Position.admits]

theorem traverse_root :
    (traverse cast (.declaration root []) world).1 = .ok ⟨4, 4, 0⟩ := by
  change (walk shut cast (.declaration root []) world).1 = _
  rw [walk_eq, show world.engine.settings.descendIntoUnknown = false from rfl, steps_root]
  rfl

end Method

open Method in
/-- A method with a body and a result type: the tour takes them the other way round than they
stand, and comes to every node once. -/
theorem traverse_covers_method :
    (traverse cast (.declaration root []) world).1 = .ok ⟨4, 4, 0⟩ ∧
      ∃ fired,
        (traverse cast (.declaration root []) world).2.steps = fired ∧
        (∀ before n trail after, fired = before ++ .event ⟨.enter, n, trail⟩ :: after →
          Covers false n trail before after) ∧
        ∀ phase, (visited phase fired).Perm (occurrences [] root) := by
  obtain ⟨fired, added, covers, once⟩ :=
    traverse_covers cast (.declaration root []) world traverse_root
  refine ⟨traverse_root, fired, added, covers, fun phase => ?_⟩
  rw [← List.flatMap_singleton (occurrences []) root]
  exact once rfl phase

end World

end SyntaxTour
