import SyntaxTour.Diagnostic
import SyntaxTour.Grammar
import SyntaxTour.Import
import SyntaxTour.Notice

/-!
# Tours

A tour of a tree enters every node it comes to, goes on to the slots of that node, and
leaves the node again. What it does next depends on the tree and on one switch, and never on
anyone who listens: a tour is a list of steps, which can be told in full before the first
of them is announced. A tree whose parts stand in many places has far more steps than nodes,
though, and so whoever acts at the steps goes along the tour and need not see its end.

* `Trail` is the way from a node up to the root.
* `Event` is the beginning or the end of one visit; `Step` is an event, or the remark that
  the node about to be entered is unrecognized.
* `tour` is the list of steps below a node, `Target.steps` that of a whole traversal.
* `tourM` and `Target.tourM` act at the steps one by one; `Target.tourM_eq_forM` says that
  this is acting at the members of the list.
* `Summary.ofSteps` counts steps, and `Summary.counting` counts them on the way.
-/

namespace SyntaxTour

/-! ### Where an event happens -/

/-- The nodes around a node, innermost first. -/
abbrev Trail := List Node

namespace Trail

/-- The innermost node around. -/
def parent? (trail : Trail) : Option Node := trail.head?

/-- The outermost node around. -/
def root? (trail : Trail) : Option Node := trail.getLast?

/-- The number of nodes around. -/
def depth (trail : Trail) : Nat := trail.length

/-- The innermost node of a kind. -/
def nearest? (trail : Trail) (kind : Kind) : Option Node := trail.find? fun n => n.kind == kind

/-- Whether a node, by its identity, is around. -/
def holds (trail : Trail) (node : Node) : Bool := trail.any fun n => n.id == node.id

/-- The same nodes, outermost first. -/
def rootFirst (trail : Trail) : List Node := trail.reverse

/-- The kinds of the nodes around, outermost first. -/
def kinds (trail : Trail) : List Kind := trail.rootFirst.map (·.kind)

end Trail

/-- **The beginning or the end of the visit of a node.** -/
structure Event where
  phase : Phase
  node : Node
  trail : Trail

/-- One step of a tour. -/
inductive Step where
  /-- The node about to be entered is not expected in its position. -/
  | unrecognized (position : Position) (node : Node) (trail : Trail)
  | event (e : Event)

namespace Step

/-- The event, if the step is one. -/
def event? : Step → Option Event
  | event e => some e
  | unrecognized .. => none

/-- What is reported about an unrecognized node: its kind, its span and what encloses it,
and the label of an unknown construct. -/
def report (position : Position) (node : Node) (trail : Trail) : Diagnostic where
  kind := node.kind
  label := match node.shape with
    | .unknown label _ => some label
    | _ => none
  parent := trail.parent?.map (·.kind)
  span := node.span
  message := "Unrecognized " ++ node.kind.label ++ " in " ++ position.title ++ " position"

/-- The diagnostic of a step, if it has one. -/
def diagnostic? : Step → Option Diagnostic
  | event _ => none
  | unrecognized position node trail => some (report position node trail)

end Step

/-! ### The steps of a tour -/

/-- **The tour of everything below a node** that stands in a given position, with `trail`
around it. The switch `descend` tells whether it looks into unknown constructs. -/
def tour (descend : Bool) (position : Position) (trail : Trail) (n : Node) : List Step :=
  let remark := if position.admits n.kind then [] else [.unrecognized position n trail]
  let inside := (n.shape.visits position descend).attach.flatMap fun slot =>
    tour descend slot.1.1 (n :: trail) slot.1.2
  remark ++ .event ⟨.enter, n, trail⟩ :: (inside ++ [.event ⟨.exit, n, trail⟩])
termination_by sizeOf n
decreasing_by
  exact Tree.sizeOf_lt_of_mem_children (Shape.mem_children_of_mem_visits slot.2)

theorem tour_eq (descend : Bool) (position : Position) (trail : Trail) (n : Node) :
    tour descend position trail n =
      (if position.admits n.kind then [] else [.unrecognized position n trail]) ++
        .event ⟨.enter, n, trail⟩ ::
          ((n.shape.visits position descend).flatMap (fun slot =>
              tour descend slot.1 (n :: trail) slot.2) ++
            [.event ⟨.exit, n, trail⟩]) := by
  let inside (slot : Position × Node) := tour descend slot.1 (n :: trail) slot.2
  rw [tour, List.flatMap_subtype (g := inside) fun _ _ => rfl, List.unattach_attach]

/-! ### Going along a tour -/

section TourM

variable {m : Type → Type} [Monad m]

/-- **Acting at every step of a tour when the tour comes to it.** In a monad that can fail,
nothing that lies behind a failure is looked at. -/
@[specialize]
def tourM (descend : Bool) (act : Step → m Unit) (position : Position) (trail : Trail)
    (n : Node) : m Unit := do
  unless position.admits n.kind do
    act (.unrecognized position n trail)
  act (.event ⟨.enter, n, trail⟩)
  (n.shape.visits position descend).attach.forM fun slot =>
    tourM descend act slot.1.1 (n :: trail) slot.1.2
  act (.event ⟨.exit, n, trail⟩)
termination_by sizeOf n
decreasing_by
  exact Tree.sizeOf_lt_of_mem_children (Shape.mem_children_of_mem_visits slot.2)

theorem forM_attach [LawfulMonad m] {α : Type} (l : List α) (f : α → m Unit) :
    l.attach.forM (fun a => f a.1) = l.forM f := by
  have h := List.forM_map (l := l.attach) (g := Subtype.val) (f := f)
  rw [List.attach_map_subtype_val] at h
  exact h.symm

theorem forM_flatMap [LawfulMonad m] {α β : Type} (l : List α) (g : α → List β)
    (f : β → m Unit) : (l.flatMap g).forM f = l.forM fun a => (g a).forM f := by
  induction l with
  | nil => rfl
  | cons a l ih =>
    simp only [List.forM_eq_forM] at ih ⊢
    rw [List.flatMap_cons, List.forM_append, ih, List.forM_cons]

/-- Going along a tour is acting at the members of its list, one after the other. -/
theorem tourM_eq_forM [LawfulMonad m] (descend : Bool) (act : Step → m Unit)
    (position : Position) (trail : Trail) (n : Node) :
    tourM descend act position trail n = (tour descend position trail n).forM act := by
  induction n using Tree.induct generalizing position trail with
  | node i p s ih =>
    -- One place after the other is the list of all their steps.
    have inside : ((s.visits position descend).attach.forM fun slot =>
          tourM descend act slot.1.1 (.node i p s :: trail) slot.1.2) =
        ((s.visits position descend).flatMap fun slot =>
          tour descend slot.1 (.node i p s :: trail) slot.2).forM act := by
      rw [forM_flatMap, ← forM_attach (s.visits position descend)]
      congr 1
      funext slot
      exact ih _ (Shape.mem_children_of_mem_visits slot.2) _ _
    rw [tourM, tour_eq]
    simp only [List.forM_eq_forM] at inside ⊢
    rw [List.forM_append, List.forM_cons, List.forM_append, List.forM_cons, List.forM_nil,
      Tree.shape_node, inside]
    -- There is a remark in front of the events, or there is none.
    by_cases h : position.admits (Tree.node i p s).kind <;> simp [h]

end TourM

/-- **What a traversal is asked to walk**: one declaration under given imports, or a whole
source file. -/
inductive Target where
  | declaration (root : Node) (imports : Imports)
  | file (f : SourceFile)

namespace Target

/-- The nodes a tour starts from. -/
def roots : Target → List Node
  | declaration root _ => [root]
  | file f => f.declarations

/-- The imports that are in force. -/
def imports : Target → Imports
  | declaration _ imports => imports
  | file f => f.imports

/-- The steps of the whole tour. -/
def steps (descend : Bool) (target : Target) : List Step :=
  target.roots.flatMap (tour descend .topLevel [])

/-- Acting at every step of the whole tour when the tour comes to it. -/
@[specialize]
def tourM {m : Type → Type} [Monad m] (descend : Bool) (act : Step → m Unit)
    (target : Target) : m Unit :=
  target.roots.forM (SyntaxTour.tourM descend act .topLevel [])

/-- **Going along the whole tour is acting at the members of its list.** -/
theorem tourM_eq_forM {m : Type → Type} [Monad m] [LawfulMonad m] (descend : Bool)
    (act : Step → m Unit) (target : Target) :
    target.tourM descend act = (target.steps descend).forM act := by
  rw [tourM, steps, forM_flatMap]
  congr 1
  funext n
  exact SyntaxTour.tourM_eq_forM descend act .topLevel [] n

/-- What the log is told before the first step. -/
def notice : Target → Notice
  | declaration root _ => .traversingClass root.name?
  | file f => .traversingFile f.declarations.length f.package

end Target

/-! ### Counting -/

/-- How many nodes were entered, left and found unrecognized. -/
structure Summary where
  entered : Nat
  exited : Nat
  unrecognized : Nat
  deriving DecidableEq, Repr, Inhabited

namespace Summary

/-- Nothing counted. -/
def zero : Summary := ⟨0, 0, 0⟩

/-- Adding two counts. -/
def add (a b : Summary) : Summary :=
  ⟨a.entered + b.entered, a.exited + b.exited, a.unrecognized + b.unrecognized⟩

/-- What one step counts for. -/
def ofStep : Step → Summary
  | .unrecognized .. => ⟨0, 0, 1⟩
  | .event e =>
    match e.phase with
    | .enter => ⟨1, 0, 0⟩
    | .exit => ⟨0, 1, 0⟩

/-- What a list of steps counts for. -/
def ofSteps (steps : List Step) : Summary :=
  steps.foldl (fun total step => total.add (ofStep step)) zero

/-- Acting at a step and counting it. -/
@[inline]
def counting {m : Type → Type} [Monad m] (act : Step → m Unit) (step : Step) :
    StateT Summary m Unit := do
  act step
  modify (·.add (ofStep step))

/-- Counting on the way does not touch what is done, and ends with the count of all. -/
theorem run_forM_counting {m : Type → Type} [Monad m] [LawfulMonad m] (act : Step → m Unit)
    (steps : List Step) (total : Summary) :
    (steps.forM (counting act)).run total =
      (fun _ => ((), steps.foldl (fun total step => total.add (ofStep step)) total)) <$>
        steps.forM act := by
  induction steps generalizing total with
  | nil => simp [List.forM_eq_forM]
  | cons step steps ih =>
    simp only [List.forM_eq_forM] at ih ⊢
    simp [counting, List.forM_cons, ih]

/-- The counts in data. -/
def toJson (s : Summary) : Json :=
  .object [("entered", .int s.entered), ("exited", .int s.exited),
    ("unrecognized", .int s.unrecognized)]

end Summary

/-- What the log is told after the last step: the counts of a single declaration. -/
def Target.closing (target : Target) (total : Summary) : List Notice :=
  match target with
  | .declaration .. => [.finished total.entered total.unrecognized]
  | .file _ => []

end SyntaxTour
