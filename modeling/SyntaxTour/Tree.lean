import SyntaxTour.Shape
import SyntaxTour.Span

/-!
# Syntax trees with identities

A tree is a node with an identity, a span and a shape whose places are filled by trees.
Identities matter: two nodes with the same text are different nodes, a request names the
node it is about by its identity, and a new version of a tree keeps the identity of every
node it did not have to copy.

* `Tree ι` leaves the type of identities open. `Node` is `Tree Nat`; a version of a tree
  whose copied nodes have no identity yet is a `Tree (Option Nat)`; `Tree Unit` is a tree
  up to identity.
* `Tree.map` changes identities and nothing else, and `Tree.strip` forgets them.
* `Tree.fold` is recursion over a tree; its equation is `Tree.fold_node`.
* `Tree.preorder` lists every occurrence of a node, root first.
-/

namespace SyntaxTour

/-- **A node with everything below it.** -/
inductive Tree (ι : Type) where
  | node (id : ι) (span : Span) (shape : Shape (Tree ι))
  deriving Inhabited

/-- A node whose identity is a number. -/
abbrev Node := Tree Nat

namespace Tree

variable {ι κ β : Type}

/-- The identity of the root. -/
def id : Tree ι → ι
  | node id _ _ => id

/-- The span of the root. -/
def span : Tree ι → Span
  | node _ span _ => span

/-- The shape of the root. -/
def shape : Tree ι → Shape (Tree ι)
  | node _ _ shape => shape

@[simp] theorem id_node (i : ι) (p : Span) (s : Shape (Tree ι)) : (node i p s).id = i := rfl

@[simp] theorem span_node (i : ι) (p : Span) (s : Shape (Tree ι)) : (node i p s).span = p := rfl

@[simp] theorem shape_node (i : ι) (p : Span) (s : Shape (Tree ι)) :
    (node i p s).shape = s := rfl

/-- The kind of the root. -/
def kind (t : Tree ι) : Kind := t.shape.kind

/-- The category of the root. -/
def category (t : Tree ι) : Category := t.kind.category

/-- The trees directly below the root, in the order of the source text. -/
def children (t : Tree ι) : List (Tree ι) := t.shape.children

theorem sizeOf_lt_of_mem_children [SizeOf ι] {t c : Tree ι} (h : c ∈ t.children) :
    sizeOf c < sizeOf t := by
  obtain ⟨i, p, s⟩ := t
  have hs : sizeOf c < sizeOf s := Shape.sizeOf_lt_of_mem_children h
  simp only [node.sizeOf_spec]
  omega

/-- **Recursion over a tree**: the value at a node is computed from its identity, its span
and its shape with the values of the children in their places. -/
def fold (f : ι → Span → Shape β → β) : Tree ι → β
  | node i p s => f i p (s.attach.map fun c => fold f c.1)
termination_by t => sizeOf t
decreasing_by exact sizeOf_lt_of_mem_children (t := node i p s) c.2

@[simp] theorem fold_node (f : ι → Span → Shape β → β) (i : ι) (p : Span)
    (s : Shape (Tree ι)) : fold f (node i p s) = f i p (s.map (fold f)) := by
  rw [fold, Shape.map_attach (fold f)]

/-- Induction over a tree: what passes from the children to their parent holds everywhere. -/
@[elab_as_elim]
theorem induct {motive : Tree ι → Prop}
    (node : ∀ i p s, (∀ c ∈ s.children, motive c) → motive (node i p s)) (t : Tree ι) :
    motive t := by
  obtain ⟨i, p, s⟩ := t
  exact node i p s fun c _ => induct node c
termination_by sizeOf t
decreasing_by
  rename_i h
  exact sizeOf_lt_of_mem_children (t := Tree.node i p s) h

/-- Changing the identities of a tree. -/
def map (f : ι → κ) : Tree ι → Tree κ :=
  fold fun i p s => node (f i) p s

@[simp] theorem map_node (f : ι → κ) (i : ι) (p : Span) (s : Shape (Tree ι)) :
    (node i p s).map f = node (f i) p (s.map (map f)) := by
  simp [map]

@[simp] theorem id_map (f : ι → κ) (t : Tree ι) : (t.map f).id = f t.id := by
  obtain ⟨i, p, s⟩ := t
  rw [map_node, id_node, id_node]

@[simp] theorem span_map (f : ι → κ) (t : Tree ι) : (t.map f).span = t.span := by
  obtain ⟨i, p, s⟩ := t
  rw [map_node, span_node, span_node]

@[simp] theorem shape_map (f : ι → κ) (t : Tree ι) : (t.map f).shape = t.shape.map (map f) := by
  obtain ⟨i, p, s⟩ := t
  rw [map_node, shape_node, shape_node]

/-- The tree up to identity. -/
def strip (t : Tree ι) : Tree Unit := t.map fun _ => ()

/-- Every occurrence of a node in the tree: the root, then the occurrences below its
children one after the other. A node that stands in two places occurs twice. -/
def preorder (t : Tree ι) : List (Tree ι) :=
  t :: t.children.attach.flatMap fun c => preorder c.1
termination_by sizeOf t
decreasing_by exact sizeOf_lt_of_mem_children c.2

theorem preorder_eq (t : Tree ι) : t.preorder = t :: t.children.flatMap preorder := by
  rw [preorder]
  simp [List.flatMap_subtype]

theorem mem_preorder_self (t : Tree ι) : t ∈ t.preorder := by
  rw [preorder_eq]
  exact List.mem_cons_self

/-- What occurs below a child occurs below the parent. -/
theorem mem_preorder_of_mem_children {t c m : Tree ι} (child : c ∈ t.children)
    (below : m ∈ c.preorder) : m ∈ t.preorder := by
  rw [preorder_eq]
  exact List.mem_cons_of_mem _ (List.mem_flatMap.2 ⟨c, child, below⟩)

/-- Changing the identities of a tree changes them in every node that occurs in it. -/
theorem map_mem_preorder (f : ι → κ) {t m : Tree ι} (below : m ∈ t.preorder) :
    m.map f ∈ (t.map f).preorder := by
  induction t using induct with
  | node i p s ih =>
    rw [preorder_eq] at below
    rcases List.mem_cons.1 below with rfl | below
    · exact mem_preorder_self _
    · obtain ⟨c, child, below⟩ := List.mem_flatMap.1 below
      have child' : c.map f ∈ ((node i p s).map f).children := by
        rw [map_node, children, shape_node, Shape.children_map]
        exact List.mem_map_of_mem child
      exact mem_preorder_of_mem_children child' (ih c child below)

end Tree

end SyntaxTour
