import SyntaxTour.Supply

/-!
# Editing containers

A class holds members and a block holds statements; both are containers, and what they
hold are their entries. An edit leaves the container alone and makes a copy with other
entries, the same span and the same name or modifier.

* `Node.insertAt` and `Node.append` add an entry.
* `Node.replaceEntry` puts any number of nodes where one entry was.

An edit of a node that is no container makes nothing. `Node.mapChildren` is the step that
works on every node: it passes the children through a function and marks on the way whether
anything changed. What it answers is a `Node.Content`, a node that is still to be made.
-/

namespace SyntaxTour

/-- The entries of a container. -/
def Tree.entries? {ι : Type} (t : Tree ι) : Option (List (Tree ι)) :=
  match t.shape with
  | .block _ statements => some statements
  | .classDecl _ members => some members
  | _ => none

/-- The shape of a container with other entries; a node of another kind has no entries to
exchange. -/
def Shape.withEntries? {α : Type} (entries : List α) : Shape α → Option (Shape α)
  | .block isStatic _ => some (.block isStatic entries)
  | .classDecl name _ => some (.classDecl name entries)
  | _ => none

/-- Blocks and classes are containers. -/
theorem Tree.exists_entries?_of_kind {ι : Type} {t : Tree ι}
    (container : t.kind = .block ∨ t.kind = .classDecl) : ∃ entries, t.entries? = some entries := by
  obtain ⟨i, span, shape⟩ := t
  unfold Tree.kind at container
  cases shape with
  | block isStatic statements => exact ⟨statements, rfl⟩
  | classDecl name members => exact ⟨members, rfl⟩
  | _ => rcases container with kind | kind <;> cases kind

/-- Replacing the children of a container replaces its entries. -/
theorem Tree.entries?_node_map {ι κ : Type} (i : κ) (span : Span) (f : Tree ι → Tree κ)
    (t : Tree ι) :
    (Tree.node i span (t.shape.map f)).entries? = t.entries?.map (List.map f) := by
  obtain ⟨i, span, shape⟩ := t
  cases shape <;> rfl

/-- Exchanging entries goes together with replacing children. -/
theorem Shape.withEntries?_map {α β : Type} (f : α → β) (entries : List α) (s : Shape α) :
    (s.map f).withEntries? (entries.map f) = (s.withEntries? entries).map (Shape.map f) := by
  cases s <;> rfl

/-- With other entries a node is of its kind, and the entries are its children. -/
theorem Shape.kind_children_of_withEntries? {α : Type} {entries : List α} {s s' : Shape α}
    (exchanged : s.withEntries? entries = some s') :
    s'.kind = s.kind ∧ s'.children = entries := by
  cases s with
  | block isStatic statements =>
    obtain rfl := Option.some.inj exchanged
    exact ⟨rfl, rfl⟩
  | classDecl name members =>
    obtain rfl := Option.some.inj exchanged
    exact ⟨rfl, rfl⟩
  | _ => cases exchanged

/-- A container has a shape for any entries. -/
theorem Tree.exists_withEntries? {ι : Type} {t : Tree ι} {entries : List (Tree ι)}
    (container : t.entries? = some entries) (entries' : List (Tree ι)) :
    ∃ shape, t.shape.withEntries? entries' = some shape := by
  obtain ⟨i, span, shape⟩ := t
  cases shape with
  | block isStatic statements => exact ⟨.block isStatic entries', rfl⟩
  | classDecl name members => exact ⟨.classDecl name entries', rfl⟩
  | _ => cases container

namespace Node

variable {m : Type → Type} [Monad m] [Supply m]

/-- A copy of a container with its entries edited. -/
def edit (t : Node) (f : List Node → List Node) : m (Option Node) :=
  match t.entries? with
  | none => pure none
  | some entries =>
    match t.shape.withEntries? (f entries) with
    | none => pure none
    | some shape => do
      let copy ← Node.make t.span shape
      pure (some copy)

/-- Editing a container makes one node, with the next identity. -/
theorem run_edit {t : Node} {entries : List Node} (container : t.entries? = some entries)
    {f : List Node → List Node} {shape : Shape Node}
    (exchanged : t.shape.withEntries? (f entries) = some shape) (next : Nat) :
    (t.edit f : Fresh (Option Node)) next = (some (.node next t.span shape), next + 1) := by
  unfold edit
  rw [container]
  dsimp only
  rw [exchanged]
  rfl

/-- A copy with `entry` before the entry at `index`, or at the end when there are not that
many. -/
def insertAt (t : Node) (index : Nat) (entry : Node) : m (Option Node) :=
  t.edit fun entries => entries.take index ++ entry :: entries.drop index

/-- A copy with `entry` at the end. -/
def append (t entry : Node) : m (Option Node) :=
  t.edit fun entries => entries ++ [entry]

/-- Behind all entries is at the end. -/
theorem insertAt_eq_append {t : Node} {entries : List Node} (container : t.entries? = some entries)
    {index : Nat} (behind : entries.length ≤ index) (entry : Node) :
    (t.insertAt index entry : m (Option Node)) = t.append entry := by
  unfold insertAt append edit
  rw [container]
  dsimp only
  rw [List.take_of_length_le behind, List.drop_of_length_le behind]

/-- A copy with the nodes of `replacement` in the place of `old`: the first entry identical
to it. Without such an entry nothing is made. -/
def replaceEntry (t old : Node) (replacement : List Node) : m (Option Node) :=
  match t.entries?.bind (·.findIdx? fun entry => entry.id == old.id) with
  | none => pure none
  | some position =>
    t.edit fun entries => entries.take position ++ (replacement ++ entries.drop (position + 1))

/-! ### Passing the children on -/

/-- **What a node is made of**: all of it but its identity. -/
structure Content where
  span : Span
  shape : Shape Node

namespace Content

/-- The node of a given identity. -/
def node (c : Content) (id : Nat) : Node := .node id c.span c.shape

/-- Making the node, with a new identity. -/
def make (c : Content) : m Node := Node.make c.span c.shape

end Content

section Pass

variable {μ : Type → Type} [Monad μ]

/-- Passing one child through a function. A change is marked if another node comes back. -/
def passOne (f : Node → μ Node) (n : Node) : StateT Bool μ Node := do
  let result ← f n
  if result.id ≠ n.id then set true
  pure result

/-- Passing a row of children through a function. The row has a mark of its own meanwhile, and
what was marked before it is marked again behind it. -/
def passRow (f : Node → μ Node) (row : List Node) : StateT Bool μ (List Node) := do
  let before ← get
  set false
  let results ← row.mapM (passOne f)
  modify (· || before)
  pure results

/-- **Passing the children of a node through a function**, in the order of `Tree.children`.
The answer is the content of the node with the results in place, or nothing when no change was
marked, as the function returned every child itself. -/
def mapChildren (f : Node → μ Node) (t : Node) : μ (Option Content) := do
  let (shape, changed) ← (t.shape.traverseRows (passOne f) (passRow f)).run false
  pure (if changed then some ⟨t.span, shape⟩ else none)

end Pass

end Node

end SyntaxTour
