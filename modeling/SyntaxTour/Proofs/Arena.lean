import SyntaxTour.Patch
import SyntaxTour.Proofs.Correspondence

/-!
# Arenas

An identity stands for a node: while trees are made, edited and patched, a number that was
given to one node is never given to another, and a node never changes. What was made so far
is an arena. Statements about identities are statements about the nodes of an arena.

* `Arena` is a set of nodes, closed under children, in which an identity determines its node,
  with the next identity to give. `Arena.empty` and `Arena.make` are how one comes about.
* `Arena.sketch` is a tree as the arena sees it: nodes of the arena are known by identity,
  and of all others only what they are made of. Two trees with one sketch are equal up to the
  identity of nodes made later.
* `Arena.seen` is a draft as the arena sees it, and `Arena.sketch_settle_eq_seen` says that
  settling a draft gives it nothing but identities that are new to the arena.
* `Arena.Drafts` says that a draft consists of nodes of the arena and of copies; settled, such
  a draft is seen as it is (`Arena.sketch_settle`).
-/

namespace SyntaxTour

/-- **The nodes made so far**, and the next identity to give. -/
structure Arena where
  next : Nat
  Holds : Node → Prop
  holds_child {n c : Node} : Holds n → c ∈ n.children → Holds c
  /-- Every identity was given before. -/
  id_lt {n : Node} : Holds n → n.id < next
  /-- An identity stands for one node. -/
  eq_of_id {a b : Node} : Holds a → Holds b → a.id = b.id → a = b

namespace Arena

/-- The arena in which nothing was made. -/
def empty : Arena where
  next := 0
  Holds _ := False
  holds_child h := h.elim
  id_lt h := h.elim
  eq_of_id h := h.elim

/-- The arena after a node was made of nodes it holds. -/
def make (a : Arena) (span : Span) (shape : Shape Node)
    (children : ∀ c ∈ shape.children, a.Holds c) : Arena where
  next := a.next + 1
  Holds n := a.Holds n ∨ n = .node a.next span shape
  holds_child := by
    -- The new node has only old children, so nothing above an old node is new.
    rintro n c (old | rfl) mem
    · exact .inl (a.holds_child old mem)
    · exact .inl (children c mem)
  id_lt := by
    rintro n (old | rfl)
    · exact Nat.lt_succ_of_lt (a.id_lt old)
    · exact Nat.lt_succ_self _
  eq_of_id := by
    rintro n n' (old | rfl) (old' | rfl) same
    · exact a.eq_of_id old old' same
    -- An old identity is below the counter, which the new node has.
    · exact absurd same (Nat.ne_of_lt (a.id_lt old))
    · exact absurd same (Nat.ne_of_gt (a.id_lt old'))
    · rfl

/-- A node without children can be made in any arena. -/
theorem holds_no_children (a : Arena) : ∀ c ∈ ([] : List Node), a.Holds c :=
  fun _ mem => nomatch mem

/-- Making a node in an arena is what `Node.make` does with the next identity. -/
theorem run_make (a : Arena) (span : Span) (shape : Shape Node)
    (children : ∀ c ∈ shape.children, a.Holds c) :
    (Node.make span shape : Fresh Node) a.next =
      (.node a.next span shape, (a.make span shape children).next) := rfl

/-- What occurs below a node of an arena is a node of the arena. -/
theorem holds_of_mem_preorder (a : Arena) {n m : Node} (hn : a.Holds n)
    (below : m ∈ n.preorder) : a.Holds m := by
  induction n using Tree.induct with
  | node i span shape ih =>
    rw [Tree.preorder_eq] at below
    obtain rfl | below := List.mem_cons.1 below
    · exact hn
    · obtain ⟨c, child, below⟩ := List.mem_flatMap.1 below
      exact ih c child (a.holds_child hn child) below

/-- A patch of an arena: all its requests are about nodes the arena holds. -/
def HoldsPatch (a : Arena) (p : Patch) : Prop :=
  ∀ r ∈ p.requests, a.Holds r.old ∧ a.Holds r.new

/-! ### Sketches -/

/-- **A tree as an arena sees it**: identities that were given later are forgotten. -/
def sketch (a : Arena) : Node → Draft :=
  Tree.map fun i => if i < a.next then some i else none

theorem sketch_node (a : Arena) (i : Nat) (span : Span) (shape : Shape Node) :
    a.sketch (.node i span shape) =
      .node (if i < a.next then some i else none) span (shape.map a.sketch) := by
  simp [sketch]

/-- Nothing is forgotten of a node that the arena holds. -/
theorem sketch_of_holds (a : Arena) {n : Node} (h : a.Holds n) : a.sketch n = n.map some := by
  induction n using Tree.induct with
  | node i span shape ih =>
    have children : shape.map a.sketch = shape.map (Tree.map some) :=
      Shape.map_congr fun c mem => ih c mem (a.holds_child h mem)
    have known : i < a.next := a.id_lt h
    rw [sketch_node, children, Tree.map_node, if_pos known]

/-- The sketch of a tree names its root exactly if the root is as old as the arena. -/
theorem id_sketch (a : Arena) (n : Node) :
    (a.sketch n).id = if n.id < a.next then some n.id else none := by
  obtain ⟨i, span, shape⟩ := n
  rw [sketch_node]
  rfl

/-! ### Drafts over an arena -/

/-- **A draft over an arena**: a node of the arena, or a copy whose children are drafts. -/
inductive Drafts (a : Arena) : Draft → Prop where
  | old (n : Node) : a.Holds n → Drafts a (n.map some)
  | copy (span : Span) (shape : Shape Draft) :
    (∀ c ∈ shape.children, Drafts a c) → Drafts a (.node none span shape)

/-- A draft with an identity is the node that the identity stands for. -/
theorem Drafts.eq_of_id {a : Arena} {d : Draft} (h : a.Drafts d) {n : Node} (hn : a.Holds n)
    (same : d.id = some n.id) : d = n.map some := by
  cases h with
  | old n' hn' =>
    obtain ⟨i, span, shape⟩ := n'
    rw [Tree.map_node, Tree.id_node, Option.some.injEq] at same
    rw [a.eq_of_id hn' hn same]
  | copy span shape children =>
    -- A copy has no identity yet.
    simp at same

/-- A copy is settled after its children, and takes the next identity. -/
theorem run_settle_copy (span : Span) (shape : Shape Draft) (next : Nat) :
    Patch.settle (m := Fresh) (.node none span shape) next =
      (.node (shape.traverse (Patch.settle (m := Fresh)) next).2 span
          (shape.traverse (Patch.settle (m := Fresh)) next).1,
        (shape.traverse (Patch.settle (m := Fresh)) next).2 + 1) := by
  rw [Patch.settle_node]
  rfl

/-- A settled node is settled after its children, and takes no identity. -/
theorem run_settle_old (id : Nat) (span : Span) (shape : Shape Draft) (next : Nat) :
    Patch.settle (m := Fresh) (.node (some id) span shape) next =
      (.node id span (shape.traverse (Patch.settle (m := Fresh)) next).1,
        (shape.traverse (Patch.settle (m := Fresh)) next).2) := by
  rw [Patch.settle_node]
  rfl

/-- Counting on from some identity or a later one, against having the results as they are. -/
private def countingOn (least : Nat) : Correspondence Fresh Id where
  Rel R x y := ∀ next, least ≤ next → R (x next).1 y ∧ least ≤ (x next).2
  pure related _ passed := ⟨related, passed⟩
  bind first later next passed :=
    let ⟨related, passed⟩ := first next passed
    later _ _ related _ passed

/-- **What is seen of the children is seen of the node**: if a function `g` of the nodes made for
the children comes to `k` whatever the counter, then so it does when they are made one after the
other. -/
theorem map_traverse {α β γ : Type} {least : Nat} {s : Shape α} {f : α → Fresh β} {g : β → γ}
    {k : α → γ}
    (each : ∀ c ∈ s.children, ∀ next, least ≤ next → g (f c next).1 = k c ∧ least ≤ (f c next).2)
    (next : Nat) (passed : least ≤ next) :
    (s.traverse f next).1.map g = s.map k ∧ least ≤ (s.traverse f next).2 := by
  have inside := (countingOn least).traverse (f := f) (k := fun c => (pure (k c) : Id γ))
    (g := g) each next passed
  rw [Shape.traverse_pure k] at inside
  exact inside

/-- **A draft as an arena sees it**: identities that were given later are forgotten. -/
def seen (a : Arena) : Draft → Draft := Tree.map fun id => id.filter (· < a.next)

theorem seen_node (a : Arena) (id : Option Nat) (span : Span) (shape : Shape Draft) :
    a.seen (.node id span shape) =
      .node (id.filter (· < a.next)) span (shape.map a.seen) := by
  simp [seen]

/-- Settling gives every draft identities that its arena does not know, and nothing else. -/
theorem sketch_settle_eq_seen (a : Arena) (d : Draft) (next : Nat) (passed : a.next ≤ next) :
    a.sketch (Patch.settle (m := Fresh) d next).1 = a.seen d ∧
      a.next ≤ (Patch.settle (m := Fresh) d next).2 := by
  induction d using Tree.induct generalizing next with
  | node id span shape ih =>
    -- The children are settled first, and the arena sees them as it should.
    obtain ⟨children, passed'⟩ := map_traverse ih next passed
    cases id with
    -- An old node: the arena knows it or not, and it looks the same before and after.
    | some id =>
      rw [run_settle_old, sketch_node, seen_node, children, Option.filter_some]
      refine ⟨?_, passed'⟩
      by_cases known : id < a.next <;> simp [known]
    | none =>
      -- The counter only grows, so the arena does not know the identity that the copy gets.
      rw [run_settle_copy, sketch_node, seen_node, children, if_neg (Nat.not_lt.2 passed')]
      exact ⟨rfl, Nat.le_succ_of_le passed'⟩

/-- A node without copies is seen in its draft as it is seen itself. -/
theorem seen_map_some (a : Arena) (n : Node) : a.seen (n.map some) = a.sketch n := by
  induction n using Tree.induct with
  | node i span shape ih =>
    have children : (shape.map (Tree.map some)).map a.seen = shape.map a.sketch :=
      (Shape.map_map _ _ shape).trans (Shape.map_congr ih)
    rw [Tree.map_node, seen_node, sketch_node, children, Option.filter_some]
    by_cases known : i < a.next <;> simp [known]

/-- A draft over an arena has no identities that the arena does not know. -/
theorem Drafts.seen_eq {a : Arena} {d : Draft} (h : a.Drafts d) : a.seen d = d := by
  induction h with
  | old n hn => rw [seen_map_some, a.sketch_of_holds hn]
  | copy span shape children ih =>
    rw [seen_node, Shape.map_congr (g := id) ih, Shape.map_id]
    rfl

/-- **Settling a draft over an arena gives it identities and nothing else**: what the arena
sees of the result is the draft. -/
theorem sketch_settle {a : Arena} {d : Draft} (h : a.Drafts d) (next : Nat)
    (passed : a.next ≤ next) :
    a.sketch (Patch.settle (m := Fresh) d next).1 = d ∧
      a.next ≤ (Patch.settle (m := Fresh) d next).2 := by
  have settled := a.sketch_settle_eq_seen d next passed
  rw [h.seen_eq] at settled
  exact settled

/-- The same of all children of a node at once. -/
theorem sketch_traverse_settle {a : Arena} (shape : Shape Draft)
    (h : ∀ d ∈ shape.children, a.Drafts d) (next : Nat) (passed : a.next ≤ next) :
    (shape.traverse (Patch.settle (m := Fresh)) next).1.map a.sketch = shape := by
  have children := (map_traverse (k := id) (fun d mem => sketch_settle (h d mem)) next passed).1
  rw [Shape.map_id] at children
  exact children

end Arena

end SyntaxTour
