import SyntaxTour.Error
import SyntaxTour.Notice
import SyntaxTour.Supply
import SyntaxTour.Table

/-!
# Patches

A patch is a list of requests to replace one node by another. Requests are collected while a
traversal runs and leave its tree alone; applying the patch afterwards makes a new version
of a tree, in which everything that did not change keeps its identity.

* `Patch.request` accepts a request or refuses it: a node that stands for a statement
  cannot be replaced by one that stands for an expression, nor the other way round.
* `Patch.replacements` is what the requests come to: the last one for each node.
* `Patch.rebuild` is the new version as a draft, in which copies have no identity yet.
  A replacement is patched in its turn, but never with the request that put it there.
* `Patch.apply` gives identities to the copies and adds what the log is told.
-/

namespace SyntaxTour

/-- **Whether one node may stand where another stood.** The two kinds must not belong to
opposite families of positions; unknown constructs belong to neither. -/
def checkReplacement (old new : Node) : Except Refusal Unit :=
  match old.category.family?, new.category.family? with
  | some a, some b => if a = b then .ok () else .error (.familyMismatch old.kind new.kind)
  | _, _ => .ok ()

/-- One request: `new` in the place of `old`. -/
structure Request where
  old : Node
  new : Node
  deriving Inhabited

/-- Requests, oldest first. -/
structure Patch where
  requests : List Request
  deriving Inhabited

/-- A version of a tree in which the nodes that are copies have no identity yet. -/
abbrev Draft := Tree (Option Nat)

namespace Patch

/-- No requests. -/
def empty : Patch := ⟨[]⟩

/-- The number of requests. -/
def size (p : Patch) : Nat := p.requests.length

/-- Whether there are no requests. -/
def isEmpty (p : Patch) : Bool := p.requests.isEmpty

/-- Adding a request at the end, if the replacement is allowed. -/
def request (p : Patch) (old new : Node) : Except Refusal Patch := do
  checkReplacement old new
  pure ⟨p.requests ++ [⟨old, new⟩]⟩

/-- The replacement requested last for a node. -/
def replacementFor? (p : Patch) (n : Node) : Option Node :=
  (p.requests.findRev? fun r => r.old.id == n.id).map (·.new)

/-- **What the requests come to**: the last replacement of every node, by its identity. -/
def replacements (p : Patch) : Table Nat Node :=
  p.requests.foldl (fun table r => table.put r.old.id r.new) []

/-- The requests for a node that an earlier request was about, in order. -/
def repeated : List Request → List Nat → List Request
  | [], _ => []
  | r :: rest, seen =>
    if seen.contains r.old.id then r :: repeated rest seen else repeated rest (r.old.id :: seen)

/-! ### Rebuilding a tree -/

/-- The keys of a table that are not among `active`. -/
def idle (table : Table Nat Node) (active : List Nat) : List Nat :=
  table.keys.filter fun key => !active.contains key

private theorem length_filter_lt {key : Nat} {active : List Nat} (h : active.contains key = false)
    (keys : List Nat) (mem : key ∈ keys) :
    (keys.filter fun k => !(key :: active).contains k).length <
      (keys.filter fun k => !active.contains k).length := by
  -- Following one more key never leaves more of them to follow.
  have le (l : List Nat) : (l.filter fun k => !(key :: active).contains k).length ≤
      (l.filter fun k => !active.contains k).length := by
    induction l with
    | nil => simp
    | cons k l ih =>
      by_cases hk : k = key <;> by_cases ha : k ∈ active <;> simp_all
      omega
  induction keys with
  | nil => simp at mem
  | cons k keys ih =>
    by_cases hk : k = key
    · -- The key itself was one of them and is none any more.
      subst hk
      have := le keys
      simp only [List.filter_cons, h, List.contains_cons, BEq.rfl, Bool.true_or, Bool.not_true,
        Bool.false_eq_true, Bool.not_false, if_true, if_false, List.length_cons]
      simp only [List.contains_cons] at this
      omega
    · have mem' : key ∈ keys := by simpa [Ne.symm hk] using mem
      have := ih mem'
      by_cases ha : k ∈ active <;> simp_all

/-- **The replacement to follow at a node**: the one its identity has in the table, unless
that replacement is being rebuilt already. -/
def pending? (table : Table Nat Node) (active : List Nat) (n : Node) : Option Node :=
  if active.contains n.id then none else table.get? n.id

theorem pending?_eq_some_iff {table : Table Nat Node} {active : List Nat} {n new : Node} :
    pending? table active n = some new ↔ n.id ∉ active ∧ table.get? n.id = some new := by
  simp [pending?]

theorem pending?_eq_none_iff {table : Table Nat Node} {active : List Nat} {n : Node} :
    pending? table active n = none ↔ n.id ∈ active ∨ table.get? n.id = none := by
  simp only [pending?, List.contains_iff_mem, ite_eq_left_iff]
  exact Decidable.imp_iff_not_or.trans (by rw [Decidable.not_not])

/-- Following a replacement leaves fewer of them to follow. -/
theorem idle_length_lt {table : Table Nat Node} {active : List Nat} {n new : Node}
    (h : pending? table active n = some new) :
    (idle table (n.id :: active)).length < (idle table active).length := by
  obtain ⟨unseen, hit⟩ := pending?_eq_some_iff.1 h
  exact length_filter_lt (by simpa using unseen) table.keys (Table.mem_keys_iff.2 ⟨new, hit⟩)

/-- **The new version of a tree**, where `active` lists the replacements that are being
rebuilt. A node with a replacement gives way to the new version of that replacement. Any
other node has the new versions of its children; it keeps its identity when they all kept
theirs, and is a copy otherwise. -/
def rebuild (table : Table Nat Node) (active : List Nat) (n : Node) : Draft :=
  match _h : pending? table active n with
  | some new => rebuild table (n.id :: active) new
  | none =>
    let shape := n.shape.attach.map fun c => rebuild table active c.1
    -- A copy is needed as soon as one child is another node than before.
    let kept := shape.children.map (·.id) == n.children.map fun c => some c.id
    .node (if kept then some n.id else none) n.span shape
termination_by ((idle table active).length, sizeOf n)
decreasing_by
  · exact Prod.Lex.left _ _ (idle_length_lt ‹_›)
  · exact Prod.Lex.right _ (Tree.sizeOf_lt_of_mem_children c.2)

theorem rebuild_of_pending {table : Table Nat Node} {active : List Nat} {n new : Node}
    (h : pending? table active n = some new) :
    rebuild table active n = rebuild table (n.id :: active) new := by
  rw [rebuild]
  split <;> simp_all

theorem rebuild_of_settled {table : Table Nat Node} {active : List Nat} {n : Node}
    (h : pending? table active n = none) :
    rebuild table active n =
      .node
        (if n.children.map (fun c => (rebuild table active c).id) = n.children.map (some ·.id)
          then some n.id else none)
        n.span (n.shape.map (rebuild table active)) := by
  rw [rebuild]
  split
  · simp_all
  · simp [Shape.map_attach (rebuild table active), Tree.children, Function.comp_def]

/-- The identities whose replacement is followed when a tree is rebuilt, in order and as
often as that happens. -/
def followed (table : Table Nat Node) (active : List Nat) (n : Node) : List Nat :=
  match _h : pending? table active n with
  | some new => n.id :: followed table (n.id :: active) new
  | none => n.children.attach.flatMap fun c => followed table active c.1
termination_by ((idle table active).length, sizeOf n)
decreasing_by
  · exact Prod.Lex.left _ _ (idle_length_lt ‹_›)
  · exact Prod.Lex.right _ (Tree.sizeOf_lt_of_mem_children c.2)

theorem followed_of_pending {table : Table Nat Node} {active : List Nat} {n new : Node}
    (h : pending? table active n = some new) :
    followed table active n = n.id :: followed table (n.id :: active) new := by
  rw [followed]
  split <;> simp_all

theorem followed_of_settled {table : Table Nat Node} {active : List Nat} {n : Node}
    (h : pending? table active n = none) :
    followed table active n = n.children.flatMap (followed table active) := by
  rw [followed]
  split
  · simp_all
  · simp [List.flatMap_subtype]

/-! ### Settling a draft -/

section Settle

variable {m : Type → Type} [Monad m] [Supply m]

/-- Giving every copy in a draft an identity of its own. -/
def settle : Draft → m Node
  | .node id span shape => do
    let shape ← shape.attach.traverse fun c => settle c.1
    match id with
    | some id => pure (.node id span shape)
    | none => Node.make span shape
termination_by d => sizeOf d
decreasing_by exact Tree.sizeOf_lt_of_mem_children (t := .node id span shape) c.2

theorem settle_node [LawfulMonad m] (id : Option Nat) (span : Span) (shape : Shape Draft) :
    settle (m := m) (.node id span shape) = (do
      let shape ← shape.traverse settle
      match id with
      | some id => pure (.node id span shape)
      | none => Node.make span shape) := by
  rw [settle, Shape.traverse_attach settle]

/-- A draft without copies is what it was made from, and takes no identity. -/
theorem settle_map_some [LawfulMonad m] (n : Node) : settle (m := m) (n.map some) = pure n := by
  induction n using Tree.induct with
  | node id span shape ih =>
    have children : (shape.map (Tree.map some)).traverse (settle (m := m)) = pure shape := by
      rw [Shape.traverse_map, Shape.traverse_congr ih, Shape.traverse_pure _ shape]
      exact congrArg pure (Shape.map_id shape)
    rw [Tree.map_node, settle_node, children]
    simp

/-- What the log is told when a patch is applied: each request about a node that an earlier
one was about, and at the end how many nodes with a replacement were not met. -/
def notices (p : Patch) (root : Node) : List Notice :=
  let table := p.replacements
  -- Every followed identity is a key of the table, so the difference is exact.
  let missed := table.length - (followed table [] root).eraseDups.length
  (repeated p.requests []).map (fun r => .requestedAgain r.old.kind)
    ++ if missed = 0 then [] else [.unreached missed]

/-- **Applying a patch**: the new version of the tree below `root`, and what the log is
told. -/
def apply (p : Patch) (root : Node) : m (Node × List Notice) := do
  let version ← settle (rebuild p.replacements [] root)
  pure (version, p.notices root)

end Settle

end Patch

end SyntaxTour
