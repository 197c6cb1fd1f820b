import SyntaxTour.Proofs.Arena

/-!
# New versions of a tree

A version is rebuilt under a stack of replacements that are being rebuilt already. The stack
is not needed to say what comes out: to rebuild under a stack is to rebuild with a patch from
which the requests for the nodes on the stack were taken away.

* `Patch.without` takes the requests for some nodes away.
* `Patch.pending?_without` says that this leaves exactly what is pending under a stack, and
  `Patch.rebuild_congr` that nothing else counts.
* `Patch.version` is the tree that `Patch.apply` makes in an arena; what the arena sees of it
  is the rebuilt draft (`Patch.sketch_version`).
* `Patch.version_compositional` describes a version without any stack: a node without a
  replacement has the versions of its children, and the version of a node with a replacement
  is that of the replacement by the patch without the requests for the node.
-/

namespace SyntaxTour

namespace Patch

/-! ### Taking requests away -/

/-- The patch without its requests for the nodes of the given identities. -/
def without (p : Patch) (active : List Nat) : Patch :=
  ⟨p.requests.filter fun r => !active.contains r.old.id⟩

private theorem get?_foldl_put (rs : List Request) (table : Table Nat Node) (key : Nat) :
    (rs.foldl (fun table r => table.put r.old.id r.new) table).get? key =
      ((rs.findRev? fun r => r.old.id == key).map (·.new)).or (table.get? key) := by
  induction rs generalizing table with
  | nil => rfl
  | cons r rs ih =>
    -- The first request counts only when no later one is for the same key.
    rw [List.foldl_cons, ih, List.findRev?_eq_find?_reverse, List.findRev?_eq_find?_reverse,
      List.reverse_cons, List.find?_append, List.find?_singleton]
    by_cases same : r.old.id = key
    · subst same
      rw [Table.get?_put_self, if_pos BEq.rfl, Option.map_or, Option.or_assoc]
      rfl
    · rw [Table.get?_put_of_ne (Ne.symm same), if_neg (by simpa using same), Option.or_none]

/-- **The last request for a node wins**: its replacement is the one found from the end. -/
theorem get?_replacements (p : Patch) (key : Nat) :
    p.replacements.get? key =
      (p.requests.findRev? fun r => r.old.id == key).map (·.new) := by
  rw [replacements, get?_foldl_put, Table.get?_nil, Option.or_none]

/-- A replacement was asked for by some request. -/
theorem exists_request_of_get? {p : Patch} {key : Nat} {new : Node}
    (hit : p.replacements.get? key = some new) :
    ∃ r ∈ p.requests, r.old.id = key ∧ r.new = new := by
  rw [get?_replacements, List.findRev?_eq_find?_reverse, Option.map_eq_some_iff] at hit
  obtain ⟨r, found, rfl⟩ := hit
  have matched := List.find?_some found
  exact ⟨r, List.mem_reverse.1 (List.mem_of_find?_eq_some found), by simpa using matched, rfl⟩

/-- Taking requests away leaves the other replacements as they are. -/
theorem get?_replacements_without (p : Patch) (active : List Nat) (key : Nat) :
    (p.without active).replacements.get? key =
      if active.contains key then none else p.replacements.get? key := by
  rw [get?_replacements, get?_replacements, List.findRev?_eq_find?_reverse,
    List.findRev?_eq_find?_reverse, without, ← List.filter_reverse, List.find?_filter]
  split
  · next taken =>
    rw [Option.map_eq_none_iff, List.find?_eq_none]
    intro r _ matched
    have : r.old.id = key ∧ r.old.id ∉ active := by simpa [and_comm] using matched
    exact this.2 (this.1 ▸ List.contains_iff_mem.1 taken)
  · next kept =>
    congr 2
    funext r
    by_cases same : r.old.id = key
    · simpa [same] using kept
    · simp [same]

/-! ### What is pending decides -/

/-- A replacement that is being rebuilt is not pending any more; all others are as before. -/
theorem pending?_cons (table : Table Nat Node) (key : Nat) (active : List Nat) (n : Node) :
    pending? table (key :: active) n =
      if n.id = key then none else pending? table active n := by
  by_cases same : n.id = key <;> simp [pending?, same]

/-- What is pending under a stack is pending, under no stack, in the patch without the requests
for the nodes on the stack. -/
theorem pending?_without (p : Patch) (active : List Nat) (n : Node) :
    pending? (p.without active).replacements [] n = pending? p.replacements active n := by
  simp [pending?, get?_replacements_without]

/-- **Rebuilding looks at nothing but what is pending.** -/
theorem rebuild_congr {table table' : Table Nat Node} {active active' : List Nat}
    (same : ∀ m, pending? table active m = pending? table' active' m) (n : Node) :
    rebuild table active n = rebuild table' active' n := by
  -- The recursion of `followed` is that of `rebuild`, with nothing but the way it goes.
  induction active, n using followed.induct table generalizing active' with
  | case1 active n new hit ih =>
    -- Following the same replacement at the same node leaves the same ones pending.
    rw [rebuild_of_pending hit, rebuild_of_pending ((same n).symm.trans hit)]
    refine ih fun m => ?_
    rw [pending?_cons, pending?_cons, same m]
  | case2 active n none ih =>
    have children : ∀ c ∈ n.children, rebuild table active c = rebuild table' active' c :=
      fun c mem => ih ⟨c, mem⟩ same
    rw [rebuild_of_settled none, rebuild_of_settled ((same n).symm.trans none),
      List.map_congr_left fun c mem => congrArg Tree.id (children c mem),
      Shape.map_congr children]

/-- **A stack is a smaller patch.** -/
theorem rebuild_without (p : Patch) (active : List Nat) (n : Node) :
    rebuild p.replacements active n = rebuild (p.without active).replacements [] n :=
  rebuild_congr (fun m => (pending?_without p active m).symm) n

/-! ### Versions in an arena -/

variable {a : Arena}

/-- **Rebuilding keeps identities apart**: a rebuilt node is a node of the arena or a copy. -/
theorem drafts_rebuild {table : Table Nat Node}
    (values : ∀ key new, table.get? key = some new → a.Holds new) (active : List Nat)
    (n : Node) (hn : a.Holds n) : a.Drafts (rebuild table active n) := by
  -- By the recursion itself: either a replacement is followed, or the children are rebuilt.
  induction active, n using followed.induct table with
  | case1 active n new hit ih =>
    rw [rebuild_of_pending hit]
    exact ih (values _ _ (pending?_eq_some_iff.1 hit).2)
  | case2 active n none ih =>
    have drafts : ∀ c ∈ n.children, a.Drafts (rebuild table active c) :=
      fun c mem => ih ⟨c, mem⟩ (a.holds_child hn mem)
    rw [rebuild_of_settled none]
    split
    · next kept =>
      -- A child that kept its identity is the child itself, so the node is itself too.
      have children : n.shape.map (rebuild table active) = n.shape.map (Tree.map some) :=
        Shape.map_congr fun c mem =>
          (drafts c mem).eq_of_id (a.holds_child hn mem) (List.map_inj_left.1 kept c mem)
      obtain ⟨i, span, shape⟩ := n
      rw [children, Tree.id_node, Tree.span_node, Tree.shape_node, ← Tree.map_node]
      exact .old _ hn
    · -- A copy may be made, as what its children are rebuilt to are drafts already.
      refine .copy _ _ fun d mem => ?_
      rw [Shape.children_map] at mem
      obtain ⟨c, memc, rfl⟩ := List.mem_map.1 mem
      exact drafts c memc

/-- **The new version of a tree** that a patch makes in an arena. -/
def version (p : Patch) (a : Arena) (root : Node) : Node :=
  (p.apply (m := Fresh) root a.next).1.1

theorem version_eq (p : Patch) (a : Arena) (root : Node) :
    p.version a root = (settle (m := Fresh) (rebuild p.replacements [] root) a.next).1 := rfl

/-- Applying a patch is settling the rebuilt draft. -/
theorem run_apply (p : Patch) (root : Node) (next : Nat) :
    p.apply (m := Fresh) root next =
      (((settle (m := Fresh) (rebuild p.replacements [] root) next).1, p.notices root),
        (settle (m := Fresh) (rebuild p.replacements [] root) next).2) := rfl

/-- The replacements of a patch of an arena are nodes of the arena. -/
theorem holds_replacement {p : Patch} (hp : a.HoldsPatch p) (key : Nat) (new : Node)
    (hit : p.replacements.get? key = some new) : a.Holds new := by
  obtain ⟨r, mem, -, rfl⟩ := exists_request_of_get? hit
  exact (hp r mem).2

/-- **What the arena sees of a version is the rebuilt draft.** -/
theorem sketch_version {p : Patch} (hp : a.HoldsPatch p) {n : Node} (hn : a.Holds n) :
    a.sketch (p.version a n) = rebuild p.replacements [] n :=
  (Arena.sketch_settle (drafts_rebuild (holds_replacement hp) [] n hn) a.next (Nat.le_refl _)).1

/-- A version has the identity of the node exactly if the rebuilt draft has. -/
theorem id_version_iff {p : Patch} (hp : a.HoldsPatch p) {n : Node} (hn : a.Holds n) :
    (p.version a n).id = n.id ↔ (rebuild p.replacements [] n).id = some n.id := by
  have known := a.id_lt hn
  rw [← sketch_version hp hn, Arena.id_sketch]
  constructor
  · intro same
    rw [same, if_pos known]
  · intro same
    -- A later identity is forgotten in the sketch, and so is not that of the node.
    split at same
    · exact Option.some.inj same
    · cases same

/-- A version with the identity of the node is that very node. -/
theorem version_eq_self {p : Patch} (hp : a.HoldsPatch p) {n : Node} (hn : a.Holds n)
    (same : (p.version a n).id = n.id) : p.version a n = n := by
  have draft := drafts_rebuild (holds_replacement hp) [] n hn
  rw [version_eq, draft.eq_of_id hn ((id_version_iff hp hn).1 same), settle_map_some]
  rfl

/-- The version of a node without a replacement, as the arena sees it. -/
theorem sketch_version_of_get?_none {p : Patch} (hp : a.HoldsPatch p) {n : Node}
    (hn : a.Holds n) (none : p.replacements.get? n.id = none) :
    a.sketch (p.version a n) =
      .node (if ∀ c ∈ n.children, (p.version a c).id = c.id then some n.id else .none) n.span
        (n.shape.map fun c => a.sketch (p.version a c)) := by
  have settled : pending? p.replacements [] n = .none := pending?_eq_none_iff.2 (.inr none)
  -- Whether a child is kept shows in the draft and in the version alike.
  have kept : n.children.map (fun c => (rebuild p.replacements [] c).id) =
        n.children.map (some ·.id) ↔ ∀ c ∈ n.children, (p.version a c).id = c.id := by
    rw [List.map_inj_left]
    exact forall₂_congr fun c mem => (id_version_iff hp (a.holds_child hn mem)).symm
  have children : n.shape.map (rebuild p.replacements []) =
      n.shape.map fun c => a.sketch (p.version a c) :=
    Shape.map_congr fun c mem => (sketch_version hp (a.holds_child hn mem)).symm
  rw [sketch_version hp hn, rebuild_of_settled settled, children]
  simp only [kept]

/-- The version of a node with a replacement is one of the replacement. -/
theorem version_of_get?_some {p : Patch} (a : Arena) {n new : Node}
    (hit : p.replacements.get? n.id = some new) :
    p.version a n = (p.without [n.id]).version a new := by
  have pending : pending? p.replacements [] n = some new :=
    pending?_eq_some_iff.2 ⟨List.not_mem_nil, hit⟩
  rw [version_eq, version_eq, rebuild_of_pending pending, rebuild_without]

/-- **Versions without a stack.** In every arena, the version of a node without a replacement
is the node with the versions of its children, and it is the very node if its children keep
their identities; the version of a node with a replacement is the version of the replacement
by the patch without the requests for the node; and rebuilding under a stack is rebuilding,
under no stack, with the patch without the requests for the nodes on the stack. -/
theorem version_compositional (a : Arena) (p : Patch) (hp : a.HoldsPatch p) (n : Node)
    (hn : a.Holds n) :
    (p.replacements.get? n.id = none →
      a.sketch (p.version a n) =
          .node (if ∀ c ∈ n.children, (p.version a c).id = c.id then some n.id else none) n.span
            (n.shape.map fun c => a.sketch (p.version a c)) ∧
        ((∀ c ∈ n.children, (p.version a c).id = c.id) → p.version a n = n)) ∧
    (∀ new, p.replacements.get? n.id = some new →
      p.version a n = (p.without [n.id]).version a new) ∧
    ∀ active, rebuild p.replacements active n = rebuild (p.without active).replacements [] n := by
  refine ⟨fun none => ?_, fun new hit => version_of_get?_some a hit,
    fun active => rebuild_without p active n⟩
  have seen := sketch_version_of_get?_none hp hn none
  refine ⟨seen, fun kept => version_eq_self hp hn ?_⟩
  rw [if_pos kept] at seen
  rw [id_version_iff hp hn, ← sketch_version hp hn, seen]
  rfl

/-! ### Requests that lead back to where they started -/

namespace Looping

/-- A statement that is to be replaced by `second`. -/
def first : Node := .node 0 .empty .emptyStmt

/-- A statement that is to be replaced by `around`. -/
def second : Node := .node 1 .empty (.breakStmt none)

/-- A block that contains both statements. -/
def around : Node := .node 2 .empty (.block false [first, second])

/-- The tree that is patched. -/
def root : Node := .node 3 .empty (.block false [first])

def patch : Patch := ⟨[⟨first, second⟩, ⟨second, around⟩]⟩

/-- The arena in which these four nodes were made. -/
def arena : Arena :=
  let a := Arena.empty.make .empty .emptyStmt (by simp [Shape.children])
  let b := a.make .empty (.breakStmt none) (by simp [Shape.children])
  let c := b.make .empty (.block false [first, second]) (by
    simp [Shape.children, a, b, Arena.make, Arena.empty, first, second])
  c.make .empty (.block false [first]) (by
    simp [Shape.children, a, b, c, Arena.make, Arena.empty, first])

theorem holds_arena : arena.Holds first ∧ arena.Holds second ∧ arena.Holds around ∧
    arena.Holds root := by
  simp [arena, Arena.make, Arena.empty, first, second, around, root]

theorem holdsPatch_arena : arena.HoldsPatch patch := by
  obtain ⟨first, second, around, -⟩ := holds_arena
  simp [Arena.HoldsPatch, patch, first, second, around]

end Looping

open Looping in
/-- Two requests that lead back to where they started. The first statement becomes what the second
one becomes without the first request; and while both are followed, the block in which they stand
becomes what it becomes without either. -/
theorem version_compositional_looping :
    arena.HoldsPatch patch ∧ arena.Holds root ∧ arena.Holds first ∧
      arena.sketch (patch.version arena root) =
        .node (if ∀ c ∈ [first], (patch.version arena c).id = c.id then some 3 else none) .empty
          (.block false [arena.sketch (patch.version arena first)]) ∧
      patch.version arena first = (patch.without [0]).version arena second ∧
      rebuild patch.replacements [1, 0] around =
        rebuild (patch.without [1, 0]).replacements [] around :=
  ⟨holdsPatch_arena, holds_arena.2.2.2, holds_arena.1,
    ((version_compositional arena patch holdsPatch_arena root holds_arena.2.2.2).1 rfl).1,
    (version_compositional arena patch holdsPatch_arena first holds_arena.1).2.1 second rfl,
    (version_compositional arena patch holdsPatch_arena around holds_arena.2.2.1).2.2 [1, 0]⟩

end Patch

end SyntaxTour
