import SyntaxTour.Proofs.Version

/-!
# Requests that are all carried out

A replacement may contain nodes that are to be replaced in their turn, and patching follows
these too. It leaves a request aside only inside of its own replacement. When no request leads
back to where it started, this never happens: the new version of a tree then contains no node
that any request is about, and to apply the patch once more changes nothing.

* `Patch.Requests` says that some request is about the node of an identity, and `Patch.Leads`
  that the replacement of one such node contains another one.
* `Patch.rebuild_of_untouched` says that nothing is rebuilt where nothing is pending.
* `Patch.not_requests_of_rebuild` says what identities are left in a rebuilt tree. Its
  invariant: every replacement that is being rebuilt leads to every requested node below.
* `Patch.version_complete` is what this means for the versions of an arena.
-/

namespace SyntaxTour

open Relation (TransGen)

namespace Patch

/-! ### Requests that lead to others -/

/-- Some request is about the node of the given identity. -/
def Requests (p : Patch) (key : Nat) : Prop := ∃ r ∈ p.requests, r.old.id = key

/-- **One requested node leads to another** when the last replacement of the first contains the
second, at its root or below it. -/
def Leads (p : Patch) (key key' : Nat) : Prop :=
  p.Requests key' ∧ ∃ new, p.replacements.get? key = some new ∧ ∃ m ∈ new.preorder, m.id = key'

theorem requests_of_get? {p : Patch} {key : Nat} {new : Node}
    (hit : p.replacements.get? key = some new) : p.Requests key := by
  obtain ⟨r, mem, same, -⟩ := exists_request_of_get? hit
  exact ⟨r, mem, same⟩

/-- Every request leaves a replacement for its node, its own or a later one. -/
theorem not_requests_of_get?_none {p : Patch} {key : Nat}
    (none : p.replacements.get? key = none) : ¬ p.Requests key := by
  rintro ⟨r, mem, same⟩
  rw [get?_replacements, Option.map_eq_none_iff, List.findRev?_eq_find?_reverse,
    List.find?_eq_none] at none
  exact none r (List.mem_reverse.2 mem) (by simpa using same)

theorem exists_get?_of_requests {p : Patch} {key : Nat} (requested : p.Requests key) :
    ∃ new, p.replacements.get? key = some new := by
  cases found : p.replacements.get? key with
  | none => exact absurd requested (not_requests_of_get?_none found)
  | some new => exact ⟨new, rfl⟩

/-- A node that no request is about has no replacement. -/
theorem get?_of_not_requests {p : Patch} {key : Nat} (free : ¬ p.Requests key) :
    p.replacements.get? key = none := by
  cases found : p.replacements.get? key with
  | none => rfl
  | some new => exact absurd (requests_of_get? found) free

/-- Nothing is pending at such a node. -/
theorem pending?_of_not_requests {p : Patch} {n : Node} (free : ¬ p.Requests n.id)
    (active : List Nat) : pending? p.replacements active n = none :=
  pending?_eq_none_iff.2 (.inr (get?_of_not_requests free))

/-! ### Where nothing is pending -/

/-- **Nothing is rebuilt where nothing is pending.** -/
theorem rebuild_of_untouched {table : Table Nat Node} {active : List Nat} {n : Node}
    (untouched : ∀ m ∈ n.preorder, pending? table active m = none) :
    rebuild table active n = n.map some := by
  induction n using Tree.induct with
  | node i span shape ih =>
    have children : ∀ c ∈ shape.children, rebuild table active c = c.map some :=
      fun c child => ih c child fun m below =>
        untouched m (Tree.mem_preorder_of_mem_children child below)
    have kept : (Tree.node i span shape).children.map (fun c => (rebuild table active c).id) =
        (Tree.node i span shape).children.map (some ·.id) :=
      List.map_congr_left fun c child => by rw [children c child, Tree.id_map]
    rw [rebuild_of_settled (untouched _ (Tree.mem_preorder_self _)), if_pos kept,
      Tree.shape_node, Shape.map_congr children, Tree.map_node, Tree.id_node, Tree.span_node]

/-- A tree that no request is about stays as it is. -/
theorem rebuild_of_not_requests {p : Patch} {n : Node}
    (free : ∀ m ∈ n.preorder, ¬ p.Requests m.id) (active : List Nat) :
    rebuild p.replacements active n = n.map some :=
  rebuild_of_untouched fun m below => pending?_of_not_requests (free m below) active

/-! ### What is left in a rebuilt tree -/

/-- **No identity that is left was requested**, when no request leads back to where it started
and the replacements that are being rebuilt lead to all requested nodes below. -/
theorem not_requests_of_rebuild {p : Patch} (acyclic : ∀ key, ¬ TransGen p.Leads key key)
    (active : List Nat) (n : Node)
    (led : ∀ key ∈ active, ∀ m ∈ n.preorder, p.Requests m.id → TransGen p.Leads key m.id) :
    ∀ d ∈ (rebuild p.replacements active n).preorder, ∀ key, d.id = some key →
      ¬ p.Requests key := by
  induction active, n using followed.induct p.replacements with
  | case1 active n new hit ih =>
    obtain ⟨-, found⟩ := pending?_eq_some_iff.1 hit
    rw [rebuild_of_pending hit]
    refine ih fun key mem m below requested => ?_
    -- The node leads to whatever is requested in its replacement, and so does what led to it.
    have step : p.Leads n.id m.id := ⟨requested, new, found, m, below, rfl⟩
    obtain rfl | mem := List.mem_cons.1 mem
    · exact .single step
    · exact (led key mem n n.mem_preorder_self (requests_of_get? found)).tail step
  | case2 active n none ih =>
    have here : ¬ p.Requests n.id := by
      intro requested
      rcases pending?_eq_none_iff.1 none with inside | absent
      -- A replacement inside of which its own node is found again would lead back to itself.
      · exact acyclic n.id (led n.id inside n n.mem_preorder_self requested)
      · exact not_requests_of_get?_none absent requested
    intro d below key same
    rw [rebuild_of_settled none, Tree.preorder_eq] at below
    -- The node keeps its identity or gets none; below it are its rebuilt children.
    rcases List.mem_cons.1 below with rfl | below
    · rw [Tree.id_node] at same
      split at same
      · exact Option.some.inj same ▸ here
      · cases same
    · obtain ⟨rebuilt, mem, below⟩ := List.mem_flatMap.1 below
      rw [Tree.children, Tree.shape_node, Shape.children_map] at mem
      obtain ⟨c, child, rfl⟩ := List.mem_map.1 mem
      exact ih ⟨c, child⟩ (fun key active m below' =>
        led key active m (Tree.mem_preorder_of_mem_children child below')) d below key same

/-! ### Versions -/

/-- Applying a patch where none of its requests is about anything makes nothing new. -/
theorem apply_of_untouched {p : Patch} {n : Node}
    (untouched : ∀ m ∈ n.preorder, ¬ p.Requests m.id) (next : Nat) :
    p.apply (m := Fresh) n next = ((n, p.notices n), next) := by
  rw [apply, rebuild_of_not_requests untouched, settle_map_some]
  rfl

/-- **All requests are carried out.** When no requested node leads back to itself, the version
of a tree contains no node that a request is about; and to apply the same patch to that version,
whenever that is, returns the very same node and makes nothing new. -/
theorem version_complete (a : Arena) (p : Patch) (hp : a.HoldsPatch p)
    (acyclic : ∀ key, ¬ TransGen p.Leads key key) (root : Node) (hr : a.Holds root) :
    (∀ m ∈ (p.version a root).preorder, ¬ p.Requests m.id) ∧
    ∀ next, p.apply (m := Fresh) (p.version a root) next =
      ((p.version a root, p.notices (p.version a root)), next) := by
  have complete : ∀ m ∈ (p.version a root).preorder, ¬ p.Requests m.id := by
    intro m below requested
    by_cases known : m.id < a.next
    · -- An identity as old as the arena is one that the rebuilt draft has kept.
      have kept : a.sketch m ∈ (rebuild p.replacements [] root).preorder := by
        rw [← sketch_version hp hr]
        exact Tree.map_mem_preorder _ below
      have same : (a.sketch m).id = some m.id := by
        rw [Arena.id_sketch, if_pos known]
      exact not_requests_of_rebuild acyclic [] root (fun key mem => nomatch mem) _ kept _ same
        requested
    · -- All others were given to copies, after every request.
      obtain ⟨r, mem, same⟩ := requested
      exact known (same ▸ a.id_lt (hp r mem).1)
  exact ⟨complete, apply_of_untouched complete⟩

/-! ### A chain of requests -/

namespace Chain

/-- A statement that is to be replaced by `around`. -/
def first : Node := .node 0 .empty (.breakStmt none)

/-- A statement that is to be replaced by `third`. -/
def second : Node := .node 1 .empty (.continueStmt none)

def third : Node := .node 2 .empty .emptyStmt

/-- A block that contains the second statement twice. -/
def around : Node := .node 3 .empty (.block false [second, third, second])

/-- The tree that is patched. -/
def root : Node := .node 4 .empty (.block false [first])

def patch : Patch := ⟨[⟨second, third⟩, ⟨first, around⟩]⟩

/-- The arena in which these five nodes were made. -/
def arena : Arena :=
  let a := Arena.empty.make .empty (.breakStmt none) Arena.empty.holds_no_children
  let b := a.make .empty (.continueStmt none) a.holds_no_children
  let c := b.make .empty .emptyStmt b.holds_no_children
  let d := c.make .empty (.block false [second, third, second]) (by
    simp [Shape.children, a, b, c, Arena.make, Arena.empty, second, third])
  d.make .empty (.block false [first]) (by
    simp [Shape.children, a, b, c, d, Arena.make, Arena.empty, first])

theorem holds_root : arena.Holds root := by
  simp [arena, Arena.make, Arena.empty, root]

theorem holdsPatch_arena : arena.HoldsPatch patch := by
  simp [Arena.HoldsPatch, patch, arena, Arena.make, Arena.empty, first, second, third, around]

/-- The first statement leads to the second one, and this is all. -/
theorem lt_of_leads {key key' : Nat} (leads : patch.Leads key key') : key < key' := by
  obtain ⟨⟨r, requested, rfl⟩, new, found, m, below, same⟩ := leads
  obtain ⟨r', mem, rfl, rfl⟩ := exists_request_of_get? found
  have preorder_leaf (i : Nat) (s : Shape Node) (leaf : s.children = []) :
      (Tree.node i .empty s).preorder = [.node i .empty s] := by
    rw [Tree.preorder_eq, Tree.children, Tree.shape_node, leaf, List.flatMap_nil]
  have below_third : third.preorder = [third] := preorder_leaf 2 _ rfl
  have below_around : around.preorder = [around, second, third, second] := by
    rw [Tree.preorder_eq, show around.children = [second, third, second] from rfl]
    simp [below_third, show second.preorder = [second] from preorder_leaf 1 _ rfl]
  -- There are two requests, and two nodes that are requested.
  simp only [patch, List.mem_cons, List.not_mem_nil, or_false] at requested mem
  rcases mem with rfl | rfl
  · -- Below the third node there is nothing that is requested.
    simp only [below_third, List.mem_singleton] at below
    subst below
    rcases requested with rfl | rfl <;> simp [first, second, third] at same
  · -- Around them stand the second and the third, and the second is the larger one.
    simp only [below_around, List.mem_cons, List.not_mem_nil, or_false] at below
    rcases below with rfl | rfl | rfl | rfl <;> rcases requested with rfl | rfl <;>
      simp [first, second, third, around] at same ⊢

theorem acyclic_patch (key : Nat) : ¬ TransGen patch.Leads key key := by
  intro loop
  have increasing {k k' : Nat} (h : TransGen patch.Leads k k') : k < k' := by
    induction h with
    | single leads => exact lt_of_leads leads
    | tail _ leads ih => exact Nat.lt_trans ih (lt_of_leads leads)
  exact Nat.lt_irrefl key (increasing loop)

end Chain

open Chain in
/-- One request leads to another, as its replacement holds the node of the other twice. Neither node
is left. -/
theorem version_complete_chain :
    arena.HoldsPatch patch ∧ (∀ key, ¬ TransGen patch.Leads key key) ∧ arena.Holds root ∧
      (∀ m ∈ (patch.version arena root).preorder, m.id ≠ first.id ∧ m.id ≠ second.id) ∧
      patch.apply (m := Fresh) (patch.version arena root) 9 =
        ((patch.version arena root, patch.notices (patch.version arena root)), 9) := by
  obtain ⟨complete, again⟩ :=
    version_complete arena patch holdsPatch_arena acyclic_patch root holds_root
  refine ⟨holdsPatch_arena, acyclic_patch, holds_root, fun m below => ⟨?_, ?_⟩, again 9⟩
  · intro same
    exact complete m below ⟨⟨first, around⟩, by simp [patch], same.symm⟩
  · intro same
    exact complete m below ⟨⟨second, third⟩, by simp [patch], same.symm⟩

end Patch

end SyntaxTour
