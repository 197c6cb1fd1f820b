import Mathlib.Data.Finset.Card
import SyntaxTour.Proofs.Applier
import SyntaxTour.Proofs.Completeness

/-!
# What the log is told of a patch

Applying a patch ends with two counts for the log. Every request about a node that an earlier one
was about is noticed on its own, so there are as many of these notices as requests were overtaken.
Then the nodes that were met are set against those that have a replacement, and what is left is
the number of nodes that were not met. It may be left for two reasons: a requested node is not
below the root at all, or it is hidden by a replacement further up. Where requested nodes do not
lie below each other or in replacements, only the first reason remains.

* `Patch.requested` is the set of the requested nodes, by identity. `Patch.length_repeated` counts
  the requests that come to it for a second time, and `Patch.length_replacements` says that each
  of its members has one entry among the replacements.
* `Patch.mem_keys_of_followed` says that only such nodes are met, and `Patch.mem_followed_iff`
  that all of them are, below the root, where nothing hides them.
* `Patch.notices_exact` is what this means for the notices.
-/

namespace SyntaxTour

/-! ### Reading the log -/

/-- Whether the notice is about a node that was requested before. -/
def Notice.isAgain : Notice → Bool
  | .requestedAgain _ => true
  | _ => false

/-- The number of nodes that were not met, if the notice tells of it. -/
def Notice.unreached? : Notice → Option Nat
  | .unreached count => some count
  | _ => none

/-- A count as the log has it: there is no notice of zero. -/
def logged (count : Nat) : List Nat := if count = 0 then [] else [count]

private theorem nodup_eraseDups : (l : List Nat) → l.eraseDups.Nodup
  | [] => List.nodup_nil
  | a :: l => by
    rw [List.eraseDups_cons, List.nodup_cons, List.mem_eraseDups]
    exact ⟨by simp, nodup_eraseDups (l.filter fun b => !b == a)⟩
termination_by l => l.length
decreasing_by exact Nat.lt_succ_of_le (List.length_filter_le _ _)

/-- Without its repetitions a list is as long as the set of its members has elements. -/
theorem length_eraseDups (l : List Nat) : l.eraseDups.length = l.toFinset.card := by
  have same : l.eraseDups.toFinset = l.toFinset := by
    ext a
    rw [List.mem_toFinset, List.mem_eraseDups, List.mem_toFinset]
  rw [← List.toFinset_card_of_nodup (nodup_eraseDups l), same]

namespace Patch

/-! ### Requested nodes -/

/-- **The nodes that requests are about**, by identity. -/
def requested (p : Patch) : Finset Nat := (p.requests.map (·.old.id)).toFinset

theorem mem_requested_iff {p : Patch} {key : Nat} : key ∈ p.requested ↔ p.Requests key := by
  rw [requested, List.mem_toFinset, List.mem_map]
  exact Iff.rfl

/-- **Every request is the first about its node or comes again.** -/
theorem length_repeated (requests : List Request) (seen : List Nat) :
    (repeated requests seen).length +
      ((requests.map (·.old.id)).toFinset \ seen.toFinset).card = requests.length := by
  induction requests generalizing seen with
  | nil => simp [repeated]
  | cons r requests ih =>
    rw [List.map_cons, List.toFinset_cons, repeated, List.length_cons]
    by_cases known : r.old.id ∈ seen
    · -- A node that was seen comes once more, and nothing new is to come.
      rw [if_pos (List.contains_iff_mem.2 known), List.length_cons,
        Finset.insert_sdiff_of_mem _ (List.mem_toFinset.2 known), Nat.succ_add, ih]
    · -- A new node is one more that was seen, and one fewer that is still to come.
      have apart : insert r.old.id (requests.map (·.old.id)).toFinset \ seen.toFinset =
          insert r.old.id
            ((requests.map (·.old.id)).toFinset \ (r.old.id :: seen).toFinset) := by
        ext key
        simp only [Finset.mem_sdiff, Finset.mem_insert, List.mem_toFinset, List.mem_cons]
        by_cases same : key = r.old.id
        · simp [same, known]
        · simp [same]
      have new : r.old.id ∉
          (requests.map (·.old.id)).toFinset \ (r.old.id :: seen).toFinset := by
        simp
      rw [if_neg (by simpa using known), apart, Finset.card_insert_of_notMem new, ← Nat.add_assoc,
        ih]

/-! ### Replacements -/

theorem nodup_keys_replacements (p : Patch) : p.replacements.keys.Nodup := by
  have further (requests : List Request) (table : Table Nat Node) (nodup : table.keys.Nodup) :
      (requests.foldl (fun table r => table.put r.old.id r.new) table).keys.Nodup := by
    induction requests generalizing table with
    | nil => exact nodup
    | cons r requests ih => exact ih _ (Table.nodup_keys_put r.old.id r.new nodup)
  exact further p.requests [] List.nodup_nil

/-- The requested nodes are those that have a replacement. -/
theorem mem_keys_replacements_iff {p : Patch} {key : Nat} :
    key ∈ p.replacements.keys ↔ p.Requests key := by
  rw [Table.mem_keys_iff]
  exact ⟨fun ⟨_, found⟩ => requests_of_get? found, exists_get?_of_requests⟩

/-- **There are as many replacements as requested nodes.** -/
theorem length_replacements (p : Patch) : p.replacements.length = p.requested.card := by
  have same : p.replacements.keys.toFinset = p.requested := by
    ext key
    rw [List.mem_toFinset, mem_keys_replacements_iff, mem_requested_iff]
  rw [← same, List.toFinset_card_of_nodup p.nodup_keys_replacements, Table.keys, List.length_map]

/-! ### Nodes that are met -/

/-- **Only nodes with a replacement are met**, on whatever way. -/
theorem mem_keys_of_followed {table : Table Nat Node} {active : List Nat} {n : Node} {key : Nat}
    (met : key ∈ followed table active n) : key ∈ table.keys := by
  induction active, n using followed.induct table with
  | case1 active n new hit ih =>
    rw [followed_of_pending hit] at met
    rcases List.mem_cons.1 met with rfl | met
    · exact Table.mem_keys_iff.2 ⟨new, (pending?_eq_some_iff.1 hit).2⟩
    · exact ih met
  | case2 active n none ih =>
    rw [followed_of_settled none] at met
    obtain ⟨c, child, met⟩ := List.mem_flatMap.1 met
    exact ih ⟨c, child⟩ met

/-- The nodes that are met are at most as many as the replacements. -/
theorem length_followed_le (p : Patch) (root : Node) :
    (followed p.replacements [] root).eraseDups.length ≤ p.replacements.length := by
  rw [length_eraseDups, length_replacements]
  refine Finset.card_le_card fun key met => mem_requested_iff.2 ?_
  exact mem_keys_replacements_iff.1 (mem_keys_of_followed (List.mem_toFinset.1 met))

/-- Nothing is met where nothing is pending. -/
theorem followed_of_untouched {table : Table Nat Node} {active : List Nat} {n : Node}
    (untouched : ∀ m ∈ n.preorder, pending? table active m = none) :
    followed table active n = [] := by
  induction n using Tree.induct with
  | node i span shape ih =>
    rw [followed_of_settled (untouched _ (Tree.mem_preorder_self _)), List.flatMap_eq_nil_iff]
    exact fun c child => ih c child fun m below =>
      untouched m (Tree.mem_preorder_of_mem_children child below)

section Apart

variable {a : Arena} {p : Patch} (hp : a.HoldsPatch p)
  (apart : ∀ r ∈ p.requests, ∀ c ∈ r.old.children, ∀ m ∈ c.preorder, ¬ p.Requests m.id)
  (outside : ∀ key key', ¬ p.Leads key key')

include hp apart outside

/-- **Where requested nodes do not hide each other, all of them are met** that are there. -/
theorem mem_followed_iff {n : Node} (hn : a.Holds n) (key : Nat) :
    key ∈ followed p.replacements [] n ↔ p.Requests key ∧ ∃ m ∈ n.preorder, m.id = key := by
  induction n using Tree.induct with
  | node i span shape ih =>
    by_cases here : p.Requests i
    · obtain ⟨new, found⟩ := exists_get?_of_requests here
      have hit : pending? p.replacements [] (.node i span shape) = some new :=
        pending?_eq_some_iff.2 ⟨List.not_mem_nil, found⟩
      -- In the replacement there is nothing more to meet.
      have nothing : followed p.replacements [i] new = [] := by
        refine followed_of_untouched fun m below => pending?_of_not_requests ?_ _
        exact fun requested => outside i m.id ⟨requested, new, found, m, below, rfl⟩
      rw [followed_of_pending hit, Tree.id_node, nothing, List.mem_singleton]
      constructor
      · rintro rfl
        exact ⟨here, _, Tree.mem_preorder_self _, rfl⟩
      · rintro ⟨requested, m, below, rfl⟩
        rw [Tree.preorder_eq] at below
        rcases List.mem_cons.1 below with rfl | below
        · rfl
        · -- Below the node there is nothing requested, so the node itself is meant.
          obtain ⟨c, child, below⟩ := List.mem_flatMap.1 below
          obtain ⟨r, mem, same⟩ := here
          obtain old : r.old = .node i span shape := a.eq_of_id (hp r mem).1 hn same
          exact absurd requested (apart r mem c (old ▸ child) m below)
    · -- Nothing is requested here, so what is met is met below a child.
      have settled : pending? p.replacements [] (.node i span shape) = none :=
        pending?_of_not_requests here []
      rw [followed_of_settled settled, List.mem_flatMap, Tree.preorder_eq]
      constructor
      · rintro ⟨c, child, met⟩
        obtain ⟨requested, m, below, same⟩ := (ih c child (a.holds_child hn child)).1 met
        exact ⟨requested, m, List.mem_cons_of_mem _ (List.mem_flatMap.2 ⟨c, child, below⟩), same⟩
      · rintro ⟨requested, m, below, rfl⟩
        rcases List.mem_cons.1 below with rfl | below
        · exact absurd requested here
        · obtain ⟨c, child, below⟩ := List.mem_flatMap.1 below
          exact ⟨c, child, (ih c child (a.holds_child hn child)).2 ⟨requested, m, below, rfl⟩⟩

/-- The nodes that are left over are those that are not there. -/
theorem unmet_eq {root : Node} (hr : a.Holds root) :
    p.replacements.length - (followed p.replacements [] root).eraseDups.length =
      (p.requested.filter fun key => ∀ m ∈ root.preorder, m.id ≠ key).card := by
  -- What was followed was requested.
  have there : (followed p.replacements [] root).toFinset ⊆ p.requested := by
    intro key met
    rw [List.mem_toFinset, mem_followed_iff hp apart outside hr] at met
    exact mem_requested_iff.2 met.1
  -- What was requested and not followed is not in the tree.
  have rest : p.requested \ (followed p.replacements [] root).toFinset =
      p.requested.filter fun key => ∀ m ∈ root.preorder, m.id ≠ key := by
    ext key
    rw [Finset.mem_sdiff, Finset.mem_filter, List.mem_toFinset,
      mem_followed_iff hp apart outside hr, mem_requested_iff]
    refine and_congr_right fun requested => ?_
    rw [and_iff_right requested]
    push Not
    exact Iff.rfl
  rw [length_eraseDups, length_replacements, ← rest, Finset.card_sdiff_of_subset there]

end Apart

/-! ### Notices -/

/-- Overtaken requests are noticed one by one, and nothing else is noticed in this way. -/
theorem countP_notices (p : Patch) (root : Node) :
    (p.notices root).countP Notice.isAgain = (repeated p.requests []).length := by
  have none (count : Nat) :
      (if count = 0 then [] else [Notice.unreached count]).countP Notice.isAgain = 0 := by
    split <;> rfl
  rw [notices, List.countP_append, none, Nat.add_zero, List.countP_map, List.countP_eq_length]
  exact fun _ _ => rfl

/-- At most one notice tells how many nodes were not met. -/
theorem filterMap_notices (p : Patch) (root : Node) :
    (p.notices root).filterMap Notice.unreached? =
      logged (p.replacements.length - (followed p.replacements [] root).eraseDups.length) := by
  have silent : ((repeated p.requests []).map fun r =>
      Notice.requestedAgain r.old.kind).filterMap Notice.unreached? = [] := by
    rw [List.filterMap_map, List.filterMap_eq_nil_iff]
    exact fun _ _ => rfl
  rw [notices, List.filterMap_append, silent, List.nil_append, logged]
  split <;> rfl

/-- **The accounts of a patch are exact.** There are as many notices of a node that was requested
before as there are requests, less the nodes that they are about. All nodes that are met when the
patch is applied have a replacement, so that the number of those left over is a difference of
which nothing is cut off; it is in the log, unless it is zero. And when no requested node lies
below another one, at the root of a replacement or below that, it is the number of requested nodes
that do not occur in the tree. -/
theorem notices_exact (a : Arena) (p : Patch) (hp : a.HoldsPatch p) (root : Node)
    (hr : a.Holds root) :
    (p.notices root).countP Notice.isAgain + p.requested.card = p.requests.length ∧
      (∀ next depth, depthBound p.replacements [] root ≤ depth →
        ∃ version s, Applier.rebuild p.replacements depth root (.start next) = some (version, s) ∧
          (∀ key ∈ s.applied, key ∈ p.replacements.keys) ∧
          s.applied.eraseDups.length ≤ p.replacements.length ∧
          (p.notices root).filterMap Notice.unreached? =
            logged (p.replacements.length - s.applied.eraseDups.length)) ∧
      ((∀ r ∈ p.requests, ∀ c ∈ r.old.children, ∀ m ∈ c.preorder, ¬ p.Requests m.id) →
        (∀ key key', ¬ p.Leads key key') →
          (p.notices root).filterMap Notice.unreached? =
            logged (p.requested.filter fun key => ∀ m ∈ root.preorder, m.id ≠ key).card) := by
  refine ⟨?_, fun next depth deep => ?_, fun apart outside => ?_⟩
  · -- Every request is the first about its node or is noted as another one.
    have counted := length_repeated p.requests []
    rw [List.toFinset_nil, Finset.sdiff_empty] at counted
    rw [countP_notices]
    exact counted
  · obtain ⟨version, s, run, -, -, applied⟩ :=
      Applier.exists_rebuild depth root (.start next) (.start _ next) deep
    -- What the stack machine has applied is what is met on the way.
    obtain applied : s.applied = followed p.replacements [] root := applied
    refine ⟨version, s, run, ?_⟩
    rw [applied]
    exact ⟨fun key met => mem_keys_of_followed met, length_followed_le p root,
      filterMap_notices p root⟩
  · -- Nothing requested lies below or behind another requested node, so none is cut off.
    rw [filterMap_notices, unmet_eq hp apart outside hr]

/-! ### A node that is met twice, and one that is not met -/

namespace Missed

/-- A statement that is requested twice and stands twice in the tree. -/
def here : Node := .node 2 .empty .emptyStmt

/-- A statement that is requested and stands nowhere. -/
def away : Node := .node 1 .empty (.breakStmt none)

def instead : Node := .node 0 .empty (.returnStmt none)

def root : Node := .node 3 .empty (.block false [here, here])

def patch : Patch := ⟨[⟨here, here⟩, ⟨away, instead⟩, ⟨here, instead⟩]⟩

/-- The arena in which these four nodes were made. -/
def arena : Arena :=
  let a := Arena.empty.make .empty (.returnStmt none) Arena.empty.holds_no_children
  let b := a.make .empty (.breakStmt none) a.holds_no_children
  let c := b.make .empty .emptyStmt b.holds_no_children
  c.make .empty (.block false [here, here]) (by
    simp [Shape.children, a, b, c, Arena.make, Arena.empty, here])

theorem holds_arena : arena.HoldsPatch patch ∧ arena.Holds root := by
  simp [Arena.HoldsPatch, patch, arena, Arena.make, Arena.empty, here, away, instead, root]

theorem preorder_leaf (n : Node) (leaf : n.children = []) : n.preorder = [n] := by
  rw [Tree.preorder_eq, leaf, List.flatMap_nil]

theorem preorder_root : root.preorder = [root, here, here] := by
  rw [Tree.preorder_eq, show root.children = [here, here] from rfl]
  simp [preorder_leaf here rfl]

theorem apart_patch : ∀ r ∈ patch.requests, ∀ c ∈ r.old.children, ∀ m ∈ c.preorder,
    ¬ patch.Requests m.id := by
  intro r mem c child
  have leaf : r.old.children = [] := by
    simp only [patch, List.mem_cons, List.not_mem_nil, or_false] at mem
    rcases mem with rfl | rfl | rfl <;> rfl
  rw [leaf] at child
  cases child

/-- The first request leads to its own node, but a later one about that node has overtaken it. -/
theorem outside_patch (key key' : Nat) : ¬ patch.Leads key key' := by
  rintro ⟨⟨r, mem, rfl⟩, new, found, m, below, same⟩
  have table : patch.replacements = [(2, instead), (1, instead)] := rfl
  obtain rfl : new = instead := by
    rw [table, Table.get?_cons, Table.get?_cons] at found
    split at found
    · exact (Option.some.inj found).symm
    · split at found
      · exact (Option.some.inj found).symm
      · cases found
  rw [preorder_leaf instead rfl, List.mem_singleton] at below
  subst below
  simp only [patch, List.mem_cons, List.not_mem_nil, or_false] at mem
  rcases mem with rfl | rfl | rfl <;> exact absurd same (by decide)

end Missed

open Missed in
/-- Three requests about two nodes, one of them outside of the tree: there is one warning for the
node that was requested again, and one node that was not reached. -/
theorem notices_exact_missed :
    arena.HoldsPatch patch ∧ arena.Holds root ∧
      (∀ r ∈ patch.requests, ∀ c ∈ r.old.children, ∀ m ∈ c.preorder, ¬ patch.Requests m.id) ∧
      (∀ key key', ¬ patch.Leads key key') ∧
      (patch.notices root).countP Notice.isAgain + 2 = 3 ∧
      (patch.notices root).filterMap Notice.unreached? = [1] ∧
      ∃ version s, Applier.rebuild patch.replacements
          (depthBound patch.replacements [] root) root (.start 4) = some (version, s) ∧
        (∀ key ∈ s.applied, key ∈ [2, 1]) ∧
        (patch.notices root).filterMap Notice.unreached? =
          logged (2 - s.applied.eraseDups.length) := by
  obtain ⟨again, accounts, missed⟩ := notices_exact arena patch holds_arena.1 root holds_arena.2
  obtain ⟨version, s, run, keys, -, left⟩ := accounts 4 _ (Nat.le_refl _)
  refine ⟨holds_arena.1, holds_arena.2, apart_patch, outside_patch, again, ?_, version, s, run,
    keys, left⟩
  rw [missed apart_patch outside_patch, preorder_root]
  decide

end Patch

end SyntaxTour
