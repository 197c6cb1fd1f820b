import SyntaxTour.Proofs.Completeness

/-!
# Patches that can be applied one after the other

Requests are about nodes by their identities, and applying a patch gives new identities to all
nodes above those that it replaces. A second patch that was collected on the same tree still
finds its nodes afterwards, if no request is about a node that lies above or below another one
that is requested, or in a replacement: what was copied was not requested, and what is requested
was not copied. Two such patches may be applied together, or one after the other in any order.

* `Patch.Flat` says this of the requests of one patch. A flat patch leaves a tree as it is where
  nothing is requested (`rebuild_of_not_requests`), puts replacements in as they are
  (`Flat.rebuild_of_requested`), and copies all nodes above them (`Flat.rebuild_of_above`).
* `Patch.Splits` says that a second patch does to the tree that a first one has made what both
  do together, and `Patch.Separate.splits` shows it by induction on the tree that both were
  collected on.
* `Patch.version_splits` is what this means for the versions of an arena.
-/

namespace SyntaxTour

namespace Patch

instance : Append Patch := ⟨fun p q => ⟨p.requests ++ q.requests⟩⟩

/-- **A patch whose requests do not get into each other's way**: below a requested node nothing
is requested, and nothing that is requested occurs in a replacement. -/
structure Flat (p : Patch) : Prop where
  apart : ∀ r ∈ p.requests, ∀ c ∈ r.old.children, ∀ m ∈ c.preorder, ¬ p.Requests m.id
  outside : ∀ r ∈ p.requests, ∀ m ∈ r.new.preorder, ¬ p.Requests m.id

/-! ### Two patches together -/

section Together

variable {p q : Patch} {key : Nat}

theorem requests_append : (p ++ q).Requests key ↔ p.Requests key ∨ q.Requests key := by
  constructor
  · rintro ⟨r, mem, same⟩
    rcases List.mem_append.1 mem with mem | mem
    · exact .inl ⟨r, mem, same⟩
    · exact .inr ⟨r, mem, same⟩
  · rintro (⟨r, mem, same⟩ | ⟨r, mem, same⟩)
    · exact ⟨r, List.mem_append_left _ mem, same⟩
    · exact ⟨r, List.mem_append_right _ mem, same⟩

theorem holdsPatch_append {a : Arena} (hp : a.HoldsPatch p) (hq : a.HoldsPatch q) :
    a.HoldsPatch (p ++ q) := by
  intro r mem
  rcases List.mem_append.1 mem with mem | mem
  · exact hp r mem
  · exact hq r mem

/-- The requests of the second patch are the later ones. -/
theorem get?_append (p q : Patch) (key : Nat) :
    (p ++ q).replacements.get? key =
      (q.replacements.get? key).or (p.replacements.get? key) := by
  have later : (p ++ q).requests.reverse = q.requests.reverse ++ p.requests.reverse :=
    List.reverse_append
  rw [get?_replacements, get?_replacements, get?_replacements, List.findRev?_eq_find?_reverse,
    List.findRev?_eq_find?_reverse, List.findRev?_eq_find?_reverse, later, List.find?_append,
    Option.map_or]

theorem Flat.left (flat : (p ++ q).Flat) : p.Flat where
  apart r mem c child m below requested :=
    flat.apart r (List.mem_append_left _ mem) c child m below (requests_append.2 (.inl requested))
  outside r mem m below requested :=
    flat.outside r (List.mem_append_left _ mem) m below (requests_append.2 (.inl requested))

theorem Flat.right (flat : (p ++ q).Flat) : q.Flat where
  apart r mem c child m below requested :=
    flat.apart r (List.mem_append_right _ mem) c child m below (requests_append.2 (.inr requested))
  outside r mem m below requested :=
    flat.outside r (List.mem_append_right _ mem) m below (requests_append.2 (.inr requested))

end Together

/-! ### What a flat patch does -/

section Flat

variable {p : Patch} {n : Node}

/-- Nothing in the replacement of a node is requested. -/
theorem Flat.not_requests_of_get? (flat : p.Flat) {key : Nat} {new : Node}
    (found : p.replacements.get? key = some new) : ∀ m ∈ new.preorder, ¬ p.Requests m.id := by
  obtain ⟨r, mem, -, rfl⟩ := exists_request_of_get? found
  exact flat.outside r mem

/-- Nothing below a requested node is requested. -/
theorem Flat.not_requests_below (flat : p.Flat) {a : Arena} (hp : a.HoldsPatch p)
    (hn : a.Holds n) (requested : p.Requests n.id) :
    ∀ c ∈ n.children, ∀ m ∈ c.preorder, ¬ p.Requests m.id := by
  obtain ⟨r, mem, same⟩ := requested
  obtain rfl : r.old = n := a.eq_of_id (hp r mem).1 hn same
  exact flat.apart r mem

/-- **A flat patch puts a replacement in as it is.** -/
theorem Flat.rebuild_of_requested (flat : p.Flat) {new : Node}
    (found : p.replacements.get? n.id = some new) : rebuild p.replacements [] n = new.map some := by
  have hit : pending? p.replacements [] n = some new :=
    pending?_eq_some_iff.2 ⟨List.not_mem_nil, found⟩
  rw [rebuild_of_pending hit]
  exact rebuild_of_not_requests (flat.not_requests_of_get? found) _

/-- A node that is kept by a flat patch has nothing requested in it. -/
theorem Flat.not_requests_of_kept (flat : p.Flat)
    (kept : (rebuild p.replacements [] n).id = some n.id) :
    ∀ m ∈ n.preorder, ¬ p.Requests m.id := by
  induction n using Tree.induct with
  | node i span shape ih =>
    have free : ¬ p.Requests i := by
      intro requested
      obtain ⟨new, found⟩ := exists_get?_of_requests requested
      -- The identity of the replacement would be the requested one.
      have same : new.id = i := by
        rw [flat.rebuild_of_requested (n := .node i span shape) found, Tree.id_map] at kept
        exact Option.some.inj kept
      exact flat.not_requests_of_get? found new new.mem_preorder_self (same ▸ requested)
    -- Free and kept, so every child is kept.
    have children : (Tree.node i span shape).children.map
        (fun c => (rebuild p.replacements [] c).id) =
          (Tree.node i span shape).children.map (some ·.id) := by
      rw [rebuild_of_settled (pending?_of_not_requests free []), Tree.id_node] at kept
      split at kept
      · next same => exact same
      · cases kept
    intro m below
    rw [Tree.preorder_eq] at below
    rcases List.mem_cons.1 below with rfl | below
    · exact free
    · obtain ⟨c, child, below⟩ := List.mem_flatMap.1 below
      exact ih c child (List.map_inj_left.1 children c child) m below

/-- **A flat patch copies a node that has a requested node below it.** -/
theorem Flat.rebuild_of_above (flat : p.Flat) (free : ¬ p.Requests n.id)
    (above : ¬ ∀ m ∈ n.preorder, ¬ p.Requests m.id) :
    rebuild p.replacements [] n =
      .node none n.span (n.shape.map (rebuild p.replacements [])) := by
  have copied : (rebuild p.replacements [] n).id ≠ some n.id :=
    fun kept => above (flat.not_requests_of_kept kept)
  rw [rebuild_of_settled (pending?_of_not_requests free [])] at copied ⊢
  rw [Tree.id_node] at copied
  split
  · next kept => exact absurd (if_pos kept) copied
  · rfl

end Flat

/-! ### One patch after the other -/

/-- **Two patches that do not get into each other's way**: no node is requested by both, and
together they are flat. -/
structure Separate (a : Arena) (p q : Patch) : Prop where
  first : a.HoldsPatch p
  second : a.HoldsPatch q
  disjoint : ∀ key, p.Requests key → ¬ q.Requests key
  flat : (p ++ q).Flat

/-- At a node, the two patches one after the other come to what both come to together, as far as
the arena can see. -/
def Splits (a : Arena) (p q : Patch) (n : Node) : Prop :=
  ∀ next, a.next ≤ next →
    a.seen (rebuild q.replacements []
        (settle (m := Fresh) (rebuild p.replacements [] n) next).1) =
      rebuild (p ++ q).replacements [] n

section After

variable {a : Arena} {p q : Patch} {n new : Node}

/-- A replacement that both leave alone is seen as it is. -/
theorem seen_rebuild_of_not_requests (hn : a.Holds n)
    (free : ∀ m ∈ n.preorder, ¬ q.Requests m.id) :
    a.seen (rebuild q.replacements [] n) = n.map some := by
  rw [rebuild_of_not_requests free, a.seen_map_some, a.sketch_of_holds hn]

/-- Where neither patch has anything to do. -/
theorem splits_of_not_requests (hn : a.Holds n) (quiet : ∀ m ∈ n.preorder, ¬ p.Requests m.id)
    (quiet' : ∀ m ∈ n.preorder, ¬ q.Requests m.id) : Splits a p q n := by
  have untouched : ∀ m ∈ n.preorder, ¬ (p ++ q).Requests m.id := fun m below requested =>
    (requests_append.1 requested).elim (quiet m below) (quiet' m below)
  intro next _
  rw [rebuild_of_not_requests quiet, settle_map_some, rebuild_of_not_requests untouched]
  exact seen_rebuild_of_not_requests hn quiet'

/-- Where the first patch puts a replacement in, the second one finds nothing to do. -/
theorem Separate.splits_of_first (separate : Separate a p q) (requested : p.Requests n.id) :
    Splits a p q n := by
  obtain ⟨new, found⟩ := exists_get?_of_requests requested
  have together : (p ++ q).replacements.get? n.id = some new := by
    rw [get?_append, get?_of_not_requests (separate.disjoint n.id requested), Option.none_or, found]
  have free : ∀ m ∈ new.preorder, ¬ q.Requests m.id := by
    intro m below later
    exact separate.flat.not_requests_of_get? together m below (requests_append.2 (.inr later))
  intro next _
  rw [separate.flat.rebuild_of_requested together, separate.flat.left.rebuild_of_requested found,
    settle_map_some]
  exact seen_rebuild_of_not_requests (holds_replacement separate.first _ _ found) free

/-- Where the second patch puts a replacement in, the first one found nothing to do. -/
theorem Separate.splits_of_second (separate : Separate a p q) (hn : a.Holds n)
    (free : ¬ p.Requests n.id) (requested : q.Requests n.id) : Splits a p q n := by
  obtain ⟨new, found⟩ := exists_get?_of_requests requested
  -- The second patch has the later requests, so its replacement is the one of both.
  have together : (p ++ q).replacements.get? n.id = some new := by
    rw [get?_append, found, Option.some_or]
  -- Nothing below a requested node is requested, so the first patch leaves the node alone.
  have untouched : ∀ m ∈ n.preorder, ¬ p.Requests m.id := by
    intro m below earlier
    rw [Tree.preorder_eq] at below
    rcases List.mem_cons.1 below with rfl | below
    · exact free earlier
    · obtain ⟨c, child, below⟩ := List.mem_flatMap.1 below
      exact separate.flat.not_requests_below (holdsPatch_append separate.first separate.second) hn
        (requests_append.2 (.inr requested)) c child m below (requests_append.2 (.inl earlier))
  intro next _
  rw [separate.flat.rebuild_of_requested together, rebuild_of_not_requests untouched,
    settle_map_some]
  change a.seen (rebuild q.replacements [] n) = new.map some
  rw [separate.flat.right.rebuild_of_requested found, a.seen_map_some,
    a.sketch_of_holds (holds_replacement separate.second _ _ found)]

/-- Above the nodes of the second patch, where the first one has nothing to do. -/
theorem Separate.splits_of_above_second (separate : Separate a p q)
    (free : ¬ (p ++ q).Requests n.id) (quiet : ∀ m ∈ n.preorder, ¬ p.Requests m.id)
    (above : ¬ ∀ m ∈ n.preorder, ¬ q.Requests m.id) (ih : ∀ c ∈ n.children, Splits a p q c) :
    Splits a p q n := by
  have second : ¬ q.Requests n.id := fun requested => free (requests_append.2 (.inr requested))
  have above' : ¬ ∀ m ∈ n.preorder, ¬ (p ++ q).Requests m.id := fun untouched =>
    above fun m below requested => untouched m below (requests_append.2 (.inr requested))
  -- The children were not touched by the first patch, so their splits are about the second alone.
  have children : (n.shape.map (rebuild q.replacements [])).map a.seen =
      n.shape.map (rebuild (p ++ q).replacements []) := by
    rw [Shape.map_map]
    refine Shape.map_congr fun c child => ?_
    have quiet' : ∀ m ∈ c.preorder, ¬ p.Requests m.id := fun m below =>
      quiet m (Tree.mem_preorder_of_mem_children child below)
    have here := ih c child a.next (Nat.le_refl _)
    rw [rebuild_of_not_requests quiet', settle_map_some] at here
    exact here
  intro next _
  rw [rebuild_of_not_requests quiet, settle_map_some]
  change a.seen (rebuild q.replacements [] n) = _
  rw [separate.flat.right.rebuild_of_above second above, Arena.seen_node, children,
    separate.flat.rebuild_of_above free above']
  rfl

/-- What comes later than the arena is not requested. -/
theorem not_requests_of_next_le (hq : a.HoldsPatch q) {key : Nat} (later : a.next ≤ key) :
    ¬ q.Requests key := by
  rintro ⟨r, mem, rfl⟩
  exact absurd (a.id_lt (hq r mem).1) (Nat.not_lt.2 later)

/-- **Above the nodes of the first patch** there are the copies that it has made. None of them is
a node of the second patch, so its nodes are found below them. -/
theorem Separate.splits_of_above_first (separate : Separate a p q)
    (free : ¬ (p ++ q).Requests n.id) (above : ¬ ∀ m ∈ n.preorder, ¬ p.Requests m.id)
    (ih : ∀ c ∈ n.children, Splits a p q c) : Splits a p q n := by
  have first : ¬ p.Requests n.id := fun requested => free (requests_append.2 (.inl requested))
  have above' : ¬ ∀ m ∈ n.preorder, ¬ (p ++ q).Requests m.id := fun untouched =>
    above fun m below requested => untouched m below (requests_append.2 (.inl requested))
  intro next passed
  let made (c : Node) : Fresh Node := settle (rebuild p.replacements [] c)
  -- The children are made one after the other, and the copy takes the identity after theirs.
  obtain ⟨children, later⟩ := Arena.map_traverse (f := made)
    (g := fun c => a.seen (rebuild q.replacements [] c))
    (k := rebuild (p ++ q).replacements [])
    (fun c child next passed =>
      ⟨ih c child next passed, (a.sketch_settle_eq_seen _ next passed).2⟩) next passed
  rw [separate.flat.left.rebuild_of_above first above, Arena.run_settle_copy, Shape.traverse_map]
  change a.seen (rebuild q.replacements []
    (.node (n.shape.traverse made next).2 n.span (n.shape.traverse made next).1)) = _
  generalize n.shape.traverse made next = ran at children later ⊢
  obtain ⟨shape, copied⟩ := ran
  dsimp only at children later
  have none : pending? q.replacements [] (.node copied n.span shape) = none :=
    pending?_of_not_requests (n := .node copied n.span shape)
      (not_requests_of_next_le separate.second later) []
  rw [rebuild_of_settled none, Arena.seen_node, Tree.shape_node, Shape.map_map,
    separate.flat.rebuild_of_above free above']
  -- Whether the second patch keeps the copy or not, the arena does not know its identity.
  have forgotten (kept : Prop) [Decidable kept] :
      (if kept then some copied else .none).filter (· < a.next) = .none := by
    split
    · rw [Option.filter_some, if_neg (by simpa using later)]
    · rfl
  rw [Tree.id_node, forgotten]
  exact congrArg (Tree.node .none n.span) children

/-- **Patches that do not get into each other's way may be split.** -/
theorem Separate.splits (separate : Separate a p q) (hn : a.Holds n) : Splits a p q n := by
  induction n using Tree.induct with
  | node i span shape ih =>
    by_cases first : p.Requests i
    · exact separate.splits_of_first first
    by_cases second : q.Requests i
    · exact separate.splits_of_second hn first second
    have free : ¬ (p ++ q).Requests i := fun requested =>
      (requests_append.1 requested).elim first second
    have children : ∀ c ∈ shape.children, Splits a p q c := fun c child =>
      ih c child (a.holds_child hn child)
    by_cases quiet : ∀ m ∈ (Tree.node i span shape).preorder, ¬ p.Requests m.id
    · by_cases quiet' : ∀ m ∈ (Tree.node i span shape).preorder, ¬ q.Requests m.id
      · exact splits_of_not_requests hn quiet quiet'
      · exact separate.splits_of_above_second free quiet quiet' children
    · exact separate.splits_of_above_first free quiet children

end After

/-! ### Versions -/

/-- **The version that two patches make in turn**: the second one is applied to what the first
one has made. -/
def versionInTurn (p q : Patch) (a : Arena) (root : Node) : Node :=
  let applied : Fresh Node := do
    let (version, _) ← p.apply root
    let (version, _) ← q.apply version
    pure version
  (applied a.next).1

section Versions

variable {a : Arena} {p q : Patch}

theorem sketch_versionInTurn (p q : Patch) (a : Arena) (root : Node) :
    a.sketch (p.versionInTurn q a root) =
      a.seen (rebuild q.replacements [] (p.version a root)) := by
  -- The second patch goes on with the counter that the first one has left.
  have passed := (a.sketch_settle_eq_seen (rebuild p.replacements [] root) a.next
    (Nat.le_refl _)).2
  exact (a.sketch_settle_eq_seen (rebuild q.replacements [] (p.version a root)) _ passed).1

theorem Flat.swap (flat : (p ++ q).Flat) : (q ++ p).Flat := by
  have swapped {key : Nat} (requested : (q ++ p).Requests key) : (p ++ q).Requests key :=
    requests_append.2 (requests_append.1 requested).symm
  have member {r : Request} (mem : r ∈ (q ++ p).requests) : r ∈ (p ++ q).requests :=
    List.mem_append.2 (List.mem_append.1 mem).symm
  constructor
  · intro r mem c child m below requested
    exact flat.apart r (member mem) c child m below (swapped requested)
  · intro r mem m below requested
    exact flat.outside r (member mem) m below (swapped requested)

theorem Separate.symm (separate : Separate a p q) : Separate a q p where
  first := separate.second
  second := separate.first
  disjoint key requested earlier := separate.disjoint key earlier requested
  flat := separate.flat.swap

/-- In which order the requests of the two stand does not matter. -/
theorem Separate.rebuild_comm (separate : Separate a p q) (n : Node) :
    rebuild (q ++ p).replacements [] n = rebuild (p ++ q).replacements [] n := by
  refine rebuild_congr (fun m => ?_) n
  have same : (q ++ p).replacements.get? m.id = (p ++ q).replacements.get? m.id := by
    rw [get?_append, get?_append]
    by_cases requested : p.Requests m.id
    · rw [get?_of_not_requests (separate.disjoint m.id requested), Option.or_none, Option.none_or]
    · rw [get?_of_not_requests requested, Option.or_none, Option.none_or]
  rw [pending?, pending?, same]

/-- **Patches that do not get into each other's way commute, and may be split.** If two patches
request different nodes, and no node that either of them requests lies below another such node
or in a replacement, then it is all one whether the requests of both are applied together, or
the first patch before the second, or the second before the first: the results are equal up to
the identities of the copies, and all other nodes in them are the very same. -/
theorem version_splits (a : Arena) (p q : Patch) (separate : Separate a p q) (root : Node)
    (hr : a.Holds root) :
    a.sketch (p.versionInTurn q a root) = a.sketch ((p ++ q).version a root) ∧
      a.sketch (q.versionInTurn p a root) = a.sketch ((p ++ q).version a root) := by
  have together : a.sketch ((p ++ q).version a root) = rebuild (p ++ q).replacements [] root :=
    sketch_version (holdsPatch_append separate.first separate.second) hr
  constructor
  · rw [sketch_versionInTurn, together]
    exact separate.splits hr a.next (Nat.le_refl _)
  · rw [sketch_versionInTurn, together, ← separate.rebuild_comm]
    exact separate.symm.splits hr a.next (Nat.le_refl _)

end Versions

/-! ### Two patches for a tree in which a block stands twice -/

namespace Twice

/-- A statement that the first patch replaces. -/
def one : Node := .node 0 .empty .emptyStmt

/-- A statement that the second patch replaces. -/
def other : Node := .node 1 .empty (.breakStmt none)

def instead : Node := .node 2 .empty (.returnStmt none)

def instead' : Node := .node 3 .empty (.continueStmt none)

def inner : Node := .node 4 .empty (.block false [one, other])

def root : Node := .node 5 .empty (.block false [inner, other, inner])

def p : Patch := ⟨[⟨one, instead⟩]⟩

/-- The last of its two requests counts. -/
def q : Patch := ⟨[⟨other, instead⟩, ⟨other, instead'⟩]⟩

/-- The arena in which these six nodes were made. -/
def arena : Arena :=
  let a := Arena.empty.make .empty .emptyStmt Arena.empty.holds_no_children
  let b := a.make .empty (.breakStmt none) a.holds_no_children
  let c := b.make .empty (.returnStmt none) b.holds_no_children
  let d := c.make .empty (.continueStmt none) c.holds_no_children
  let e := d.make .empty (.block false [one, other]) (by
    simp [Shape.children, a, b, c, d, Arena.make, Arena.empty, one, other])
  e.make .empty (.block false [inner, other, inner]) (by
    simp [Shape.children, a, b, c, d, e, Arena.make, Arena.empty, inner, other])

theorem holds_root : arena.Holds root := by
  simp [arena, Arena.make, Arena.empty, root]

theorem requests_both {key : Nat} (requested : (p ++ q).Requests key) : key < 2 := by
  obtain ⟨r, mem, rfl⟩ := requested
  rcases List.mem_append.1 mem with mem | mem
  · obtain rfl : r = ⟨one, instead⟩ := by simpa [p] using mem
    decide
  · obtain rfl | rfl : r = ⟨other, instead⟩ ∨ r = ⟨other, instead'⟩ := by simpa [q] using mem
    all_goals decide

/-- All nodes that are requested, and all replacements, have no children. -/
theorem leaves_both {r : Request} (mem : r ∈ (p ++ q).requests) :
    r.old.children = [] ∧ r.new.children = [] ∧ 2 ≤ r.new.id := by
  rcases List.mem_append.1 mem with mem | mem
  · obtain rfl : r = ⟨one, instead⟩ := by simpa [p] using mem
    exact ⟨rfl, rfl, Nat.le_refl 2⟩
  · obtain rfl | rfl : r = ⟨other, instead⟩ ∨ r = ⟨other, instead'⟩ := by simpa [q] using mem
    · exact ⟨rfl, rfl, Nat.le_refl 2⟩
    · exact ⟨rfl, rfl, Nat.le_succ 2⟩

theorem flat_both : (p ++ q).Flat where
  apart r mem c child := by
    rw [(leaves_both mem).1] at child
    cases child
  outside r mem m below requested := by
    obtain ⟨-, leaf, later⟩ := leaves_both mem
    rw [Tree.preorder_eq, leaf, List.flatMap_nil, List.mem_singleton] at below
    exact absurd (requests_both (below ▸ requested)) (Nat.not_lt.2 later)

theorem separate_both : Separate arena p q where
  first := by simp [Arena.HoldsPatch, p, arena, Arena.make, Arena.empty, one, instead]
  second := by simp [Arena.HoldsPatch, q, arena, Arena.make, Arena.empty, other, instead, instead']
  disjoint := by
    rintro key ⟨r, mem, rfl⟩ ⟨r', mem', same⟩
    obtain rfl : r = ⟨one, instead⟩ := by simpa [p] using mem
    obtain rfl | rfl : r' = ⟨other, instead⟩ ∨ r' = ⟨other, instead'⟩ := by simpa [q] using mem'
    all_goals exact absurd same (by decide)
  flat := flat_both

end Twice

open Twice in
/-- The second patch asks for the same statement twice. In either order the two patches come to what
they are together. -/
theorem version_splits_twice :
    Separate arena p q ∧ arena.Holds root ∧
      arena.sketch (p.versionInTurn q arena root) = arena.sketch ((p ++ q).version arena root) ∧
      arena.sketch (q.versionInTurn p arena root) = arena.sketch ((p ++ q).version arena root) :=
  ⟨separate_both, holds_root, version_splits arena p q separate_both root holds_root⟩

end Patch

end SyntaxTour
