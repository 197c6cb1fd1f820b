import SyntaxTour.Proofs.Marks
import SyntaxTour.Proofs.Version

/-!
# Applying a patch with one stack

`Patch.rebuild` is handed the stack of the replacements that are being rebuilt. It can as well
be one stack that all calls share: a call that follows a replacement pushes the identity of
its node and pops it again when the replacement is rebuilt. Nothing about the nodes says that
this comes to an end, as a replacement may be larger than what it replaces, may contain it,
and may lead back to it through other requests.

* `Applier` is what the calls share, with a record of every call (`Applier.Call`).
* `Applier.rebuild` is the recursion, to a given depth: it gives up when calls nest deeper.
* `Applier.Inv` is what holds at every call: no identity is on the stack twice, and all of
  them have replacements.
* `Applier.exists_rebuild` says how deep calls nest at most. Following a replacement leaves
  fewer of them to follow, and going on to a child leaves a lower tree.
* `Applier.rebuild_eq_settle` says that the result is the settled draft.
* `Applier.rebuild_terminates` is what this means for a patch.
-/

namespace SyntaxTour

/-! ### How high trees are -/

/-- The number of nodes on the longest way from the root to a leaf. -/
def Tree.height {ι : Type} : Tree ι → Nat :=
  Tree.fold fun _ _ s => s.children.foldr max 0 + 1

theorem Tree.height_pos {ι : Type} (t : Tree ι) : 0 < t.height := by
  obtain ⟨i, span, shape⟩ := t
  rw [height, fold_node]
  exact Nat.succ_pos _

theorem Tree.height_lt_of_mem_children {ι : Type} {t c : Tree ι} (mem : c ∈ t.children) :
    c.height < t.height := by
  obtain ⟨i, span, shape⟩ := t
  -- None of a list of heights is above their maximum.
  have le (l : List (Tree ι)) (mem : c ∈ l) : c.height ≤ (l.map Tree.height).foldr max 0 := by
    induction l with
    | nil => cases mem
    | cons d l ih =>
      rw [List.map_cons, List.foldr_cons]
      obtain rfl | mem := List.mem_cons.1 mem
      · exact Nat.le_max_left _ _
      · exact Nat.le_trans (ih mem) (Nat.le_max_right _ _)
  have height : (Tree.node i span shape).height =
      (shape.children.map Tree.height).foldr max 0 + 1 := by
    rw [Tree.height, Tree.fold_node, Shape.children_map]
  rw [height]
  exact Nat.lt_succ_of_le (le shape.children mem)

namespace Patch

/-- The height of the highest replacement. -/
def ceiling (table : Table Nat Node) : Nat :=
  (table.map fun entry => entry.2.height).foldr max 0

theorem height_le_ceiling {table : Table Nat Node} {key : Nat} {new : Node}
    (hit : table.get? key = some new) : new.height ≤ ceiling table := by
  induction table with
  | nil => cases hit
  | cons entry rest ih =>
    obtain ⟨k, n⟩ := entry
    rw [ceiling, List.map_cons, List.foldr_cons]
    by_cases same : k = key
    · rw [Table.get?_cons, if_pos same, Option.some.injEq] at hit
      subst hit
      exact Nat.le_max_left _ _
    · rw [Table.get?_cons, if_neg same] at hit
      exact Nat.le_trans (ih hit) (Nat.le_max_right _ _)

/-- **How deep calls nest at most**: every replacement that is still to follow can be followed
once on the way down, and between two of them the way goes down one tree. -/
def depthBound (table : Table Nat Node) (active : List Nat) (n : Node) : Nat :=
  (idle table active).length * ceiling table + n.height

theorem depthBound_pos (table : Table Nat Node) (active : List Nat) (n : Node) :
    0 < depthBound table active n :=
  Nat.add_pos_right _ n.height_pos

theorem depthBound_child_lt (table : Table Nat Node) (active : List Nat) {n c : Node}
    (mem : c ∈ n.children) : depthBound table active c < depthBound table active n :=
  Nat.add_lt_add_left (Tree.height_lt_of_mem_children mem) _

theorem depthBound_replacement_lt {table : Table Nat Node} {active : List Nat} {n new : Node}
    (hit : pending? table active n = some new) :
    depthBound table (n.id :: active) new < depthBound table active n := by
  have fewer := idle_length_lt hit
  have low := height_le_ceiling (pending?_eq_some_iff.1 hit).2
  -- One replacement fewer is left, which pays for the height of the one that is followed.
  calc depthBound table (n.id :: active) new
      ≤ (idle table (n.id :: active)).length * ceiling table + ceiling table :=
        Nat.add_le_add_left low _
    _ = ((idle table (n.id :: active)).length + 1) * ceiling table := by rw [Nat.succ_mul]
    _ ≤ (idle table active).length * ceiling table := Nat.mul_le_mul_right _ fewer
    _ < depthBound table active n := Nat.lt_add_of_pos_right n.height_pos

end Patch

/-! ### The recursion -/

/-- One call that returned: its node, and the stack when it began and when it returned. -/
structure Applier.Call where
  node : Node
  before : List Nat
  after : List Nat

/-- **What all calls share**: the identities of the nodes whose replacements are being rebuilt,
innermost first; those of all nodes whose replacement was followed; the next identity to
give; and the calls that returned. -/
structure Applier where
  active : List Nat
  applied : List Nat
  next : Nat
  calls : List Applier.Call

namespace Applier

open Patch

/-- Nothing was done, and `next` is the next identity to give. -/
def start (next : Nat) : Applier := ⟨[], [], next, []⟩

/-- Following the replacement of the node with the identity `id`. -/
def push (id : Nat) (s : Applier) : Applier :=
  { s with active := id :: s.active, applied := s.applied ++ [id] }

/-- Having followed the innermost replacement. -/
def pop (s : Applier) : Applier := { s with active := s.active.tail }

/-- Returning from a call for a node that began with a given stack. -/
def finish (n : Node) (before : List Nat) (s : Applier) : Applier :=
  { s with calls := s.calls ++ [⟨n, before, s.active⟩] }

/-- Having given an identity. -/
def fresh (s : Applier) : Applier := { s with next := s.next + 1 }

/-- Computations that share an applier and can give up. -/
abbrev Applying := StateT Applier Option

instance : Supply Applying := ⟨fun s => some (s.next, s.fresh)⟩

/-- A copy of a node with another content, or the node itself when there is none. -/
def copied (n : Node) : Option Node.Content → Applying Node
  | some content => content.make
  | none => pure n

/-- Rebuilding a node: its replacement, if one is to be followed, and its children
otherwise. -/
def place (again : Node → Applying Node) (n : Node) : Option Node → Applying Node
  | some new => do
    modify (push n.id)
    let version ← again new
    modify pop
    pure version
  | none => n.mapChildren again >>= copied n

/-- **Rebuilding a node**, when calls may nest to a given depth. -/
def rebuild (table : Table Nat Node) : Nat → Node → Applying Node
  | 0, _ => failure
  | depth + 1, n => do
    let before := (← get).active
    let version ← place (rebuild table depth) n (pending? table before n)
    modify (finish n before)
    pure version

variable {table : Table Nat Node} {n new : Node} {s s' : Applier}

/-- A call that follows a replacement, as one step. -/
theorem rebuild_of_pending (hit : pending? table s.active n = some new) (depth : Nat) :
    rebuild table (depth + 1) n s =
      (rebuild table depth new (s.push n.id)).map
        fun r => (r.1, r.2.pop.finish n s.active) := by
  change (place (rebuild table depth) n (pending? table s.active n) s).bind _ = _
  rw [hit]
  change ((rebuild table depth new (s.push n.id)).bind _).bind _ = _
  cases rebuild table depth new (s.push n.id) <;> rfl

/-- A call that goes on to the children, once these were rebuilt. -/
theorem rebuild_of_settled (settled : pending? table s.active n = none) (depth : Nat) :
    rebuild table (depth + 1) n s =
      (n.shape.traverse (rebuild table depth) s).map fun r =>
        if r.1.children.map (·.id) = n.children.map (·.id)
          then (n, r.2.finish n s.active)
          else (.node r.2.next n.span r.1, r.2.fresh.finish n s.active) := by
  -- The call is three steps: the children, the copy if there is one, and the return.
  change (place (rebuild table depth) n (pending? table s.active n) s).bind _ = _
  rw [settled, place, Node.mapChildren_eq]
  change (((n.shape.traverse (rebuild table depth) s).bind _).bind _).bind _ = _
  cases n.shape.traverse (rebuild table depth) s with
  | none => rfl
  | some r =>
    -- What comes after the children depends on whether they came back themselves.
    change (copied n (if r.1.children.map (·.id) = n.children.map (·.id) then none
      else some ⟨n.span, r.1⟩) r.2).bind _ = _
    rw [Option.map_some]
    split <;> rfl

/-- The call that returns last is the outermost one. -/
theorem getLast?_calls {depth : Nat} {version : Node}
    (run : rebuild table depth n s = some (version, s')) :
    s'.calls.getLast? = some ⟨n, s.active, s'.active⟩ := by
  cases depth with
  | zero => cases run
  | succ depth =>
    obtain ⟨⟨_, s₁⟩, -, returned⟩ := Option.bind_eq_some_iff.1 run
    obtain ⟨-, rfl⟩ := Prod.mk.inj (Option.some.inj returned)
    exact List.getLast?_concat

/-! ### What holds at every call -/

/-- What is said of a call: no identity was on its stack twice, all of them have replacements,
and it left the stack as it found it. -/
structure Call.Sound (table : Table Nat Node) (c : Call) : Prop where
  nodup : c.before.Nodup
  keys : ∀ key ∈ c.before, key ∈ table.keys
  restored : c.after = c.before

/-- **The invariant of the recursion**: it holds of the stack, and held at every call. -/
structure Inv (table : Table Nat Node) (s : Applier) : Prop where
  nodup : s.active.Nodup
  keys : ∀ key ∈ s.active, key ∈ table.keys
  calls : ∀ c ∈ s.calls, c.Sound table

theorem Inv.start (table : Table Nat Node) (next : Nat) : Inv table (start next) where
  nodup := List.nodup_nil
  keys _ mem := by cases mem
  calls _ mem := by cases mem

/-- A replacement is followed only when its node is not on the stack. -/
theorem Inv.push (inv : Inv table s) (hit : pending? table s.active n = some new) :
    Inv table (s.push n.id) where
  nodup := List.nodup_cons.2 ⟨(pending?_eq_some_iff.1 hit).1, inv.nodup⟩
  keys := by
    intro key mem
    obtain rfl | mem := List.mem_cons.1 mem
    · exact Table.mem_keys_iff.2 ⟨new, (pending?_eq_some_iff.1 hit).2⟩
    · exact inv.keys key mem
  calls := inv.calls

theorem Inv.pop (inv : Inv table s) : Inv table s.pop where
  nodup := inv.nodup.tail
  keys key mem := inv.keys key (List.mem_of_mem_tail mem)
  calls := inv.calls

theorem Inv.fresh (inv : Inv table s) : Inv table s.fresh where
  nodup := inv.nodup
  keys := inv.keys
  calls := inv.calls

/-- A call that leaves the stack as it found it is sound. -/
theorem Inv.finish (inv : Inv table s) {before : List Nat} (same : s.active = before) :
    Inv table (s.finish n before) where
  nodup := inv.nodup
  keys := inv.keys
  calls := by
    intro c mem
    obtain mem | mem := List.mem_append.1 mem
    · exact inv.calls c mem
    · obtain rfl := List.mem_singleton.1 mem
      exact ⟨same ▸ inv.nodup, same ▸ inv.keys, same⟩

/-! ### The recursion ends -/

/-- Writing identities down. -/
private def noting (ids : List Nat) : StateM (List Nat) Unit := modify (· ++ ids)

private theorem run_mapM_noting {α : Type} (f : α → List Nat) (l : List α) (ids : List Nat) :
    (l.mapM (fun a => noting (f a)) ids).2 = ids ++ l.flatMap f := by
  induction l generalizing ids with
  | nil =>
    rw [List.mapM_nil, List.flatMap_nil, List.append_nil]
    rfl
  | cons a l ih =>
    rw [List.mapM_cons, List.flatMap_cons, ← List.append_assoc]
    exact ih (ids ++ f a)

private theorem run_traverse_noting {α : Type} (f : α → List Nat) (shape : Shape α)
    (ids : List Nat) :
    (shape.traverse (fun a => noting (f a)) ids).2 = ids ++ shape.children.flatMap f := by
  rw [← run_mapM_noting, ← Shape.children_traverse]
  rfl

/-- Returning, from a given stack, with this stack and the invariant, against writing down what
was followed. -/
private def returning (table : Table Nat Node) (active : List Nat) :
    Correspondence Applying (StateM (List Nat)) where
  Rel R x y := ∀ s, Inv table s → s.active = active → ∃ b s', x s = some (b, s') ∧
    R b (y s.applied).1 ∧ Inv table s' ∧ s'.active = active ∧ s'.applied = (y s.applied).2
  pure related s inv same := ⟨_, s, rfl, related, inv, same, rfl⟩
  bind {_ _ _ _ _ _ x y k l} first later s inv same := by
    obtain ⟨b, s₁, run₁, related, inv₁, same₁, noted₁⟩ := first s inv same
    obtain ⟨b', s₂, run₂, rest⟩ := later b _ related s₁ inv₁ same₁
    refine ⟨b', s₂, ?_, ?_⟩
    · change (x s).bind _ = _
      rw [run₁]
      exact run₂
    · rw [noted₁] at rest
      exact rest

/-- **Calls do not nest deeper than `depthBound`**, and then the recursion returns with the
stack it began with, having followed what `Patch.followed` lists. -/
theorem exists_rebuild (depth : Nat) (n : Node) (s : Applier) (inv : Inv table s)
    (deep : depthBound table s.active n ≤ depth) :
    ∃ version s', rebuild table depth n s = some (version, s') ∧ Inv table s' ∧
      s'.active = s.active ∧ s'.applied = s.applied ++ followed table s.active n := by
  -- The stack is part of the state, so the bound is on what is still to follow from there.
  induction depth generalizing n s with
  | zero => exact absurd (Nat.lt_of_lt_of_le (depthBound_pos table s.active n) deep) (by omega)
  | succ depth ih =>
    cases hit : pending? table s.active n with
    | some new =>
      have lower := depthBound_replacement_lt hit
      obtain ⟨version, s₁, run, inv₁, same, noted⟩ :=
        ih new (s.push n.id) (inv.push hit) (Nat.le_of_lt_succ (Nat.lt_of_lt_of_le lower deep))
      -- Popping takes off exactly what was pushed.
      have restored : s₁.pop.active = s.active := congrArg List.tail same
      refine ⟨version, s₁.pop.finish n s.active, ?_, inv₁.pop.finish restored, restored, ?_⟩
      · rw [rebuild_of_pending hit, run]
        rfl
      · rw [followed_of_pending hit]
        exact noted.trans (List.append_assoc _ _ _)
    | none =>
      -- Each child begins with the stack of the node, since the one before restored it.
      obtain ⟨shape, s₁, run, -, inv₁, same, noted⟩ :=
        (returning table s.active).traverse (s := n.shape) (f := rebuild table depth)
          (k := fun c => noting (followed table s.active c)) (g := fun _ => ())
          (fun c mem s' inv' same' => by
            have lower := depthBound_child_lt table s.active mem
            obtain ⟨version, s₁, run, inv₁, same, noted⟩ := ih c s' inv'
              (same' ▸ Nat.le_of_lt_succ (Nat.lt_of_lt_of_le lower deep))
            exact ⟨version, s₁, run, rfl, inv₁, same.trans same', same' ▸ noted⟩) s inv rfl
      rw [run_traverse_noting] at noted
      rw [followed_of_settled hit, rebuild_of_settled hit, run, Option.map_some]
      split
      · exact ⟨_, _, rfl, inv₁.finish same, same, noted⟩
      · exact ⟨_, _, rfl, inv₁.fresh.finish same, same, noted⟩

/-! ### The recursion does what rebuilding and settling do -/

section Agreement

variable {a : Arena}

/-- Settling a node without a replacement is settling its children and making a copy when one
of them changed. -/
private theorem settle_rebuild_of_settled
    (values : ∀ key new, table.get? key = some new → a.Holds new) {active : List Nat}
    (hn : a.Holds n) (settled : pending? table active n = none) {next next' : Nat}
    (passed : a.next ≤ next) {shape : Shape Node}
    (inside : n.shape.traverse
      (fun c => settle (m := Fresh) (Patch.rebuild table active c)) next = (shape, next')) :
    settle (m := Fresh) (Patch.rebuild table active n) next =
      if shape.children.map (·.id) = n.children.map (·.id) then (n, next')
        else (.node next' n.span shape, next' + 1) := by
  -- The drafts of the children hold old nodes only where they did not change.
  have drafts : ∀ c ∈ n.children, a.Drafts (Patch.rebuild table active c) :=
    fun c mem => drafts_rebuild values active c (a.holds_child hn mem)
  rw [Patch.rebuild_of_settled settled]
  rw [← Shape.traverse_map (Patch.rebuild table active) settle] at inside
  by_cases kept : n.children.map (fun c => (Patch.rebuild table active c).id) =
      n.children.map (some ·.id)
  · -- Every child is itself, so nothing is settled and nothing is copied.
    have children : n.shape.map (Patch.rebuild table active) = n.shape.map (Tree.map some) :=
      Shape.map_congr fun c mem =>
        (drafts c mem).eq_of_id (a.holds_child hn mem) (List.map_inj_left.1 kept c mem)
    rw [children, Shape.traverse_map, Shape.traverse_congr fun c _ => settle_map_some c,
      Shape.traverse_pure (fun c => c)] at inside
    obtain ⟨same, rfl⟩ := Prod.mk.inj inside
    have same : n.shape = shape := (Shape.map_id n.shape).symm.trans same
    have itself : n.shape.children.map (·.id) = n.children.map (·.id) := rfl
    rw [if_pos kept, children, ← same, if_pos itself]
    obtain ⟨i, span, shape⟩ := n
    rw [Tree.id_node, Tree.span_node, Tree.shape_node, ← Tree.map_node, settle_map_some]
    rfl
  · -- Were the identities the same, the arena would see the same children.
    have changed : shape.children.map (·.id) ≠ n.children.map (·.id) := by
      -- What the arena knows of the settled children are the drafts of them.
      intro same
      have seen := Arena.sketch_traverse_settle (a := a)
        (n.shape.map (Patch.rebuild table active)) (by
          intro d mem
          rw [Shape.children_map] at mem
          obtain ⟨c, memc, rfl⟩ := List.mem_map.1 mem
          exact drafts c memc) next passed
      rw [inside] at seen
      have ids := congrArg (fun s => s.children.map Tree.id) seen
      simp only [Shape.children_map, List.map_map] at ids
      let known (i : Nat) : Option Nat := if i < a.next then some i else none
      refine kept ?_
      calc n.children.map (fun c => (Patch.rebuild table active c).id)
          = shape.children.map (fun c => (a.sketch c).id) := ids.symm
        _ = (shape.children.map (·.id)).map known := by
          rw [List.map_map]
          exact List.map_congr_left fun c _ => a.id_sketch c
        _ = n.children.map (fun c => known c.id) := by rw [same, List.map_map]; rfl
        _ = n.children.map (some ·.id) :=
          List.map_congr_left fun c mem => if_pos (a.id_lt (a.holds_child hn mem))
    rw [if_neg kept, Arena.run_settle_copy, inside, if_neg changed]

/-- Running, from a given stack and a counter that has passed the arena, against running with
the counter alone. -/
private def counting (a : Arena) (active : List Nat) : Correspondence Applying Fresh where
  Rel R x y := ∀ s b s', s.active = active → a.next ≤ s.next → x s = some (b, s') →
    R b (y s.next).1 ∧ s'.next = (y s.next).2 ∧ s'.active = active ∧ a.next ≤ s'.next
  pure related s b s' same passed run := by
    obtain ⟨rfl, rfl⟩ := Prod.mk.inj (Option.some.inj run)
    exact ⟨related, rfl, same, passed⟩
  bind {_ _ _ _ _ _ x y k l} first later s b' s₂ same passed run := by
    obtain ⟨⟨b, s₁⟩, run₁, run₂⟩ := Option.bind_eq_some_iff.1 run
    obtain ⟨related, next₁, same₁, passed₁⟩ := first s b s₁ same passed run₁
    have rest := later b _ related s₁ b' s₂ same₁ passed₁ run₂
    rw [next₁] at rest
    exact rest

/-- **What the recursion returns is the settled draft**, and it leaves the stack alone. -/
theorem rebuild_eq_settle (values : ∀ key new, table.get? key = some new → a.Holds new)
    (depth : Nat) (hn : a.Holds n) (passed : a.next ≤ s.next) {version : Node}
    (run : rebuild table depth n s = some (version, s')) :
    settle (m := Fresh) (Patch.rebuild table s.active n) s.next = (version, s'.next) ∧
      s'.active = s.active := by
  induction depth generalizing n s version s' with
  | zero => cases run
  | succ depth ih =>
    cases hit : pending? table s.active n with
    -- The replacement is rebuilt with one identity more on the stack.
    | some new =>
      rw [rebuild_of_pending hit, Option.map_eq_some_iff] at run
      obtain ⟨⟨_, s₁⟩, run₁, returned⟩ := run
      obtain ⟨rfl, rfl⟩ := Prod.mk.inj returned
      obtain ⟨result, same⟩ :=
        ih (s := s.push n.id) (values _ _ (pending?_eq_some_iff.1 hit).2) passed run₁
      rw [Patch.rebuild_of_pending hit]
      exact ⟨result, congrArg List.tail same⟩
    | none =>
      rw [rebuild_of_settled hit, Option.map_eq_some_iff] at run
      obtain ⟨⟨shape, s₁⟩, run₁, returned⟩ := run
      let draft (c : Node) : Draft := Patch.rebuild table s.active c
      have drafts : ∀ c ∈ n.children, a.Drafts (draft c) :=
        fun c mem => drafts_rebuild values _ c (a.holds_child hn mem)
      -- The children of both are settled in the same order, from the same counter on.
      obtain ⟨same, next₁, same₁, -⟩ := (counting a s.active).traverse (g := id)
        (k := fun c => settle (draft c))
        (fun c mem s' b s'' same' passed' run' => by
          obtain ⟨result, same''⟩ := ih (a.holds_child hn mem) passed' run'
          rw [same'] at result same''
          have later := (Arena.sketch_settle (drafts c mem) s'.next passed').2
          rw [result] at later ⊢
          exact ⟨rfl, rfl, same'', later⟩) s shape s₁ rfl passed run₁
      rw [Shape.map_id] at same
      rw [settle_rebuild_of_settled values hn hit passed (Prod.ext same.symm next₁.symm)]
      -- Both compare the same identities, so both copy the node or neither does.
      split at returned
      · next kept =>
        rw [if_pos kept]
        obtain ⟨rfl, rfl⟩ := Prod.mk.inj returned
        exact ⟨rfl, same₁⟩
      · next changed =>
        rw [if_neg changed]
        obtain ⟨rfl, rfl⟩ := Prod.mk.inj returned
        exact ⟨rfl, same₁⟩

end Agreement

/-- **Applying a patch comes to an end**, whatever its requests, and one stack serves all
calls: at each of them it holds no identity twice and none without a replacement, and it is
the same afterwards. What comes out is what `Patch.apply` makes. -/
theorem rebuild_terminates (p : Patch) (root : Node) (next depth : Nat)
    (deep : p.replacements.length * ceiling p.replacements + root.height ≤ depth) :
    ∃ version s', rebuild p.replacements depth root (start next) = some (version, s') ∧
      s'.active = [] ∧ s'.calls.getLast? = some ⟨root, [], []⟩ ∧
      (∀ c ∈ s'.calls, c.before.Nodup ∧ (∀ key ∈ c.before, key ∈ p.replacements.keys) ∧
        c.after = c.before) ∧
      ∀ a : Arena, a.next = next → a.HoldsPatch p → a.Holds root →
        p.apply (m := Fresh) root next = ((version, p.notices root), s'.next) := by
  -- At the beginning the stack is empty and every replacement is still to follow.
  have all : idle p.replacements [] = p.replacements.keys := by
    rw [idle, List.filter_eq_self]
    intro key _
    rfl
  have bound : depthBound p.replacements (start next).active root ≤ depth := by
    change depthBound p.replacements [] root ≤ depth
    rw [depthBound, all, Table.keys, List.length_map]
    exact deep
  obtain ⟨version, s', run, inv, same, -⟩ :=
    exists_rebuild depth root (start next) (Inv.start _ next) bound
  refine ⟨version, s', run, same, ?_, fun c mem => ?_, ?_⟩
  · -- The outermost call is the last one to return, and left the stack empty.
    rw [getLast?_calls run, same]
    rfl
  · obtain ⟨nodup, keys, restored⟩ := inv.calls c mem
    exact ⟨nodup, keys, restored⟩
  · -- With an arena behind it, the machine makes what the definition says.
    rintro a rfl hp hroot
    obtain ⟨result, -⟩ := rebuild_eq_settle (holds_replacement hp) depth hroot
      (Nat.le_refl _) run
    change ((settle (m := Fresh) (Patch.rebuild p.replacements [] root)) >>= _) a.next = _
    change (fun r : Node × Nat => ((r.1, p.notices root), r.2))
      (settle (m := Fresh) (Patch.rebuild p.replacements [] root) a.next) = _
    rw [show settle (m := Fresh) (Patch.rebuild p.replacements [] root) a.next = _ from result]

open Looping in
/-- Two requests that lead to each other, one of them with its own node in the replacement. -/
theorem rebuild_terminates_looping :
    patch.replacements.length * ceiling patch.replacements + root.height ≤ 6 ∧
      ∃ version s', rebuild patch.replacements 6 root (start 4) = some (version, s') ∧
        s'.active = [] ∧ s'.calls.getLast? = some ⟨root, [], []⟩ ∧
        (∀ c ∈ s'.calls, c.before.Nodup ∧ (∀ key ∈ c.before, key ∈ [0, 1]) ∧
          c.after = c.before) ∧
        patch.apply (m := Fresh) root 4 = ((version, patch.notices root), s'.next) := by
  have deep : patch.replacements.length * ceiling patch.replacements + root.height ≤ 6 := by
    simp [patch, replacements, Table.put, ceiling, first, second, around, root, Tree.height,
      Shape.map, Shape.children]
  obtain ⟨version, s', run, same, last, calls, result⟩ := rebuild_terminates patch root 4 6 deep
  exact ⟨deep, version, s', run, same, last, calls,
    result arena rfl holdsPatch_arena holds_arena.2.2.2⟩

end Applier

end SyntaxTour
