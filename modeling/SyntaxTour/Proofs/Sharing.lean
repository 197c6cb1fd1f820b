import SyntaxTour.Proofs.Applier
import SyntaxTour.Proofs.Completeness

/-!
# What a new version shares

A new version of a tree is made of nodes that were there before and of copies. Where nothing is
requested nothing is copied, and no copy is made for nothing: each one stands for a node below
which something was requested, is that node but for its children, and has another child in at
least one place. No node that was there before changes.

* `Shape.outline` is a node without what stands in its places, and `Patch.Copies` says what a
  copy has to do with the node it was made of.
* `Arena.Extends` says that an arena has grown, and `Arena.Grown` that it has grown by nothing
  but what some results are made of. Both come about from results one after the other.
* `Applier.exists_rebuild_of_not_requests` says that the recursion returns what it was called
  for where nothing is requested.
* `Applier.exists_grown` is the step for the rest: a call lets the arena grow by copies.
* `Patch.version_shares` is what this means for a patch.
-/

namespace SyntaxTour

/-- A node without what stands in its places: its kind, what it holds besides children, and how
many children stand in each of the places. -/
def Shape.outline {α : Type} (s : Shape α) : Shape Unit := s.map fun _ => ()

/-- **What a copy has to do with the node it was made of**: it is the same but for its children,
of which at least one is another node, and something was requested below that node. -/
structure Patch.Copies (p : Patch) (n copy : Node) : Prop where
  span : copy.span = n.span
  outline : copy.shape.outline = n.shape.outline
  changed : ∃ pair ∈ n.children.zip copy.children, pair.1.id ≠ pair.2.id
  requested : ∃ c ∈ n.children, ∃ m ∈ c.preorder, p.Requests m.id

/-! ### Arenas that grow -/

namespace Arena

/-- An arena with everything that another one held. -/
structure Extends (a a' : Arena) : Prop where
  passed : a.next ≤ a'.next
  kept : ∀ n, a.Holds n → a'.Holds n

/-- **An arena has grown while some trees were made**: it holds them, everything new in it is as
`made` says, and no identity was given to anything that is not part of them. -/
structure Grown (made : Node → Prop) (a a' : Arena) (results : List Node) : Prop
    extends Extends a a' where
  new : ∀ m, a'.Holds m → a.Holds m ∨ a.next ≤ m.id ∧ made m
  held : ∀ r ∈ results, a'.Holds r
  given : ∀ i, a.next ≤ i → i < a'.next → ∃ r ∈ results, ∃ m ∈ r.preorder, m.id = i

variable {made : Node → Prop} {a b c : Arena} {rs rs' : List Node}

theorem Extends.refl (a : Arena) : Extends a a where
  passed := Nat.le_refl _
  kept _ hn := hn

theorem Extends.trans (h : Extends a b) (h' : Extends b c) : Extends a c where
  passed := Nat.le_trans h.passed h'.passed
  kept n hn := h'.kept n (h.kept n hn)

theorem Grown.of_holds (held : ∀ r ∈ rs, a.Holds r) : Grown made a a rs where
  toExtends := Extends.refl a
  new _ hm := .inl hm
  held := held
  given _ least less := absurd less (Nat.not_lt.2 least)

theorem Grown.append (h : Grown made a b rs) (h' : Grown made b c rs') :
    Grown made a c (rs ++ rs') where
  toExtends := h.toExtends.trans h'.toExtends
  new m hm := by
    -- Newly made is what the first steps made or what the later ones made.
    obtain before | ⟨later, made⟩ := h'.new m hm
    · exact h.new m before
    · exact .inr ⟨Nat.le_trans h.passed later, made⟩
  held r mem := by
    obtain mem | mem := List.mem_append.1 mem
    · exact h'.kept r (h.held r mem)
    · exact h'.held r mem
  given i least less := by
    -- An identity was given while the first results were made or while the others were.
    obtain early | late := Nat.lt_or_ge i b.next
    · obtain ⟨r, mem, found⟩ := h.given i least early
      exact ⟨r, List.mem_append_left rs' mem, found⟩
    · obtain ⟨r, mem, found⟩ := h'.given i late less
      exact ⟨r, List.mem_append_right rs mem, found⟩

theorem Grown.make {span : Span} {shape : Shape Node} (h : Grown made a b shape.children)
    (copy : made (.node b.next span shape)) :
    Grown made a (b.make span shape h.held) [.node b.next span shape] where
  passed := Nat.le_succ_of_le h.passed
  kept n hn := .inl (h.kept n hn)
  new m hm := by
    obtain before | rfl := hm
    · exact h.new m before
    · exact .inr ⟨h.passed, copy⟩
  held r mem := .inr (List.mem_singleton.1 mem)
  given i least less := by
    refine ⟨_, List.mem_singleton_self _, ?_⟩
    -- The last identity is that of the node itself, and the others are below its children.
    obtain early | last := Nat.lt_or_eq_of_le (Nat.le_of_lt_succ less)
    · obtain ⟨r, mem, m, below, same⟩ := h.given i least early
      exact ⟨m, Tree.mem_preorder_of_mem_children (t := .node b.next span shape) mem below, same⟩
    · exact ⟨_, Tree.mem_preorder_self _, last.symm⟩

/-- Results that were there before are made without an identity. -/
theorem Grown.next_eq (h : Grown made a b rs) (old : ∀ r ∈ rs, a.Holds r) : b.next = a.next := by
  refine Nat.le_antisymm (Nat.le_of_not_lt fun more => ?_) h.passed
  -- The first identity given would belong to something old, which has an earlier one.
  obtain ⟨r, mem, m, below, same⟩ := h.given a.next (Nat.le_refl _) more
  exact Nat.ne_of_lt (a.id_lt (a.holds_of_mem_preorder (old r mem) below)) same

end Arena

/-! ### Copies -/

namespace Applier

open Patch (pending? pending?_eq_none_iff pending?_eq_some_iff)

variable {table : Table Nat Node} {p : Patch} {a b : Arena} {n : Node} {s s' : Applier}

/-- Rows of equal length with different identities differ somewhere. -/
private theorem exists_ne_of_ids_ne {l l' : List Node} (length : l.length = l'.length)
    (ne : l'.map (·.id) ≠ l.map (·.id)) : ∃ pair ∈ l.zip l', pair.1.id ≠ pair.2.id := by
  induction l generalizing l' with
  | nil =>
    obtain rfl := List.length_eq_zero_iff.1 length.symm
    exact absurd rfl ne
  | cons n l ih =>
    obtain _ | ⟨n', l'⟩ := l'
    · cases length
    · by_cases same : n.id = n'.id
      · have rest : l'.map (·.id) ≠ l.map (·.id) := fun rest =>
          ne (by rw [List.map_cons, List.map_cons, same, rest])
        obtain ⟨pair, mem, differ⟩ := ih (Nat.succ.inj length) rest
        exact ⟨pair, List.mem_cons_of_mem _ mem, differ⟩
      · exact ⟨(n, n'), List.mem_cons_self, same⟩

/-- What is made of the children takes their places. -/
theorem outline_of_traverse {f : Node → Applying Node} {shape shape' : Shape Node}
    (run : shape.traverse f s = some (shape', s')) : shape'.outline = shape.outline := by
  have asked := congrArg (fun x => (StateT.run x s).map Prod.fst) (yields_traverse f shape).map_eq
  have returned : (shape.traverse f).run s = some (shape', s') := run
  simp only [StateT.run_map, returned] at asked
  exact of_eq_true (Option.some.inj asked)

/-- Returning what was asked for without taking an identity, against having it. -/
private def keeping : Correspondence Applying Id where
  Rel R x y := ∀ s, ∃ b s', x s = some (b, s') ∧ R b y ∧ s'.next = s.next
  pure related s := ⟨_, s, rfl, related, rfl⟩
  bind {_ _ _ _ _ _ x _ k _} first later s := by
    obtain ⟨b, s₁, run₁, related, same₁⟩ := first s
    obtain ⟨b', s₂, run₂, related', same₂⟩ := later b _ related s₁
    refine ⟨b', s₂, ?_, related', same₂.trans same₁⟩
    change (x s).bind _ = _
    rw [run₁]
    exact run₂

/-- **Where nothing is requested, the recursion returns what it was called for**, and gives no
identity. -/
theorem exists_rebuild_of_not_requests (depth : Nat) (n : Node)
    (free : ∀ m ∈ n.preorder, ¬ p.Requests m.id) (deep : n.height ≤ depth) (s : Applier) :
    ∃ s', rebuild p.replacements depth n s = some (n, s') ∧ s'.next = s.next := by
  induction depth generalizing n s with
  | zero => exact absurd deep (Nat.not_le.2 (Nat.zero_lt_of_lt n.height_pos))
  | succ depth ih =>
    -- The children are returned as they are, one after the other, and the counter stays.
    obtain ⟨shape, s₁, run, same, next⟩ := keeping.traverse (s := n.shape)
      (f := rebuild p.replacements depth) (k := fun c => (pure c : Id Node)) (g := id)
      (fun c child s => by
        obtain ⟨s', run, next⟩ := ih c
          (fun m below => free m (Tree.mem_preorder_of_mem_children child below))
          (Nat.le_of_lt_succ (Nat.lt_of_lt_of_le (Tree.height_lt_of_mem_children child) deep)) s
        exact ⟨c, s', run, rfl, next⟩) s
    rw [Shape.traverse_pure fun c => c, Shape.map_id] at same
    have same : shape = n.shape := same.trans (Shape.map_id _)
    -- All children are what they were, so the node is returned and not copied.
    have settled := Patch.pending?_of_not_requests (free n n.mem_preorder_self) s.active
    rw [rebuild_of_settled settled, run, Option.map_some, if_pos (by rw [same]; rfl)]
    exact ⟨_, rfl, next⟩

/-- Where nothing is pending, the recursion returns nothing else. -/
theorem eq_of_untouched (values : ∀ key new, table.get? key = some new → a.Holds new)
    (hn : a.Holds n) (untouched : ∀ m ∈ n.preorder, pending? table s.active m = none)
    (passed : a.next ≤ s.next) {depth : Nat} {version : Node}
    (run : rebuild table depth n s = some (version, s')) : version = n := by
  obtain ⟨settled, -⟩ := rebuild_eq_settle values depth hn passed run
  rw [Patch.rebuild_of_untouched untouched, Patch.settle_map_some] at settled
  exact (Prod.mk.inj settled).1.symm

variable {made : Node → Prop}

/-- Results of a row come about one after the other. -/
theorem exists_grown_row {f : Node → Applying Node} {l : List Node}
    (each : ∀ c ∈ l, ∀ b s version s', a.Extends b → b.next = s.next →
      f c s = some (version, s') → ∃ b', b'.next = s'.next ∧ Arena.Grown made b b' [version])
    {s s' : Applier} {results : List Node} (base : a.Extends b) (counter : b.next = s.next)
    (run : l.mapM f s = some (results, s')) :
    ∃ b', b'.next = s'.next ∧ Arena.Grown made b b' results := by
  induction l generalizing b s results with
  | nil =>
    rw [List.mapM_nil] at run
    obtain ⟨rfl, rfl⟩ := Prod.mk.inj (Option.some.inj run)
    exact ⟨b, counter, .of_holds fun r mem => nomatch mem⟩
  | cons c l ih =>
    rw [List.mapM_cons] at run
    obtain ⟨⟨version, s₁⟩, run₁, run⟩ := Option.bind_eq_some_iff.1 run
    obtain ⟨⟨rest, s₂⟩, run₂, run⟩ := Option.bind_eq_some_iff.1 run
    obtain ⟨rfl, rfl⟩ := Prod.mk.inj (Option.some.inj run)
    -- The rest of the row is made in the arena in which the first result is.
    obtain ⟨b₁, counter₁, grown₁⟩ := each c List.mem_cons_self b s version s₁ base counter run₁
    obtain ⟨b₂, counter₂, grown₂⟩ := ih (fun c mem => each c (List.mem_cons_of_mem _ mem))
      (base.trans grown₁.toExtends) counter₁ run₂
    exact ⟨b₂, counter₂, grown₁.append grown₂⟩

/-- A node is copied only if something was requested below it. -/
theorem copies_of_changed (hp : a.HoldsPatch p) (hn : a.Holds n) {depth : Nat}
    (settled : pending? p.replacements s.active n = none) (passed : a.next ≤ s.next)
    {shape : Shape Node} {s₁ : Applier}
    (inside : n.shape.traverse (rebuild p.replacements depth) s = some (shape, s₁))
    (changed : shape.children.map (·.id) ≠ n.children.map (·.id)) (i : Nat) :
    p.Copies n (.node i n.span shape) where
  span := rfl
  outline := outline_of_traverse inside
  changed := by
    have length : n.children.length = shape.children.length := by
      have outline := congrArg (fun s => s.children.length) (outline_of_traverse inside)
      simpa [Shape.outline, Tree.children] using outline.symm
    exact exists_ne_of_ids_ne length changed
  -- If no requested node were below, nothing below would be touched by the recursion.
  requested := by
    by_cases below : ∃ c ∈ n.children, ∃ m ∈ c.preorder, p.Requests m.id
    · exact below
    · have untouched : ∀ m ∈ n.preorder, pending? p.replacements s.active m = none := by
        intro m mem
        rw [Tree.preorder_eq] at mem
        obtain rfl | mem := List.mem_cons.1 mem
        · exact settled
        · obtain ⟨c, child, mem⟩ := List.mem_flatMap.1 mem
          exact Patch.pending?_of_not_requests
            (fun requested => below ⟨c, child, m, mem, requested⟩) s.active
      -- The call for the node returns its copy, and would have to return the node.
      have run : rebuild p.replacements (depth + 1) n s =
          some (.node s₁.next n.span shape, s₁.fresh.finish n s.active) := by
        rw [rebuild_of_settled settled, inside, Option.map_some, if_neg changed]
      have same := eq_of_untouched (Patch.holds_replacement hp) hn untouched passed run
      exact absurd (congrArg (fun m : Node => m.children.map (·.id)) same) changed

/-- **A call lets the arena grow by copies**, and by no others than what it returns is made of. -/
theorem exists_grown (hp : a.HoldsPatch p) (depth : Nat) (hn : a.Holds n) (base : a.Extends b)
    (counter : b.next = s.next) {version : Node}
    (run : rebuild p.replacements depth n s = some (version, s')) :
    ∃ b', b'.next = s'.next ∧
      Arena.Grown (fun m => ∃ n, a.Holds n ∧ p.Copies n m) b b' [version] := by
  induction depth generalizing n b s version s' with
  | zero => cases run
  -- A call is returned from the replacement, or goes through the children of the node.
  | succ depth ih =>
    cases hit : pending? p.replacements s.active n with
    | some new =>
      rw [rebuild_of_pending hit, Option.map_eq_some_iff] at run
      obtain ⟨⟨_, s₁⟩, run₁, returned⟩ := run
      obtain ⟨rfl, rfl⟩ := Prod.mk.inj returned
      -- The stack grows and shrinks again, and the counter is not touched by that.
      obtain ⟨b', counter', grown⟩ := ih (s := s.push n.id)
        (Patch.holds_replacement hp _ _ (pending?_eq_some_iff.1 hit).2) base counter run₁
      exact ⟨b', counter', grown⟩
    | none =>
      rw [rebuild_of_settled hit, Option.map_eq_some_iff] at run
      obtain ⟨⟨shape, s₁⟩, run₁, returned⟩ := run
      -- The results of the children are made row by row, in arenas that go on from each other.
      have row : n.children.mapM (rebuild p.replacements depth) s =
          some (shape.children, s₁) := by
        rw [Tree.children, ← Shape.children_traverse]
        change (n.shape.traverse (rebuild p.replacements depth) s).bind _ = _
        rw [run₁]
        rfl
      obtain ⟨b', counter', grown⟩ := exists_grown_row
        (fun c child b s version s' base counter run =>
          ih (a.holds_child hn child) base counter run) base counter row
      split at returned
      · next kept =>
        obtain ⟨rfl, rfl⟩ := Prod.mk.inj returned
        -- Results with the identities of the children are the children, so none was made.
        have old : ∀ r ∈ shape.children, b.Holds r := by
          intro r mem
          obtain ⟨c, child, same⟩ := List.mem_map.1 (kept ▸ List.mem_map_of_mem mem)
          have held := base.kept c (a.holds_child hn child)
          rwa [b'.eq_of_id (grown.held r mem) (grown.kept c held) same.symm]
        refine ⟨b, (grown.next_eq old).symm.trans counter', .of_holds fun r mem => ?_⟩
        rw [List.mem_singleton.1 mem]
        exact base.kept n hn
      · -- The copy takes the next identity, with the results below it.
        next changed =>
        obtain ⟨rfl, rfl⟩ := Prod.mk.inj returned
        have passed : a.next ≤ s.next := Nat.le_trans base.passed (Nat.le_of_eq counter)
        refine ⟨b'.make n.span shape grown.held, congrArg (· + 1) counter', ?_⟩
        rw [← counter']
        exact grown.make ⟨n, hn, copies_of_changed hp hn hit passed run₁ changed b'.next⟩

end Applier

namespace Patch

/-- **A new version shares all it can.** Where no request is about anything in a tree, rebuilding
returns the tree and gives no identity, whatever is being rebuilt around it, and so applying the
patch does. Everywhere else, applying a patch lets the arena grow: the nodes it held are in it,
and each is still what its identity stands for; every other node in it is a copy of one that it
held, in which a child is another node and below which something was requested; and no identity
was given to anything that is not part of the new version. -/
theorem version_shares (p : Patch) :
    (∀ n, (∀ m ∈ n.preorder, ¬ p.Requests m.id) →
      (∀ depth s, n.height ≤ depth →
        ∃ s', Applier.rebuild p.replacements depth n s = some (n, s') ∧ s'.next = s.next) ∧
      ∀ next, p.apply (m := Fresh) n next = ((n, p.notices n), next)) ∧
    ∀ a : Arena, a.HoldsPatch p → ∀ root, a.Holds root →
      ∃ a' : Arena, a'.next = (p.apply (m := Fresh) root a.next).2 ∧
        a'.Holds (p.version a root) ∧
        (∀ n, a.Holds n → a'.Holds n ∧ ∀ m, a'.Holds m → m.id = n.id → m = n) ∧
        (∀ m, a'.Holds m → a.Holds m ∨ a.next ≤ m.id ∧ ∃ n, a.Holds n ∧ p.Copies n m) ∧
        ∀ i, a.next ≤ i → i < a'.next → ∃ m ∈ (p.version a root).preorder, m.id = i := by
  constructor
  · -- Without a request inside, applying the patch allocates nothing.
    intro n free
    exact ⟨fun depth s deep => Applier.exists_rebuild_of_not_requests depth n free deep s,
      apply_of_untouched free⟩
  · intro a hp root hr
    -- Applying the patch is what the recursion does when calls may nest deep enough.
    obtain ⟨version, s', run, -⟩ := Applier.exists_rebuild _ root (Applier.start a.next)
      (.start p.replacements a.next) (Nat.le_refl _)
    obtain ⟨settled, -⟩ :=
      Applier.rebuild_eq_settle (holds_replacement hp) _ hr (Nat.le_refl _) run
    obtain ⟨a', counter, grown⟩ := Applier.exists_grown hp _ hr (.refl a) rfl run
    have applied : p.apply (m := Fresh) root a.next = ((version, p.notices root), s'.next) := by
      rw [run_apply, show settle (m := Fresh) (rebuild p.replacements [] root) a.next = _
        from settled]
    have result : p.version a root = version := congrArg (·.1.1) applied
    rw [applied, result]
    refine ⟨a', counter, grown.held _ (List.mem_singleton_self _), fun n hn => ?_, grown.new,
      fun i least less => ?_⟩
    · -- Old nodes stay, and no new node takes the identity of one of them.
      have held := grown.kept n hn
      exact ⟨held, fun m hm same => a'.eq_of_id hm held same⟩
    · -- The new identities have all gone to nodes of the version.
      obtain ⟨r, mem, found⟩ := grown.given i least less
      rwa [List.mem_singleton.1 mem] at found

open Chain in
/-- Nothing is requested in the third statement, while the two blocks have to be copied. -/
theorem version_shares_chain :
    (∀ m ∈ third.preorder, ¬ patch.Requests m.id) ∧ third.height ≤ 1 ∧
      arena.HoldsPatch patch ∧ arena.Holds root ∧
      (∃ s', Applier.rebuild patch.replacements 1 third (Applier.start 5) = some (third, s') ∧
        s'.next = 5) ∧
      patch.apply (m := Fresh) third 5 = ((third, patch.notices third), 5) ∧
      ∃ a' : Arena, a'.next = (patch.apply (m := Fresh) root 5).2 ∧
        a'.Holds (patch.version arena root) ∧
        (∀ n, arena.Holds n → a'.Holds n ∧ ∀ m, a'.Holds m → m.id = n.id → m = n) ∧
        (∀ m, a'.Holds m →
          arena.Holds m ∨ 5 ≤ m.id ∧ ∃ n, arena.Holds n ∧ patch.Copies n m) ∧
        ∀ i, 5 ≤ i → i < a'.next → ∃ m ∈ (patch.version arena root).preorder, m.id = i := by
  -- The third node has nothing below it, and no request is about it.
  have free : ∀ m ∈ third.preorder, ¬ patch.Requests m.id := by
    rw [Tree.preorder_eq, show third.children = [] from rfl]
    simp [Requests, patch, first, second, third]
  have deep : third.height ≤ 1 := by
    simp [third, Tree.height, Shape.map, Shape.children]
  obtain ⟨quiet, grown⟩ := version_shares patch
  obtain ⟨rebuilt, applied⟩ := quiet third free
  exact ⟨free, deep, holdsPatch_arena, holds_root, rebuilt 1 (Applier.start 5) deep, applied 5,
    grown arena holdsPatch_arena root holds_root⟩

end Patch

end SyntaxTour
