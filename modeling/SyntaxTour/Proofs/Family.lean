import SyntaxTour.Proofs.Version

/-!
# What a patch does to the family of a node

A request is accepted only if its two nodes do not belong to opposite families of positions.
The check is about one request, and patching follows several of them: what replaces a node may
be replaced in its turn. Families agree along such a chain as long as every node in it has one.
An unknown construct has none and fits everywhere, so two requests that were both accepted can
lead from a statement to an unknown construct and on to an expression.

* `Patch.chain` lists the nodes that take the place of a node, one after the other.
* `Patch.Accepted` says that all requests of a patch were accepted; each of them then has
  passed the check (`Accepted.checked`).
* `Patch.version_family` says that a family changes by way of an unknown construct only, and
  `Patch.version_changes_family` that this does happen.
-/

namespace SyntaxTour

theorem Tree.kind_map {ι κ : Type} (f : ι → κ) (t : Tree ι) : (t.map f).kind = t.kind := by
  obtain ⟨i, p, s⟩ := t
  rw [Tree.map_node]
  exact Shape.kind_map _ s

/-- **A replacement that passed the check** does not lead from one family to the other. -/
theorem family_eq_of_checkReplacement {old new : Node} (passed : checkReplacement old new = .ok ())
    {f g : Family} (hf : old.category.family? = some f) (hg : new.category.family? = some g) :
    f = g := by
  unfold checkReplacement at passed
  rw [hf, hg] at passed
  dsimp only at passed
  split at passed
  · next same => exact same
  · cases passed

namespace Patch

/-! ### The nodes that take the place of a node -/

/-- **The nodes that take the place of a node** when it is rebuilt, from the node itself to the
one that stays. -/
def chain (table : Table Nat Node) (active : List Nat) (n : Node) : List Node :=
  match _h : pending? table active n with
  | some new => n :: chain table (n.id :: active) new
  | none => [n]
termination_by (idle table active).length
decreasing_by exact idle_length_lt ‹_›

variable {table : Table Nat Node} {active : List Nat} {n new : Node}

theorem chain_of_pending (hit : pending? table active n = some new) :
    chain table active n = n :: chain table (n.id :: active) new := by
  rw [chain]
  split <;> simp_all

theorem chain_of_settled (none : pending? table active n = none) :
    chain table active n = [n] := by
  rw [chain]
  split <;> simp_all

/-- A node that stays is rebuilt as a node of its kind. -/
theorem kind_rebuild_of_settled (none : pending? table active n = none) :
    (rebuild table active n).kind = n.kind := by
  rw [rebuild_of_settled none]
  exact Shape.kind_map _ n.shape

/-- **The last node of the chain says what comes out.** -/
theorem kind_rebuild (table : Table Nat Node) (active : List Nat) (n : Node) :
    (chain table active n).getLast?.map Tree.kind = some (rebuild table active n).kind := by
  induction active, n using chain.induct table with
  | case1 active n new hit ih =>
    rw [chain_of_pending hit, rebuild_of_pending hit, ← ih, List.getLast?_cons]
    -- The chain of the replacement is not empty, so it has the last node.
    cases last : (chain table (n.id :: active) new).getLast? with
    | none => rw [last] at ih; cases ih
    | some m => rfl
  | case2 active n none =>
    rw [chain_of_settled none, kind_rebuild_of_settled none]
    rfl

/-! ### Accepted requests -/

/-- **Patches that came about by accepted requests.** -/
inductive Accepted : Patch → Prop where
  | empty : Accepted .empty
  | request {p p' : Patch} (old new : Node) :
    Accepted p → p.request old new = .ok p' → Accepted p'

/-- Every request of such a patch passed the check. -/
theorem Accepted.checked {p : Patch} (accepted : p.Accepted) {r : Request}
    (mem : r ∈ p.requests) : checkReplacement r.old r.new = .ok () := by
  induction accepted with
  | empty => cases mem
  -- A request is on the list only if its check was passed.
  | request old new _ added ih =>
    unfold Patch.request at added
    cases passed : checkReplacement old new with
    | error e =>
      rw [passed] at added
      cases added
    | ok _ =>
      rw [passed] at added
      obtain rfl := Except.ok.inj added
      -- It is one of the earlier ones, or the one that was added.
      obtain mem | mem := List.mem_append.1 mem
      · exact ih mem
      · obtain rfl := List.mem_singleton.1 mem
        exact passed

/-- In an arena, a replacement passed the check against the node that it is for. -/
theorem Accepted.checked_of_get? {a : Arena} {p : Patch} (hp : a.HoldsPatch p)
    (accepted : p.Accepted) (hn : a.Holds n) (hit : p.replacements.get? n.id = some new) :
    checkReplacement n new = .ok () := by
  obtain ⟨r, mem, same, rfl⟩ := exists_request_of_get? hit
  obtain rfl : r.old = n := a.eq_of_id (hp r mem).1 hn same
  exact accepted.checked mem

/-! ### Families along a chain -/

/-- **Along a chain the family changes at an unknown construct only**, and not at the node
where the chain ends. -/
theorem family_rebuild {a : Arena} {p : Patch} (hp : a.HoldsPatch p) (accepted : p.Accepted)
    (active : List Nat) (n : Node) (hn : a.Holds n) {f g : Family}
    (hf : n.category.family? = some f)
    (hg : (rebuild p.replacements active n).category.family? = some g) (differ : f ≠ g) :
    ∃ m ∈ (chain p.replacements active n).tail.dropLast, m.category = .other := by
  induction active, n using chain.induct p.replacements generalizing f with
  | case1 active n new hit ih =>
    obtain ⟨-, found⟩ := pending?_eq_some_iff.1 hit
    have passed := accepted.checked_of_get? hp hn found
    rw [rebuild_of_pending hit] at hg
    rw [chain_of_pending hit, List.tail_cons]
    cases pending : pending? p.replacements (n.id :: active) new with
    | none =>
      -- The chain ends here, and the last node has the family of the outcome.
      rw [Tree.category, kind_rebuild_of_settled pending] at hg
      exact absurd (family_eq_of_checkReplacement passed hf hg) differ
    | some later =>
      -- The chain goes on, so the replacement lies inside of it.
      have inside : (chain p.replacements (n.id :: active) new).dropLast =
          new :: (chain p.replacements (n.id :: active) new).tail.dropLast := by
        rw [chain_of_pending pending, List.tail_cons]
        refine List.dropLast_cons_of_ne_nil fun nil => ?_
        have last := kind_rebuild p.replacements (new.id :: n.id :: active) later
        rw [nil] at last
        cases last
      rw [inside]
      cases hnew : new.category.family? with
      | none =>
        -- A category without a family is that of unknown constructs.
        refine ⟨new, List.mem_cons_self, ?_⟩
        generalize new.category = category at hnew
        cases category <;> first | rfl | cases hnew
      | some h =>
        -- The replacement still has the family of the node, which is left further on.
        obtain rfl := family_eq_of_checkReplacement passed hf hnew
        obtain ⟨m, mem, other⟩ := ih (holds_replacement hp _ _ found) hnew hg differ
        exact ⟨m, List.mem_cons_of_mem _ mem, other⟩
  | case2 active n none =>
    rw [Tree.category, kind_rebuild_of_settled none] at hg
    exact absurd (Option.some.inj (hf.symm.trans hg)) differ

/-- A version has the kind that the rebuilt draft has. -/
theorem kind_version {a : Arena} {p : Patch} (hp : a.HoldsPatch p) (hn : a.Holds n) :
    (p.version a n).kind = (rebuild p.replacements [] n).kind := by
  rw [← sketch_version hp hn]
  exact (Tree.kind_map _ _).symm

/-- **A patch changes the family of a node by way of an unknown construct only.** A version has
the kind of the last node in the chain; and when its family is not that of the node, while all
requests were accepted, an unknown construct lies in the chain between the two. -/
theorem version_family (a : Arena) (p : Patch) (hp : a.HoldsPatch p) (accepted : p.Accepted)
    (n : Node) (hn : a.Holds n) :
    (chain p.replacements [] n).getLast?.map Tree.kind = some (p.version a n).kind ∧
    ∀ f g, n.category.family? = some f → (p.version a n).category.family? = some g → f ≠ g →
      ∃ m ∈ (chain p.replacements [] n).tail.dropLast, m.category = .other := by
  refine ⟨?_, fun f g hf hg differ => ?_⟩
  · rw [kind_version hp hn]
    exact kind_rebuild _ _ _
  · rw [Tree.category, kind_version hp hn] at hg
    exact family_rebuild hp accepted [] n hn hf hg differ

/-! ### From a statement to an expression -/

namespace Detour

def statement : Node := .node 0 .empty .emptyStmt

/-- A construct that the grammar does not name. -/
def unknown : Node := .node 1 .empty (.unknown "Macro" [])

def expression : Node := .node 2 .empty (.ident "x")

def patch : Patch := ⟨[⟨statement, unknown⟩, ⟨unknown, expression⟩]⟩

/-- The arena in which these three nodes were made. -/
def arena : Arena :=
  let a := Arena.empty.make .empty .emptyStmt Arena.empty.holds_no_children
  let b := a.make .empty (.unknown "Macro" []) a.holds_no_children
  b.make .empty (.ident "x") b.holds_no_children

theorem holds_statement : arena.Holds statement := by
  simp [arena, Arena.make, Arena.empty, statement]

theorem holdsPatch_arena : arena.HoldsPatch patch := by
  simp [Arena.HoldsPatch, patch, arena, Arena.make, Arena.empty, statement, unknown, expression]

/-- Both requests were accepted, one after the other. -/
theorem accepted_patch : patch.Accepted := by
  have first : Accepted ⟨[⟨statement, unknown⟩]⟩ := .request statement unknown .empty rfl
  exact .request unknown expression first rfl

theorem chain_statement :
    chain patch.replacements [] statement = [statement, unknown, expression] := by
  have first : pending? patch.replacements [] statement = some unknown := rfl
  have second : pending? patch.replacements [0] unknown = some expression := rfl
  have settled : pending? patch.replacements [1, 0] expression = none := rfl
  rw [chain_of_pending first]
  change statement :: chain patch.replacements [0] unknown = _
  rw [chain_of_pending second]
  change statement :: unknown :: chain patch.replacements [1, 0] expression = _
  rw [chain_of_settled settled]

theorem kind_statement : (patch.version arena statement).kind = .ident := by
  have last := kind_rebuild patch.replacements [] statement
  rw [chain_statement] at last
  rw [kind_version holdsPatch_arena holds_statement]
  exact (Option.some.inj last).symm

end Detour

open Detour in
/-- **Accepted requests can make an expression of a statement.** -/
theorem version_changes_family :
    arena.HoldsPatch patch ∧ patch.Accepted ∧ arena.Holds statement ∧
      statement.category.family? = some .statement ∧
      (patch.version arena statement).category.family? = some .expression := by
  refine ⟨holdsPatch_arena, accepted_patch, holds_statement, rfl, ?_⟩
  rw [Tree.category, kind_statement]
  rfl

open Detour in
/-- A statement gives way to an unknown construct and that to a name. The chain ends in the other
family, and the construct is what stands between. -/
theorem version_family_detour :
    arena.HoldsPatch patch ∧ patch.Accepted ∧ arena.Holds statement ∧
      (patch.version arena statement).kind = .ident ∧
      ∃ m ∈ [unknown], m.category = .other := by
  obtain ⟨last, through⟩ :=
    version_family arena patch holdsPatch_arena accepted_patch statement holds_statement
  rw [chain_statement] at last through
  refine ⟨holdsPatch_arena, accepted_patch, holds_statement, (Option.some.inj last).symm, ?_⟩
  refine through .statement .expression rfl ?_ (by decide)
  rw [Tree.category, kind_statement]
  rfl

end Patch

end SyntaxTour
