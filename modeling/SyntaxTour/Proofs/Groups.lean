import Mathlib.Data.List.Nodup
import SyntaxTour.Proofs.Registration

/-!
# Groups of listeners

The registry goes by what a listener names when it is called, and a listener may change its mind
between two calls. It may then be filed under several kinds at once, and be taken off one under
which it never was. The groups are in order nevertheless, since every call is about one of them
only: it adds to the group somebody who was not in it, takes somebody out of it, or leaves
everything as it is.

* `Registry.Tidy` says that every kind has at most one group and that no group is empty. What is
  asked about kinds can then be read off the groups (`Tidy.isEmpty_iff`, `Tidy.mem_kinds_iff`,
  `Tidy.pairwise_kinds`).
* `Registry.Operation` is one call on a registry, with what its listener names at that moment, and
  `Registry.operated` is what comes of a sequence of them.
* `Registry.Orderly` is the invariant, and `Registry.orderly_operated` says that it holds.
* `Registry.operated_well_formed` is the statement about all sequences of operations.
-/

namespace SyntaxTour

namespace Registry

/-- **Every kind has at most one group, and no group is empty.** -/
structure Tidy (r : Registry) : Prop where
  nodup : r.groups.keys.Nodup
  inhabited (kind : Kind) : r.groups.get? kind ≠ some []

section

variable {r : Registry} {kind : Kind}

theorem tidy_empty : Tidy empty where
  nodup := List.nodup_nil
  inhabited _ := nofun

theorem Tidy.put (tidy : r.Tidy) {group : List Handle} (some : group ≠ []) :
    Tidy ⟨r.groups.put kind group⟩ where
  nodup := Table.nodup_keys_put kind group tidy.nodup
  inhabited kind' := by
    by_cases same : kind' = kind
    · subst same
      rw [Table.get?_put_self]
      exact fun none => some (Option.some.inj none)
    · rw [Table.get?_put_of_ne same]
      exact tidy.inhabited kind'

theorem Tidy.erase (tidy : r.Tidy) : Tidy ⟨r.groups.erase kind⟩ where
  nodup := by
    rw [Table.keys_erase]
    exact tidy.nodup.filter _
  inhabited kind' := by
    by_cases same : kind' = kind
    · subst same
      rw [Table.get?_erase_self]
      exact nofun
    · rw [Table.get?_erase_of_ne same]
      exact tidy.inhabited kind'

/-- A listener that comes in makes its group larger. -/
theorem Tidy.register (tidy : r.Tidy) (listener : Handle) (declared : Option Kind) :
    (r.register listener declared).2.Tidy := by
  unfold Registry.register
  dsimp only
  split
  · exact tidy
  · exact tidy.put (List.append_ne_nil_of_right_ne_nil _ (List.cons_ne_nil _ _))

/-- A listener that leaves takes its group along when there is nobody else in it. -/
theorem Tidy.unregister (tidy : r.Tidy) (listener : Handle) (declared : Option Kind) :
    (r.unregister listener declared).2.Tidy := by
  unfold Registry.unregister
  dsimp only
  split
  · split
    · exact tidy.erase
    · next others => exact tidy.put fun none => others (List.isEmpty_iff.mpr none)
  · exact tidy

/-! ### What is asked about the groups -/

namespace Tidy

variable (tidy : r.Tidy)

include tidy

/-- What is found for a kind is its group. -/
theorem lookup_of_mem {group : List Handle} (mem : (kind, group) ∈ r.groups) :
    r.lookup kind = group := by
  rw [lookup, Table.get?_of_mem tidy.nodup mem, Option.getD_some]

theorem ne_nil_of_mem {group : List Handle} (mem : (kind, group) ∈ r.groups) : group ≠ [] := by
  intro none
  exact tidy.inhabited kind (none ▸ Table.get?_of_mem tidy.nodup mem)

/-- The kinds that have a group are those for which somebody is found. -/
theorem mem_keys_iff : kind ∈ r.groups.keys ↔ r.lookup kind ≠ [] := by
  rw [Table.mem_keys_iff, lookup]
  constructor
  · rintro ⟨group, found⟩ none
    rw [found, Option.getD_some] at none
    exact tidy.inhabited kind (none ▸ found)
  · intro some
    cases found : r.groups.get? kind with
    | none =>
      rw [found] at some
      exact absurd rfl some
    | some group => exact ⟨group, rfl⟩

/-- One group after the other, the registry has what is found for its kinds. -/
theorem flatMap_groups : (r.groups.flatMap fun group => group.2) =
    r.groups.keys.flatMap r.lookup := by
  rw [Table.keys, List.flatMap_map]
  exact (List.flatMap_congr fun entry mem => tidy.lookup_of_mem mem).symm

/-- Without groups nobody is registered, and only then. -/
theorem isEmpty_iff : r.isEmpty = true ↔ r.size = 0 := by
  rw [isEmpty, List.isEmpty_iff, size, List.length_eq_zero_iff, List.flatMap_eq_nil_iff]
  constructor
  · intro none entry mem
    rw [none] at mem
    cases mem
  · exact fun none => List.eq_nil_iff_forall_not_mem.mpr fun entry mem =>
      tidy.ne_nil_of_mem mem (none entry mem)

theorem mem_kinds_iff : kind ∈ r.kinds ↔ r.lookup kind ≠ [] := by
  rw [kinds, List.mem_mergeSort, tidy.mem_keys_iff]

/-- Sorted, the kinds that have a group are in strict order, since none of them comes twice. -/
theorem pairwise_kinds : r.kinds.Pairwise fun a b => a.index < b.index := by
  have sorted : r.kinds.Pairwise fun a b => decide (a.index ≤ b.index) = true := by
    refine List.pairwise_mergeSort (fun a b c => ?_) (fun a b => ?_) _
    · simpa using Nat.le_trans
    · simpa using Nat.le_total a.index b.index
  have apart : r.kinds.Pairwise (· ≠ ·) :=
    (List.mergeSort_perm r.groups.keys _).nodup_iff.mpr tidy.nodup
  refine (sorted.and apart).imp fun {a b} both => ?_
  exact Nat.lt_of_le_of_ne (of_decide_eq_true both.1) fun same => both.2 (Kind.index_inj.mp same)

end Tidy

end

/-- Whether anyone listens to a kind, in terms of who is found. -/
theorem hasListeners_iff {r : Registry} {kind : Kind} :
    r.hasListeners kind = true ↔ r.lookup kind ≠ [] := by
  rw [hasListeners, Bool.not_eq_true', ← Bool.not_eq_true, List.isEmpty_iff]

/-! ### What a call leaves alone -/

namespace Change

/-- The listener that the call is about. -/
def listener : Change → Handle
  | register listener _ => listener
  | unregister listener _ => listener

/-- The kind that the call is about: the one that its listener names now. -/
def filed : Change → Kind
  | register _ declared => subscription declared
  | unregister _ declared => subscription declared

variable {c : Change} {kind : Kind}

/-- The rows of other kinds stay as they are. -/
theorem update_of_ne (other : kind ≠ c.filed) (row : List Handle) : c.update kind row = row := by
  cases c with
  | register listener declared =>
    rw [update_register, if_neg]
    exact fun both => other both.1.symm
  | unregister listener declared =>
    rw [update_unregister, if_neg]
    exact fun same => other same.symm

/-- All the others are in a row as they were before, in the same order. -/
theorem filter_update (c : Change) (kind : Kind) (row : List Handle) :
    (c.update kind row).filter (fun m => !m.same c.listener) =
      row.filter fun m => !m.same c.listener := by
  cases c with
  -- A listener that is registered goes to the end of its row, where it does not pass.
  | register listener declared =>
    rw [update_register]
    split
    · have itself : [listener].filter (fun m => !m.same listener) = [] := by simp [Handle.same]
      rw [List.filter_append, Change.listener, itself, List.append_nil]
    · rfl
  | unregister listener declared =>
    rw [update_unregister, Change.listener]
    split
    · -- Whoever is taken out of the row would not have passed.
      induction row with
      | nil => rfl
      | cons m row ih =>
        rw [List.eraseP_cons]
        cases same : m.same listener with
        | true => rw [cond_true, List.filter_cons_of_neg (by simp [same])]
        | false =>
          rw [cond_false, List.filter_cons_of_pos (by simp [same]), ih,
            List.filter_cons_of_pos (by simp [same])]
    · rfl

end Change

/-- A call that finds nobody to take out leaves the registry as it is. -/
theorem unregister_of_absent {r : Registry} {listener : Handle} {declared : Option Kind}
    (absent : (r.unregister listener declared).1 = false) :
    (r.unregister listener declared).2 = r := by
  unfold unregister at absent ⊢
  dsimp only at absent ⊢
  split
  · next found =>
    rw [if_pos found] at absent
    cases absent
  · rfl

/-! ### Sequences of operations -/

/-- **One operation on a registry**: a call about a listener, with what that names at this
moment, or the removal of everyone. -/
inductive Operation where
  | change (c : Change)
  | clear
  deriving DecidableEq, Repr

/-- The registry after an operation. -/
def operate (r : Registry) : Operation → Registry
  | .change c => r.change c
  | .clear => r.clear

/-- The registry after a sequence of operations, the first one first. -/
def operated (operations : List Operation) : Registry := operations.foldl operate empty

/-- **An orderly registry**: it is tidy, and nobody stands twice in one group. -/
structure Orderly (r : Registry) : Prop extends Tidy r where
  distinct (kind : Kind) : ((r.lookup kind).map (·.id)).Nodup

theorem orderly_empty : Orderly empty where
  toTidy := tidy_empty
  distinct _ := List.nodup_nil

/-- A call keeps a registry in order, whatever its listener names now or named before. -/
theorem Orderly.change {r : Registry} (orderly : r.Orderly) (c : Change) : (r.change c).Orderly where
  toTidy := by
    cases c with
    | register listener declared => exact orderly.toTidy.register listener declared
    | unregister listener declared => exact orderly.toTidy.unregister listener declared
  distinct kind := by
    rw [lookup_change]
    exact c.nodup_update kind (orderly.distinct kind)

section

variable {r : Registry} (listener : Handle) (declared : Option Kind)

/-- Whoever is registered is found afterwards. -/
theorem exists_mem_register :
    ∃ m ∈ (r.register listener declared).2.lookup (subscription declared),
      m.id = listener.id := by
  rw [lookup_register, Change.update_register]
  cases there : (r.lookup (subscription declared)).any (·.same listener) with
  | true =>
    rw [if_neg fun both => Bool.noConfusion both.2]
    exact any_same_iff.mp there
  | false =>
    rw [if_pos ⟨rfl, rfl⟩]
    exact ⟨listener, List.mem_append_right _ (List.mem_singleton_self _), rfl⟩

/-- Whoever is unregistered is not found any more, having stood in the group at most once. -/
theorem Orderly.ne_of_mem_unregister (orderly : r.Orderly) :
    ∀ m ∈ (r.unregister listener declared).2.lookup (subscription declared),
      m.id ≠ listener.id := by
  intro m mem
  rw [lookup_unregister, Change.update_unregister, if_pos rfl, eraseP_same (orderly.distinct _),
    List.mem_filter] at mem
  simpa [Handle.same] using mem.2

end

/-- **After any sequence of operations the registry is in order.** -/
theorem orderly_operated (operations : List Operation) : (operated operations).Orderly := by
  have further {r : Registry} (orderly : r.Orderly) : (operations.foldl operate r).Orderly := by
    induction operations generalizing r with
    | nil => exact orderly
    | cons operation operations ih =>
      refine ih ?_
      cases operation with
      | change c => exact orderly.change c
      | clear => exact orderly_empty
  exact further orderly_empty

/-- **A registry stays well formed when listeners change their minds.** After any sequence of
operations, whatever the listeners name at each of them: no group is empty, so that there are no
groups exactly if nobody is registered; nobody stands twice in one group; the kinds that have a
group come in strict order, and are those to which somebody listens. The next call changes at most
what is found for the kind that its listener names at that moment, and leaves the others there in
their order; after it the listener is found there if it was registered, and is not if it was
unregistered. To unregister somebody who is not found there changes nothing. -/
theorem operated_well_formed (operations : List Operation) :
    let r := operated operations
    (∀ entry ∈ r.groups, entry.2 ≠ []) ∧
      (r.isEmpty = true ↔ r.size = 0) ∧
      (∀ entry ∈ r.groups, (entry.2.map (·.id)).Nodup) ∧
      r.kinds.Pairwise (fun a b => a.index < b.index) ∧
      (∀ kind, kind ∈ r.kinds ↔ r.hasListeners kind = true) ∧
      (∀ c : Change,
        (∀ kind, kind ≠ c.filed → (r.change c).lookup kind = r.lookup kind) ∧
        ∀ kind, ((r.change c).lookup kind).filter (fun m => !m.same c.listener) =
          (r.lookup kind).filter fun m => !m.same c.listener) ∧
      (∀ listener declared,
        (∃ m ∈ (r.register listener declared).2.lookup (subscription declared),
          m.id = listener.id) ∧
        ∀ m ∈ (r.unregister listener declared).2.lookup (subscription declared),
          m.id ≠ listener.id) ∧
      ∀ listener declared, (r.unregister listener declared).1 = false →
        (r.unregister listener declared).2 = r := by
  intro r
  have orderly : r.Orderly := orderly_operated operations
  refine ⟨fun entry mem => orderly.ne_nil_of_mem mem, orderly.isEmpty_iff, fun entry mem => ?_,
    orderly.pairwise_kinds, fun kind => ?_, fun c => ⟨fun kind other => ?_, fun kind => ?_⟩,
    fun listener declared => ⟨exists_mem_register listener declared,
      orderly.ne_of_mem_unregister listener declared⟩,
    fun listener declared => unregister_of_absent⟩
  · -- A group is its own row, in which no identity stands twice.
    rw [← orderly.lookup_of_mem mem]
    exact orderly.distinct entry.1
  · rw [orderly.mem_kinds_iff, hasListeners_iff]
  · -- A change reaches the row of the kind it is filed under, and there its own listener alone.
    rw [lookup_change, Change.update_of_ne other]
  · rw [lookup_change, Change.filter_update]

/-- A listener that names a block after a class is filed under both kinds, and only the group of
the one that it names now is gone when it is taken off. -/
example :
    let listener : Handle := ⟨0, "fickle"⟩
    let both := operated
      [.change (.register listener (some .classDecl)), .change (.register listener (some .block))]
    (both.lookup .classDecl, both.lookup .block, both.size) = ([listener], [listener], 2) ∧
      (both.unregister listener none).1 = false ∧
      (both.unregister listener (some .block)).2.groups = [(.classDecl, [listener])] :=
  ⟨rfl, rfl, rfl⟩

end Registry

end SyntaxTour
