import SyntaxTour.Proofs.Groups

/-!
# The registry as one row

The registry keeps a group of listeners for every kind that has any. As long as listeners do not
change their minds about the kind that they name, all of this says no more than one row would:
everyone who is registered, in the order of registration, nobody twice. What the registry answers
for a kind is then what is left of the row when the others are passed over, and how the groups
came and went on the way cannot be seen.

* `Lineup` is such a row, and `Registry.Call` one call on a registry. `Registry.after` and
  `Lineup.after` are what comes of a sequence of calls.
* `Registry.Shows` says that a tidy registry and a row agree about every kind. Each call keeps it
  (`Shows.register`, `Shows.unregister`), and so does a sequence of them (`shows_after`).
* `Registry.observes_lineup` says what can be observed of the registry, in terms of the row.
-/

namespace SyntaxTour

/-- **Listeners in the order in which they came**, nobody twice. -/
structure Lineup where
  members : List Handle
  distinct : (members.map (·.id)).Nodup

namespace Lineup

def empty : Lineup := ⟨[], List.nodup_nil⟩

/-- Whoever is not in the row comes in at its end. -/
def register (row : Lineup) (listener : Handle) : Lineup :=
  if absent : row.members.any (·.same listener) = false then
    ⟨row.members ++ [listener], Registry.nodup_concat row.distinct absent⟩
  else row

/-- Whoever leaves makes no difference to the others. -/
def unregister (row : Lineup) (listener : Handle) : Lineup where
  members := row.members.filter fun m => !m.same listener
  distinct := row.distinct.sublist (List.filter_sublist.map _)

end Lineup

/-- One call on a registry whose listeners always name the same kinds. -/
inductive Registry.Call where
  | register (listener : Handle)
  | unregister (listener : Handle)
  | clear
  deriving DecidableEq, Repr

/-- The row after a call. -/
def Lineup.act (row : Lineup) : Registry.Call → Lineup
  | .register listener => row.register listener
  | .unregister listener => row.unregister listener
  | .clear => empty

/-- The row after a sequence of calls, the first one first. -/
def Lineup.after (calls : List Registry.Call) : Lineup := calls.foldl act empty

namespace Registry

section

variable (declared : Nat → Option Kind)

/-- The registry after a call, where `declared` says what each listener names. -/
def act (r : Registry) : Call → Registry
  | .register listener => (r.register listener (declared listener.id)).2
  | .unregister listener => (r.unregister listener (declared listener.id)).2
  | .clear => r.clear

/-- The registry after a sequence of calls, the first one first. -/
def after (calls : List Call) : Registry := calls.foldl (act declared) empty

/-- The kind under which a listener is filed. -/
def filed (listener : Handle) : Kind := subscription (declared listener.id)

/-- **The portion of a kind**: those in the row who are filed under it, in their order. -/
def portion (row : Lineup) (kind : Kind) : List Handle :=
  row.members.filter fun m => filed declared m = kind

end

/-! ### Agreement of a registry and a row -/

section

variable {declared : Nat → Option Kind}

/-- **The registry shows the row**: it has the portion of the row under every kind. -/
structure Shows (declared : Nat → Option Kind) (r : Registry) (row : Lineup) : Prop where
  tidy : r.Tidy
  lookup (kind : Kind) : r.lookup kind = portion declared row kind

variable {r : Registry} {row : Lineup} {listener : Handle} {kind : Kind}

theorem shows_empty : Shows declared empty .empty where
  tidy := tidy_empty
  lookup _ := rfl

theorem mem_portion {m : Handle} :
    m ∈ portion declared row kind ↔ m ∈ row.members ∧ filed declared m = kind := by
  rw [portion, List.mem_filter, decide_eq_true_eq]

/-- Whoever is in the row at all is in the portion of the kind that it names. -/
theorem any_portion : (portion declared row (filed declared listener)).any (·.same listener) =
    row.members.any (·.same listener) := by
  rw [Bool.eq_iff_iff, List.any_eq_true, List.any_eq_true]
  refine exists_congr fun m => ?_
  rw [mem_portion, and_assoc]
  refine and_congr_right fun _ => and_iff_right_of_imp fun same => ?_
  -- The same listener names the same kind.
  rw [filed, filed, beq_iff_eq.mp same]

theorem portion_register (absent : row.members.any (·.same listener) = false) :
    portion declared (row.register listener) kind =
      if filed declared listener = kind then portion declared row kind ++ [listener]
      else portion declared row kind := by
  rw [Lineup.register, dif_pos absent, portion, List.filter_append, ← portion]
  split
  · next same => rw [List.filter_cons_of_pos (by simpa using same), List.filter_nil]
  · next other =>
    rw [List.filter_cons_of_neg (by simpa using other), List.filter_nil, List.append_nil]

/-- **A registry goes on showing the row when somebody is registered.** -/
theorem Shows.register (shows : Shows declared r row) (listener : Handle) :
    Shows declared (r.register listener (declared listener.id)).2 (row.register listener) where
  tidy := shows.tidy.register listener _
  lookup kind := by
    rw [lookup_register, Change.update_register, shows.lookup]
    cases there : row.members.any (·.same listener) with
    -- Already in the line: neither the registry nor the line changes.
    | true =>
      have stays : row.register listener = row := by
        rw [Lineup.register, dif_neg (by simp [there])]
      rw [stays, if_neg]
      rintro ⟨rfl, absent⟩
      rw [← filed, any_portion, there] at absent
      exact Bool.noConfusion absent
    | false =>
      -- New in the line: the last of its own portion, and in no other portion.
      rw [portion_register there]
      by_cases same : filed declared listener = kind
      · subst same
        rw [if_pos rfl, ← filed, if_pos ⟨rfl, any_portion.trans there⟩]
      · rw [if_neg same, if_neg fun both => same both.1]

/-- **A registry goes on showing the row when somebody is unregistered.** -/
theorem Shows.unregister (shows : Shows declared r row) (listener : Handle) :
    Shows declared (r.unregister listener (declared listener.id)).2 (row.unregister listener) where
  tidy := shows.tidy.unregister listener _
  lookup kind := by
    -- The portion is part of the line, so taking one out of it takes out all of its identity.
    have distinct : ((portion declared row kind).map (·.id)).Nodup :=
      row.distinct.sublist (List.filter_sublist.map _)
    have leaves : portion declared (row.unregister listener) kind =
        (portion declared row kind).filter fun m => !m.same listener := by
      rw [portion, portion, Lineup.unregister, List.filter_comm]
    rw [lookup_unregister, Change.update_unregister, shows.lookup, leaves]
    split
    · exact eraseP_same distinct
    · next other =>
      -- A listener that names another kind is not in this portion.
      refine (List.filter_eq_self.mpr fun m mem => ?_).symm
      rw [Bool.not_eq_true', ← Bool.not_eq_true]
      intro same
      have names : filed declared m = kind := (mem_portion.mp mem).2
      rw [filed, beq_iff_eq.mp same] at names
      exact other names

/-- **After any sequence of calls the registry shows the row.** -/
theorem shows_after (calls : List Call) :
    Shows declared (after declared calls) (Lineup.after calls) := by
  have further {r : Registry} {row : Lineup} (shows : Shows declared r row) :
      Shows declared (calls.foldl (act declared) r) (calls.foldl Lineup.act row) := by
    induction calls generalizing r row with
    | nil => exact shows
    | cons call calls ih =>
      refine ih ?_
      cases call with
      | register listener => exact shows.register listener
      | unregister listener => exact shows.unregister listener
      | clear => exact shows_empty
  exact further shows_empty

/-! ### What can be observed -/

/-- The members of a row, kind after kind: nobody is lost and nobody comes twice. -/
theorem perm_flatMap_portion {kinds : List Kind} (nodup : kinds.Nodup) (members : List Handle)
    (covered : ∀ m ∈ members, filed declared m ∈ kinds) :
    (kinds.flatMap fun kind => members.filter fun m => filed declared m = kind).Perm members := by
  induction kinds generalizing members with
  | nil =>
    -- Nobody is left, for whoever is left would have to be filed somewhere.
    obtain rfl : members = [] :=
      List.eq_nil_iff_forall_not_mem.mpr fun m mem => List.not_mem_nil (covered m mem)
    exact .refl _
  | cons kind kinds ih =>
    obtain ⟨new, nodup⟩ := List.nodup_cons.mp nodup
    -- The first kind takes its portion out, and the rest is covered by the other kinds.
    let others := members.filter fun m => !decide (filed declared m = kind)
    have rest : ∀ m ∈ others, filed declared m ∈ kinds := by
      intro m mem
      obtain ⟨mem, other⟩ := List.mem_filter.mp mem
      exact (List.mem_cons.mp (covered m mem)).resolve_left (by simpa using other)
    have passed : ∀ kind' ∈ kinds, (members.filter fun m => filed declared m = kind') =
        others.filter fun m => filed declared m = kind' := by
      intro kind' mem
      have differ : kind' ≠ kind := fun same => new (same ▸ mem)
      rw [List.filter_filter]
      refine List.filter_congr fun m _ => ?_
      by_cases here : filed declared m = kind' <;> simp [here, differ]
    rw [List.flatMap_cons, List.flatMap_congr passed]
    exact ((ih nodup others rest).append_left _).trans (List.filter_append_perm _ members)

namespace Shows

variable (shows : Shows declared r row)

include shows

/-- Who is looked for is found in the group of its kind, or nowhere. -/
theorem any_lookup : (r.lookup (subscription (declared listener.id))).any (·.same listener) =
    row.members.any (·.same listener) := by
  rw [shows.lookup]
  exact any_portion

theorem register_eq (listener : Handle) :
    (r.register listener (declared listener.id)).1 = !row.members.any (·.same listener) := by
  rw [← shows.any_lookup]
  unfold Registry.register
  dsimp only
  cases (r.lookup (subscription (declared listener.id))).any (·.same listener) <;> rfl

theorem unregister_eq (listener : Handle) :
    (r.unregister listener (declared listener.id)).1 = row.members.any (·.same listener) := by
  rw [← shows.any_lookup]
  unfold Registry.unregister
  dsimp only
  cases (r.lookup (subscription (declared listener.id))).any (·.same listener) <;> rfl

theorem mem_keys_iff :
    kind ∈ r.groups.keys ↔ ∃ m ∈ row.members, filed declared m = kind := by
  rw [shows.tidy.mem_keys_iff, shows.lookup, Ne, List.eq_nil_iff_forall_not_mem, not_forall_not]
  exact exists_congr fun m => mem_portion

theorem size_eq : r.size = row.members.length := by
  rw [size, shows.tidy.flatMap_groups, List.flatMap_congr fun kind _ => shows.lookup kind]
  refine (perm_flatMap_portion shows.tidy.nodup row.members fun m mem => ?_).length_eq
  exact shows.mem_keys_iff.mpr ⟨m, mem, rfl⟩

theorem isEmpty_iff : r.isEmpty = true ↔ row.members = [] := by
  rw [shows.tidy.isEmpty_iff, shows.size_eq, List.length_eq_zero_iff]

theorem mem_kinds_iff : kind ∈ r.kinds ↔ ∃ m ∈ row.members, filed declared m = kind := by
  rw [kinds, List.mem_mergeSort, shows.mem_keys_iff]

theorem pairwise_kinds : r.kinds.Pairwise fun a b => a.index < b.index :=
  shows.tidy.pairwise_kinds

end Shows

/-- **A registry is one row to those who look.** Let listeners always name the same kinds, and let
any sequence of calls have been made. To register a listener is answered with yes exactly if it
is not in the row, and to unregister one if it is. What is found for a kind is its portion of the
row. There are as many registrations as there are members, nobody is registered if there are
none, and the kinds that have a group are those that members of the row name, in order. -/
theorem observes_lineup (declared : Nat → Option Kind) (calls : List Call) :
    (∀ listener : Handle,
      ((after declared calls).register listener (declared listener.id)).1 = true ↔
        ∀ m ∈ (Lineup.after calls).members, m.id ≠ listener.id) ∧
    (∀ listener : Handle,
      ((after declared calls).unregister listener (declared listener.id)).1 = true ↔
        ∃ m ∈ (Lineup.after calls).members, m.id = listener.id) ∧
    (∀ kind, (after declared calls).lookup kind =
      (Lineup.after calls).members.filter fun m => subscription (declared m.id) = kind) ∧
    (∀ kind, (after declared calls).hasListeners kind = true ↔
      ((Lineup.after calls).members.filter fun m => subscription (declared m.id) = kind) ≠ []) ∧
    (after declared calls).size = (Lineup.after calls).members.length ∧
    ((after declared calls).isEmpty = true ↔ (Lineup.after calls).members = []) ∧
    (after declared calls).kinds.Pairwise (fun a b => a.index < b.index) ∧
    ∀ kind, kind ∈ (after declared calls).kinds ↔
      ∃ m ∈ (Lineup.after calls).members, subscription (declared m.id) = kind := by
  have shows : Shows declared (after declared calls) (Lineup.after calls) := shows_after calls
  refine ⟨fun listener => ?_, fun listener => ?_, shows.lookup, fun kind => ?_, shows.size_eq,
    shows.isEmpty_iff, shows.pairwise_kinds, fun kind => shows.mem_kinds_iff⟩
  · -- Accepted is whoever is not in the line yet, and taken out whoever is.
    have added := shows.register_eq listener
    rw [added, Bool.not_eq_true', ← Bool.not_eq_true, List.any_eq_true]
    simp [Handle.same]
  · rw [shows.unregister_eq listener, List.any_eq_true]
    simp [Handle.same]
  · -- A kind has listeners if its portion of the line is not empty.
    rw [hasListeners, shows.lookup, Bool.not_eq_true', ← Bool.not_eq_true, List.isEmpty_iff]
    exact Iff.rfl

end

end Registry

end SyntaxTour
