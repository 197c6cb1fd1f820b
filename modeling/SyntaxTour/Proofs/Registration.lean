import SyntaxTour.Registry

/-!
# Who is registered

The registry keeps its listeners in groups, which appear with their first listener and go with
the last one. Seen from one kind there are no groups: there is a row of listeners, none of them
twice, which grows at its end and shrinks anywhere. A history of registrations determines this
row, and the registry that was built by the history answers with it.

* `Registry.Change` is one call that may change a registry, and `Registry.built` is the
  registry after a history of such calls.
* `Registry.registered` is the row of a kind after a history. It knows nothing of groups.
* `Registry.lookup_built` says that the two agree, and `Registry.nodup_registered` that no
  listener stands in a row twice.
-/

namespace SyntaxTour

namespace Registry

/-- One call that may change a registry. -/
inductive Change where
  | register (listener : Handle) (declared : Option Kind)
  | unregister (listener : Handle) (declared : Option Kind)
  deriving DecidableEq, Repr

/-- The registry after a call. -/
def change (r : Registry) : Change → Registry
  | .register listener declared => (r.register listener declared).2
  | .unregister listener declared => (r.unregister listener declared).2

/-- The registry after a history of calls, oldest first. -/
def built (history : List Change) : Registry := history.foldl change empty

/-- **The row of listeners of one kind after a call**: a listener that is not in it comes in at
the end, and one that leaves makes no difference to the others. -/
def Change.update (kind : Kind) (row : List Handle) : Change → List Handle
  | .register listener declared =>
    if subscription declared = kind ∧ row.any (·.same listener) = false then row ++ [listener]
    else row
  | .unregister listener declared =>
    if subscription declared = kind then row.eraseP (·.same listener) else row

theorem Change.update_register (kind : Kind) (row : List Handle) (listener : Handle)
    (declared : Option Kind) :
    (register listener declared).update kind row =
      if subscription declared = kind ∧ row.any (·.same listener) = false then row ++ [listener]
      else row := rfl

theorem Change.update_unregister (kind : Kind) (row : List Handle) (listener : Handle)
    (declared : Option Kind) :
    (unregister listener declared).update kind row =
      if subscription declared = kind then row.eraseP (·.same listener) else row := rfl

/-- **Who is registered under a kind** after a history of calls, in the order of
registration. -/
def registered (history : List Change) (kind : Kind) : List Handle :=
  history.foldl (Change.update kind) []

theorem built_append (history further : List Change) :
    built (history ++ further) = further.foldl change (built history) :=
  List.foldl_append

/-! ### The registry and the rows -/

theorem lookup_put_self (r : Registry) (kind : Kind) (group : List Handle) :
    lookup ⟨r.groups.put kind group⟩ kind = group := by
  rw [lookup, Table.get?_put_self, Option.getD_some]

theorem lookup_put_of_ne (r : Registry) {kind kind' : Kind} (differ : kind' ≠ kind)
    (group : List Handle) : lookup ⟨r.groups.put kind group⟩ kind' = r.lookup kind' := by
  rw [lookup, Table.get?_put_of_ne differ, ← lookup]

theorem lookup_erase_self (r : Registry) (kind : Kind) :
    lookup ⟨r.groups.erase kind⟩ kind = [] := by
  rw [lookup, Table.get?_erase_self, Option.getD_none]

theorem lookup_erase_of_ne (r : Registry) {kind kind' : Kind} (differ : kind' ≠ kind) :
    lookup ⟨r.groups.erase kind⟩ kind' = r.lookup kind' := by
  rw [lookup, Table.get?_erase_of_ne differ, ← lookup]

theorem lookup_register (r : Registry) (listener : Handle) (declared : Option Kind)
    (kind : Kind) :
    (r.register listener declared).2.lookup kind =
      (Change.register listener declared).update kind (r.lookup kind) := by
  rw [Change.update_register]
  unfold register
  dsimp only
  cases there : (r.lookup (subscription declared)).any (·.same listener) with
  | true =>
    -- The registry stays as it is, and so does the row, whichever it is.
    rw [if_pos rfl, if_neg]
    rintro ⟨rfl, absent⟩
    exact Bool.noConfusion (there.symm.trans absent)
  | false =>
    rw [if_neg Bool.false_ne_true]
    -- Someone new is put at the end of the row of the subscription; the other rows stay.
    by_cases same : subscription declared = kind
    · subst same
      rw [if_pos ⟨rfl, there⟩]
      exact lookup_put_self r _ _
    · rw [if_neg fun both => same both.1]
      exact lookup_put_of_ne r (Ne.symm same) _

theorem lookup_unregister (r : Registry) (listener : Handle) (declared : Option Kind)
    (kind : Kind) :
    (r.unregister listener declared).2.lookup kind =
      (Change.unregister listener declared).update kind (r.lookup kind) := by
  rw [Change.update_unregister]
  unfold unregister
  dsimp only
  -- The group is found or not; then the row that is asked for is this one or another.
  split
  · by_cases same : subscription declared = kind
    · subst same
      rw [if_pos rfl]
      dsimp only
      split
      -- A group that becomes empty goes, and then nobody is found.
      · next none => rw [lookup_erase_self, List.isEmpty_iff.mp none]
      · exact lookup_put_self r _ _
    · rw [if_neg same]
      dsimp only
      split
      · exact lookup_erase_of_ne r (Ne.symm same)
      · exact lookup_put_of_ne r (Ne.symm same) _
  · next absent =>
    -- Nobody is taken out, for nobody in the row has the identity.
    split
    · next same =>
      subst same
      refine (List.eraseP_of_forall_not fun member inside found => absent ?_).symm
      exact List.any_eq_true.mpr ⟨member, inside, found⟩
    · rfl

/-- A call changes the row of a kind as it changes the registry. -/
theorem lookup_change (r : Registry) (c : Change) (kind : Kind) :
    (r.change c).lookup kind = c.update kind (r.lookup kind) := by
  cases c with
  | register listener declared => exact lookup_register r listener declared kind
  | unregister listener declared => exact lookup_unregister r listener declared kind

/-- **The registry answers with who is registered.** -/
theorem lookup_built (history : List Change) (kind : Kind) :
    (built history).lookup kind = registered history kind := by
  have further (r : Registry) : (history.foldl change r).lookup kind =
      history.foldl (Change.update kind) (r.lookup kind) := by
    induction history generalizing r with
    | nil => rfl
    | cons c history ih => rw [List.foldl_cons, List.foldl_cons, ih, lookup_change]
  exact further empty

/-! ### No listener twice -/

/-- Looking through a row for a listener is a matter of identity. -/
theorem any_same_iff {row : List Handle} {listener : Handle} :
    row.any (·.same listener) = true ↔ ∃ m ∈ row, m.id = listener.id := by
  rw [List.any_eq_true]
  exact exists_congr fun m => and_congr_right fun _ => beq_iff_eq

/-- A listener that is not in a row may be put behind it. -/
theorem nodup_concat {row : List Handle} (distinct : (row.map (·.id)).Nodup) {listener : Handle}
    (absent : row.any (·.same listener) = false) :
    ((row ++ [listener]).map (·.id)).Nodup := by
  rw [List.map_append, List.nodup_append]
  refine ⟨distinct, List.pairwise_singleton _ _, ?_⟩
  intro id member id' new same
  obtain ⟨m, inside, rfl⟩ := List.mem_map.mp member
  obtain rfl := List.mem_singleton.mp new
  have found : row.any (·.same listener) = true := any_same_iff.mpr ⟨m, inside, same⟩
  exact Bool.noConfusion (found.symm.trans absent)

/-- In a row a listener stands once, so that the first one to be found is all of it. -/
theorem eraseP_same {members : List Handle} (distinct : (members.map (·.id)).Nodup) :
    members.eraseP (·.same listener) = members.filter fun m => !m.same listener := by
  induction members with
  | nil => rfl
  | cons m members ih =>
    obtain ⟨new, distinct⟩ := List.nodup_cons.mp distinct
    rw [List.eraseP_cons]
    cases same : m.same listener with
    | true =>
      rw [cond_true, List.filter_cons_of_neg (by simp [same]), eq_comm, List.filter_eq_self]
      intro other mem
      have differ : other.id ≠ m.id := fun equal => new (List.mem_map.mpr ⟨other, mem, equal⟩)
      have same : m.id = listener.id := beq_iff_eq.mp same
      simpa [Handle.same, ← same] using differ
    | false => rw [cond_false, List.filter_cons_of_pos (by simp [same]), ih distinct]

/-- A call keeps the listeners of a row apart. -/
theorem Change.nodup_update (c : Change) (kind : Kind) {row : List Handle}
    (distinct : (row.map (·.id)).Nodup) : ((c.update kind row).map (·.id)).Nodup := by
  cases c with
  | register listener declared =>
    rw [update_register]
    split
    · next both => exact nodup_concat distinct both.2
    · exact distinct
  | unregister listener declared =>
    rw [update_unregister]
    split
    · exact distinct.sublist (List.eraseP_sublist.map _)
    · exact distinct

/-- **No listener is registered twice under one kind.** -/
theorem nodup_registered (history : List Change) (kind : Kind) :
    ((registered history kind).map (·.id)).Nodup := by
  have further (row : List Handle) (distinct : (row.map (·.id)).Nodup) :
      ((history.foldl (Change.update kind) row).map (·.id)).Nodup := by
    induction history generalizing row with
    | nil => exact distinct
    | cons c history ih => exact ih _ (c.nodup_update kind distinct)
  exact further [] List.nodup_nil

end Registry

end SyntaxTour
