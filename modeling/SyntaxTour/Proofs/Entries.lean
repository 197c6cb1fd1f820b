import SyntaxTour.Tree.Edit

/-!
# Entries that come and go

An edit makes a copy of a container that has other entries and is the same otherwise. Where it
changes them is found in two ways: an entry is added at an index, and it is replaced wherever it
stands, by its identity. An entry that was not there before is found again where it was added,
so that to add it and to replace it is to put the replacement there at once.

* `Node.Refilled` says that a node is a copy of a container with given entries, and
  `Node.exists_edit` that every edit of a container makes one.
* `Node.findIdx?_of_first` says that of several identical entries the first is found;
  `Node.exists_replaceEntry` is what becomes of it, and `Node.replaceEntry_eq_none_iff` says when
  there is none.
* `Node.edit_one_place` is the law that takes these together.
-/

namespace SyntaxTour

namespace Node

/-- **A container filled with other entries**: a copy of it has its kind and its span, and a block
keeps its modifier and a class its name. -/
inductive Refilled : Node → List Node → Node → Prop where
  | block {i : Nat} {span : Span} {isStatic : Bool} {old : List Node} (entries : List Node)
    (id : Nat) :
    Refilled (.node i span (.block isStatic old)) entries
      (.node id span (.block isStatic entries))
  | classDecl {i : Nat} {span : Span} {name : String} {old : List Node} (entries : List Node)
    (id : Nat) :
    Refilled (.node i span (.classDecl name old)) entries
      (.node id span (.classDecl name entries))

variable {t copy copy' : Node} {entries entries' : List Node}

theorem Refilled.entries?_eq (refilled : Refilled t entries copy) :
    copy.entries? = some entries := by
  cases refilled <;> rfl

/-- What the entries of a container were before does not show in a copy with other entries. -/
theorem Refilled.trans (first : Refilled t entries copy) (second : Refilled copy entries' copy') :
    Refilled t entries' copy' := by
  cases first <;> cases second <;> constructor

/-! ### Edits -/

/-- **Every edit of a container makes a copy** that is filled with the edited entries. -/
theorem exists_edit (container : t.entries? = some entries) (f : List Node → List Node)
    (next : Nat) :
    ∃ copy, (t.edit f : Fresh (Option Node)) next = (some copy, next + 1) ∧
      Refilled t (f entries) copy := by
  obtain ⟨i, span, shape⟩ := t
  cases shape with
  | block isStatic old =>
    obtain rfl := Option.some.inj container
    exact ⟨_, run_edit rfl rfl next, .block _ next⟩
  | classDecl name old =>
    obtain rfl := Option.some.inj container
    exact ⟨_, run_edit rfl rfl next, .classDecl _ next⟩
  | _ => cases container

/-- An entry is added before the one at the index, or at the end if there are not that many. -/
theorem exists_insertAt (container : t.entries? = some entries) (index : Nat) (entry : Node)
    (next : Nat) :
    ∃ copy, (t.insertAt index entry : Fresh (Option Node)) next = (some copy, next + 1) ∧
      Refilled t (entries.take index ++ entry :: entries.drop index) copy :=
  exists_edit container _ next

theorem exists_append (container : t.entries? = some entries) (entry : Node) (next : Nat) :
    ∃ copy, (t.append entry : Fresh (Option Node)) next = (some copy, next + 1) ∧
      Refilled t (entries ++ [entry]) copy :=
  exists_edit container _ next

/-! ### Replacing an entry -/

variable {old : Node}

/-- If there is an identical entry, there is a first one. -/
theorem exists_first (found : ∃ e ∈ entries, e.id = old.id) :
    ∃ before e after, entries = before ++ e :: after ∧ e.id = old.id ∧
      ∀ e' ∈ before, e'.id ≠ old.id := by
  have found : (entries.find? fun e => e.id == old.id).isSome = true := by
    rw [List.find?_isSome]
    simpa using found
  obtain ⟨e, first⟩ := Option.isSome_iff_exists.1 found
  obtain ⟨same, before, after, split, others⟩ := List.find?_eq_some_iff_append.1 first
  exact ⟨before, e, after, split, by simpa using same, fun e' mem => by simpa using others e' mem⟩

/-- The first of several identical entries is the one that is found. -/
theorem findIdx?_of_first {before after : List Node} {e : Node} (same : e.id = old.id)
    (others : ∀ e' ∈ before, e'.id ≠ old.id) :
    (before ++ e :: after).findIdx? (fun entry => entry.id == old.id) = some before.length := by
  have absent : before.findIdx? (fun entry => entry.id == old.id) = none := by
    rw [List.findIdx?_eq_none_iff]
    intro e' mem
    simpa using others e' mem
  rw [List.findIdx?_append, absent, Option.none_or, List.findIdx?_cons, if_pos (by simpa using same),
    Option.map_some, Nat.zero_add]

/-- **The first identical entry gives way to the replacement**, and all other entries stay. -/
theorem exists_replaceEntry {before after : List Node} {e : Node}
    (container : t.entries? = some (before ++ e :: after)) (same : e.id = old.id)
    (others : ∀ e' ∈ before, e'.id ≠ old.id) (replacement : List Node) (next : Nat) :
    ∃ copy, (t.replaceEntry old replacement : Fresh (Option Node)) next = (some copy, next + 1) ∧
      Refilled t (before ++ replacement ++ after) copy := by
  obtain ⟨copy, run, refilled⟩ := exists_edit container (fun entries =>
    entries.take before.length ++ (replacement ++ entries.drop (before.length + 1))) next
  refine ⟨copy, ?_, ?_⟩
  · unfold replaceEntry
    rw [container, Option.bind_some, findIdx?_of_first same others]
    exact run
  · rw [List.take_left, List.drop_append, List.drop_of_length_le (Nat.le_succ _),
      Nat.add_sub_cancel_left, List.nil_append, List.drop_one, List.tail_cons] at refilled
    rw [List.append_assoc]
    exact refilled

/-- Without an identical entry nothing is made, and no identity is given. -/
theorem run_replaceEntry_of_absent (container : t.entries? = some entries)
    (absent : ∀ e ∈ entries, e.id ≠ old.id) (replacement : List Node) (next : Nat) :
    (t.replaceEntry old replacement : Fresh (Option Node)) next = (none, next) := by
  have nowhere : entries.findIdx? (fun entry => entry.id == old.id) = none := by
    rw [List.findIdx?_eq_none_iff]
    intro e mem
    simpa using absent e mem
  unfold replaceEntry
  rw [container, Option.bind_some, nowhere]
  rfl

theorem replaceEntry_eq_none_iff (container : t.entries? = some entries) (old : Node)
    (replacement : List Node) (next : Nat) :
    ((t.replaceEntry old replacement : Fresh (Option Node)) next).1 = none ↔
      ∀ e ∈ entries, e.id ≠ old.id := by
  constructor
  · intro none e mem same
    obtain ⟨before, e, after, rfl, same, others⟩ := exists_first ⟨e, mem, same⟩
    obtain ⟨copy, run, -⟩ := exists_replaceEntry container same others replacement next
    rw [run] at none
    cases none
  · intro absent
    rw [run_replaceEntry_of_absent container absent]

/-! ### The law -/

/-- **Edits of a container touch one place and undo each other.** Let a container be given. If an
entry that it did not have is added at any index, and then replaced by any nodes, the result is
the container with these nodes at the index, or at the end if there are not that many entries; it
has the old entries if there are no such nodes. Replacing makes nothing exactly if there is no
identical entry, and otherwise replaces the first of them and leaves all others where they are.
To add an entry at the end is to add it at any index behind the entries. -/
theorem edit_one_place (t : Node) (kind : t.kind = .block ∨ t.kind = .classDecl) :
    ∃ entries, t.entries? = some entries ∧
      (∀ (index : Nat) (entry : Node) (replacement : List Node) (next next' : Nat),
        (∀ e ∈ entries, e.id ≠ entry.id) →
        ∃ added result,
          (t.insertAt index entry : Fresh (Option Node)) next = (some added, next + 1) ∧
          (added.replaceEntry entry replacement : Fresh (Option Node)) next' =
            (some result, next' + 1) ∧
          Refilled t (entries.take (min index entries.length) ++ replacement ++
            entries.drop (min index entries.length)) result ∧
          (replacement = [] → result.entries? = some entries)) ∧
      (∀ (old : Node) (replacement : List Node) (next : Nat),
        ((t.replaceEntry old replacement : Fresh (Option Node)) next).1 = none ↔
          ∀ e ∈ entries, e.id ≠ old.id) ∧
      (∀ (old : Node) (replacement : List Node) (next : Nat),
        (∃ e ∈ entries, e.id = old.id) →
        ∃ before e after result, entries = before ++ e :: after ∧ e.id = old.id ∧
          (∀ e' ∈ before, e'.id ≠ old.id) ∧
          (t.replaceEntry old replacement : Fresh (Option Node)) next = (some result, next + 1) ∧
          Refilled t (before ++ replacement ++ after) result) ∧
      ∀ (entry : Node) (index next next' : Nat), entries.length ≤ index →
        ∃ appended added,
          (t.append entry : Fresh (Option Node)) next = (some appended, next + 1) ∧
          (t.insertAt index entry : Fresh (Option Node)) next' = (some added, next' + 1) ∧
          appended.entries? = some (entries ++ [entry]) ∧ added.entries? = appended.entries? := by
  obtain ⟨entries, container⟩ := Tree.exists_entries?_of_kind kind
  refine ⟨entries, container, fun index entry replacement next next' absent => ?_,
    replaceEntry_eq_none_iff container, fun old replacement next found => ?_,
    fun entry index next next' behind => ?_⟩
  · obtain ⟨added, run, filled⟩ := exists_insertAt container index entry next
    -- The entry is found again where it was added, since none of those before it is identical.
    have others : ∀ e ∈ entries.take index, e.id ≠ entry.id :=
      fun e mem => absent e (List.mem_of_mem_take mem)
    obtain ⟨result, run', filled'⟩ :=
      exists_replaceEntry filled.entries?_eq rfl others replacement next'
    have refilled := filled.trans filled'
    refine ⟨added, result, run, run', ?_, fun none => ?_⟩
    · -- An index behind all entries is that of the end.
      rcases Nat.le_total index entries.length with inside | behind
      · rw [Nat.min_eq_left inside]
        exact refilled
      · rw [List.take_of_length_le behind, List.drop_of_length_le behind] at refilled
        rw [Nat.min_eq_right behind, List.take_length, List.drop_length]
        exact refilled
    · -- With nothing in its place the entry leaves the container as it was.
      rw [refilled.entries?_eq, none, List.append_nil, List.take_append_drop]
  · -- The first identical entry is where the list is split.
    obtain ⟨before, e, after, rfl, same, others⟩ := exists_first found
    obtain ⟨result, run, refilled⟩ := exists_replaceEntry container same others replacement next
    exact ⟨before, e, after, result, rfl, same, others, run, refilled⟩
  · -- Both ways make a copy each, with the same entries.
    obtain ⟨appended, run, filled⟩ := exists_append container entry next
    obtain ⟨added, run', filled'⟩ := exists_append container entry next'
    refine ⟨appended, added, run, ?_, filled.entries?_eq, ?_⟩
    · rw [insertAt_eq_append container behind]
      exact run'
    · rw [filled.entries?_eq, filled'.entries?_eq]

/-! ### An entry that stands twice -/

namespace Repeated

def twice : Node := .node 0 .empty .emptyStmt

def other : Node := .node 1 .empty (.breakStmt none)

def entry : Node := .node 2 .empty (.returnStmt none)

def block : Node := .node 3 .empty (.block true [twice, other, twice])

end Repeated

open Repeated in
/-- The entry gives way to two nodes, one of which is itself; and of the statement that stands
twice the first is replaced, by three that contain it again. -/
theorem edit_one_place_repeated :
    block.kind = .block ∧
      (∀ e ∈ [twice, other, twice], e.id ≠ entry.id) ∧
      (∃ added result,
        (block.insertAt 1 entry : Fresh (Option Node)) 4 = (some added, 5) ∧
        (added.replaceEntry entry [other, entry] : Fresh (Option Node)) 5 = (some result, 6) ∧
        Refilled block [twice, other, entry, other, twice] result) ∧
      (∃ added result,
        (block.insertAt 9 entry : Fresh (Option Node)) 4 = (some added, 5) ∧
        (added.replaceEntry entry [] : Fresh (Option Node)) 7 = (some result, 8) ∧
        result.entries? = some [twice, other, twice]) ∧
      ((block.replaceEntry entry [] : Fresh (Option Node)) 4).1 = none ∧
      (block.replaceEntry twice [entry, twice, twice] : Fresh (Option Node)) 4 =
        (some (.node 4 .empty (.block true [entry, twice, twice, other, twice])), 5) ∧
      ∃ appended added,
        (block.append entry : Fresh (Option Node)) 4 = (some appended, 5) ∧
        (block.insertAt 9 entry : Fresh (Option Node)) 6 = (some added, 7) ∧
        added.entries? = appended.entries? := by
  obtain ⟨entries, container, undone, nowhere, -, behind⟩ := edit_one_place block (.inl rfl)
  obtain rfl : [twice, other, twice] = entries := Option.some.inj container
  -- No entry is the new one, and the index is behind all three.
  have absent : ∀ e ∈ [twice, other, twice], e.id ≠ entry.id := by decide
  obtain ⟨added, result, run, run', refilled, -⟩ := undone 1 entry [other, entry] 4 5 absent
  obtain ⟨added', result', run₁, run₁', -, same⟩ := undone 9 entry [] 4 7 absent
  obtain ⟨appended, added'', run₂, run₂', -, same'⟩ := behind entry 9 4 6 (by decide)
  exact ⟨rfl, absent, ⟨added, result, run, run', refilled⟩,
    ⟨added', result', run₁, run₁', same rfl⟩, (nowhere entry [] 4).2 absent, rfl,
    appended, added'', run₂, run₂', same'⟩

end Node

end SyntaxTour
