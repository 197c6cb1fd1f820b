import SyntaxTour.Proofs.Completeness
import SyntaxTour.Tree.Edit

/-!
# Adding an entry to a container that is being patched

A listener that adds a member to a class, or a statement to a block, makes a copy of the
container with one more entry and asks for the copy in the place of the container. Others ask
for replacements inside of that container at the same time. The copy shares its entries with
the container, so what they ask for is found in the copy too, and it makes no difference
whether the entry is added before or after the contents are patched.

* `Insertion` says that an edit adds a given entry, anywhere in a container or at its end;
  `Insertion.eq_insertAt` brings both to one form.
* `Arena.Alike` says that two nodes are made of the same.
* `Patch.rebuild_including` says that a node with a request of its own is rebuilt as its
  replacement is without that request: while this is done, nothing else is pending.
* `Patch.version_insertion` is the law.
-/

namespace SyntaxTour

/-- **Edits that add an entry**: before the entry at some index, or at the end. -/
inductive Insertion (entry : Node) : (Node → Fresh (Option Node)) → Prop where
  | before (index : Nat) : Insertion entry fun t => t.insertAt index entry
  | last : Insertion entry fun t => t.append entry

/-- For containers with equally many entries every such edit is an insertion at some index. -/
theorem Insertion.eq_insertAt {entry : Node} {edit : Node → Fresh (Option Node)}
    (insertion : Insertion entry edit) (size : Nat) :
    ∃ index, ∀ t entries, t.entries? = some entries → entries.length = size →
      edit t = t.insertAt index entry := by
  cases insertion with
  | before index => exact ⟨index, fun _ _ _ _ => rfl⟩
  | last =>
    refine ⟨size, fun t entries container same => ?_⟩
    exact (Node.insertAt_eq_append container (Nat.le_of_eq same) entry).symm

/-- **Two nodes made of the same**, as an arena sees them: spans, kinds, names and modifiers are
equal, and so are the children, where those as old as the arena are the very same nodes. The
identities of the two nodes themselves do not matter. -/
def Arena.Alike (a : Arena) (m n : Node) : Prop :=
  m.span = n.span ∧ m.shape.map a.sketch = n.shape.map a.sketch

/-- A node may always stand in the place of one of its kind. -/
theorem checkReplacement_of_kind {old new : Node} (same : new.kind = old.kind) :
    checkReplacement old new = .ok () := by
  have category : new.category = old.category := congrArg Kind.category same
  unfold checkReplacement
  rw [category]
  cases old.category.family? with
  | none => rfl
  | some family => exact if_pos rfl

namespace Patch

/-! ### One more request -/

/-- A patch with one more request, somewhere among the others. -/
def including (before : List Request) (r : Request) (after : List Request) : Patch :=
  ⟨before ++ r :: after⟩

variable {before after : List Request} {r : Request}

/-- The request makes no difference to other nodes. -/
theorem get?_including_of_ne {key : Nat} (other : r.old.id ≠ key) :
    (including before r after).replacements.get? key =
      (Patch.mk (before ++ after)).replacements.get? key := by
  have silent : [r].find? (fun r => r.old.id == key) = none := by
    rw [List.find?_singleton, if_neg (by simpa using other)]
  rw [get?_replacements, get?_replacements, List.findRev?_eq_find?_reverse,
    List.findRev?_eq_find?_reverse, including, List.reverse_append, List.reverse_append,
    List.reverse_cons, List.find?_append, List.find?_append, List.find?_append, silent,
    Option.or_none]

/-- Among requests for other nodes, the request says what its own node is replaced by. -/
theorem get?_including_self (only : ¬ (Patch.mk (before ++ after)).Requests r.old.id) :
    (including before r after).replacements.get? r.old.id = some r.new := by
  have absent : after.reverse.find? (fun r' => r'.old.id == r.old.id) = none := by
    rw [List.find?_eq_none]
    intro r' mem same
    exact only ⟨r', List.mem_append_right before (List.mem_reverse.1 mem), by simpa using same⟩
  rw [get?_replacements, List.findRev?_eq_find?_reverse, including, List.reverse_append,
    List.reverse_cons, List.find?_append, List.find?_append, absent, List.find?_singleton,
    if_pos BEq.rfl]
  rfl

/-- While the replacement is being rebuilt, the same is pending as without the request. -/
theorem pending?_including (only : ¬ (Patch.mk (before ++ after)).Requests r.old.id) (n : Node) :
    pending? (including before r after).replacements [r.old.id] n =
      pending? (Patch.mk (before ++ after)).replacements [] n := by
  rw [pending?_cons]
  by_cases same : n.id = r.old.id
  · -- The node of the request is not followed again, and nobody else asked about it.
    rw [if_pos same, pending?_of_not_requests (same ▸ only)]
  · rw [if_neg same, pending?, pending?, get?_including_of_ne (Ne.symm same)]

/-- **The node of the request is rebuilt as its replacement is without the request.** -/
theorem rebuild_including (only : ¬ (Patch.mk (before ++ after)).Requests r.old.id) :
    rebuild (including before r after).replacements [] r.old =
      rebuild (Patch.mk (before ++ after)).replacements [] r.new := by
  have hit : pending? (including before r after).replacements [] r.old = some r.new :=
    pending?_eq_some_iff.2 ⟨List.not_mem_nil, get?_including_self only⟩
  rw [rebuild_of_pending hit]
  exact rebuild_congr (pending?_including only) r.new

/-! ### Entries of a version -/

/-- A node that is seen as a rebuilt node without a request has its span, and has children that
are seen as the rebuilt ones. -/
theorem span_shape_of_sketch {a : Arena} {p : Patch} {n version : Node}
    (seen : a.sketch version = rebuild p.replacements [] n) (free : ¬ p.Requests n.id) :
    version.span = n.span ∧
      version.shape.map a.sketch = n.shape.map (rebuild p.replacements []) := by
  rw [rebuild_of_settled (pending?_of_not_requests free [])] at seen
  have span : (a.sketch version).span = n.span := by rw [seen, Tree.span_node]
  have shape : (a.sketch version).shape = n.shape.map (rebuild p.replacements []) := by
    rw [seen, Tree.shape_node]
  rw [Arena.sketch, Tree.span_map] at span
  rw [Arena.sketch, Tree.shape_map] at shape
  exact ⟨span, shape⟩

/-- If the children of two nodes are seen as the same, then so are their entries. -/
theorem entries?_of_shape {f g : Node → Draft} {m n : Node} {entries : List Node}
    (same : m.shape.map f = n.shape.map g) (container : n.entries? = some entries) :
    ∃ entries', m.entries? = some entries' ∧ entries'.map f = entries.map g := by
  have both : m.entries?.map (List.map f) = n.entries?.map (List.map g) := by
    rw [← Tree.entries?_node_map none .empty f m, ← Tree.entries?_node_map none .empty g n, same]
  rw [container, Option.map_some, Option.map_eq_some_iff] at both
  exact both

/-- Entries with one more of them, before the entry at an index. -/
def withEntryAt (index : Nat) (entry : Node) (entries : List Node) : List Node :=
  entries.take index ++ entry :: entries.drop index

/-- **If two containers are seen as the same, and an entry too, then they are seen as the same
with the entry added** to both. -/
theorem map_shape_withEntryAt {f g : Node → Draft} {m n entry : Node} {index : Nat}
    {entries entries' : List Node} {shape shape' : Shape Node}
    (same : m.shape.map f = n.shape.map g) (images : entries'.map f = entries.map g)
    (untouched : f entry = g entry)
    (exchanged : n.shape.withEntries? (withEntryAt index entry entries) = some shape)
    (exchanged' : m.shape.withEntries? (withEntryAt index entry entries') = some shape') :
    shape'.map f = shape.map g := by
  -- Adding an entry goes together with replacing entries.
  have added : (withEntryAt index entry entries').map f =
      (withEntryAt index entry entries).map g := by
    rw [withEntryAt, withEntryAt, List.map_append, List.map_append, List.map_cons, List.map_cons,
      List.map_take, List.map_take, List.map_drop, List.map_drop, images, untouched]
  apply Option.some.inj
  calc some (shape'.map f)
      = (m.shape.map f).withEntries? ((withEntryAt index entry entries').map f) := by
        rw [Shape.withEntries?_map, exchanged', Option.map_some]
    _ = (n.shape.map g).withEntries? ((withEntryAt index entry entries).map g) := by
        rw [same, added]
    _ = some (shape.map g) := by
        rw [Shape.withEntries?_map, exchanged, Option.map_some]

/-! ### The law -/

/-- **Adding an entry and patching the contents can be done in either order.** Let a container
be edited so that an entry is added to it, and let requests be given none of which is about the
container, about the edited copy, or about the entry or anything below it. The request for the
copy in the place of the container is one that is accepted. Wherever it stands among the other
requests, the version of the container that they make together is made of the same as the
version that the others make when that is edited in the same way. -/
theorem version_insertion (a : Arena) (before after : List Request)
    (hp : a.HoldsPatch ⟨before ++ after⟩) (container entry : Node) (hc : a.Holds container)
    (kind : container.kind = .block ∨ container.kind = .classDecl)
    (other : ¬ (Patch.mk (before ++ after)).Requests container.id)
    (clear : ∀ m ∈ entry.preorder, ¬ (Patch.mk (before ++ after)).Requests m.id)
    (edit : Node → Fresh (Option Node)) (insertion : Insertion entry edit) (made : Nat) :
    ∃ copy, edit container made = (some copy, made + 1) ∧
      checkReplacement container copy = .ok () ∧
      (a.Holds copy → ¬ (Patch.mk (before ++ after)).Requests copy.id → ∀ next,
        ∃ edited,
          edit ((Patch.mk (before ++ after)).version a container) next =
            (some edited, next + 1) ∧
          a.Alike ((including before ⟨container, copy⟩ after).version a container) edited) := by
  -- The edits in question differ in the index only.
  obtain ⟨entries, hentries⟩ := Tree.exists_entries?_of_kind kind
  obtain ⟨index, same⟩ := insertion.eq_insertAt entries.length
  obtain ⟨shape, exchanged⟩ := Tree.exists_withEntries? hentries (withEntryAt index entry entries)
  obtain ⟨kept, children⟩ := Shape.kind_children_of_withEntries? exchanged
  -- The edited container is fresh, of the same kind and with the one entry more.
  let copy : Node := .node made container.span shape
  have run : edit container made = (some copy, made + 1) := by
    rw [same container entries hentries rfl]
    exact Node.run_edit hentries exchanged made
  refine ⟨copy, run, checkReplacement_of_kind kept, fun hcopy free next => ?_⟩
  -- The entries of the version are seen as the rebuilt entries, so they are equally many.
  obtain ⟨span, contents⟩ := span_shape_of_sketch (sketch_version hp hc) other
  obtain ⟨entries', hentries', images⟩ := entries?_of_shape contents hentries
  have size : entries'.length = entries.length := by
    rw [← List.length_map (f := a.sketch), images, List.length_map]
  obtain ⟨shape', exchanged'⟩ :=
    Tree.exists_withEntries? hentries' (withEntryAt index entry entries')
  have run' : edit ((Patch.mk (before ++ after)).version a container) next =
      (some (.node next ((Patch.mk (before ++ after)).version a container).span shape'),
        next + 1) := by
    rw [same _ entries' hentries' size]
    exact Node.run_edit hentries' exchanged' next
  refine ⟨_, run', ?_⟩
  -- Patching leaves the entry alone, wherever it stands.
  have hentry : a.Holds entry := by
    have mem : entry ∈ copy.children := by
      rw [Tree.children, Tree.shape_node, children]
      exact List.mem_append_right _ List.mem_cons_self
    exact a.holds_child hcopy mem
  have untouched : a.sketch entry = rebuild (Patch.mk (before ++ after)).replacements [] entry := by
    rw [a.sketch_of_holds hentry, rebuild_of_not_requests clear]
  -- The batch that also replaces the container by its edited copy is over the same arena.
  have hext : a.HoldsPatch (including before ⟨container, copy⟩ after) := by
    intro r mem
    obtain mem | rfl | mem := by simpa [including] using mem
    · exact hp r (List.mem_append_left after mem)
    · exact ⟨hc, hcopy⟩
    · exact hp r (List.mem_append_right before mem)
  -- Its version of the container is the rebuilt copy, for the copy itself is not replaced.
  obtain ⟨span', contents'⟩ :=
    span_shape_of_sketch ((sketch_version hext hc).trans (rebuild_including other)) free
  refine ⟨span'.trans span.symm, contents'.trans ?_⟩
  exact (map_shape_withEntryAt contents images untouched exchanged exchanged').symm

/-! ### A statement added to a block that is being patched -/

namespace Sharing

open Looping

/-- The statement that is added. -/
def entry : Node := .node 4 .empty (.returnStmt none)

/-- The block with the statement in front. -/
def copy : Node := .node 5 .empty (.block false [entry, Looping.first])

/-- The arena in which the two were made after the others. -/
def arena : Arena :=
  let a := Looping.arena.make .empty (.returnStmt none) Looping.arena.holds_no_children
  a.make .empty (.block false [entry, Looping.first]) (by
    intro c mem
    obtain rfl | rfl := by simpa [Shape.children] using mem
    · exact .inr rfl
    · exact .inl Looping.holds_arena.1)

theorem holds_arena : arena.HoldsPatch Looping.patch ∧ arena.Holds root ∧ arena.Holds copy := by
  refine ⟨fun r mem => ?_, .inl (.inl Looping.holds_arena.2.2.2), .inr rfl⟩
  exact ⟨.inl (.inl (Looping.holdsPatch_arena r mem).1),
    .inl (.inl (Looping.holdsPatch_arena r mem).2)⟩

theorem requests_patch {key : Nat} (requested : patch.Requests key) : key < 2 := by
  obtain ⟨r, mem, rfl⟩ := requested
  obtain rfl | rfl := by simpa [patch] using mem
  · exact Nat.two_pos
  · exact Nat.one_lt_two

theorem preorder_entry : entry.preorder = [entry] := by
  rw [Tree.preorder_eq]
  rfl

end Sharing

open Looping Sharing in
/-- The requests for the contents lead back to where they started, and the request for the block
stands between them. -/
theorem version_insertion_sharing :
    Sharing.arena.HoldsPatch ⟨[⟨first, second⟩] ++ [⟨second, around⟩]⟩ ∧
      Sharing.arena.Holds root ∧ root.kind = .block ∧ ¬ patch.Requests root.id ∧
      (∀ m ∈ entry.preorder, ¬ patch.Requests m.id) ∧
      Insertion entry (fun t => t.insertAt 0 entry) ∧
      Sharing.arena.Holds copy ∧ ¬ patch.Requests copy.id ∧
      root.insertAt (m := Fresh) 0 entry 5 = (some copy, 6) ∧
      ∃ edited,
        (patch.version Sharing.arena root).insertAt (m := Fresh) 0 entry 9 = (some edited, 10) ∧
        Sharing.arena.Alike
          ((including [⟨first, second⟩] ⟨root, copy⟩ [⟨second, around⟩]).version Sharing.arena root)
          edited := by
  obtain ⟨hp, hroot, hcopy⟩ := Sharing.holds_arena
  -- The requests are about the statements of the block, not about the block or its copy.
  have other : ¬ patch.Requests root.id := fun requested =>
    absurd (requests_patch requested) (by decide)
  have free : ¬ patch.Requests copy.id := fun requested =>
    absurd (requests_patch requested) (by decide)
  -- The entry has nothing below it, so itself is all there is to check.
  have clear : ∀ m ∈ entry.preorder, ¬ patch.Requests m.id := by
    intro m below requested
    rw [preorder_entry] at below
    obtain rfl := List.mem_singleton.1 below
    exact absurd (requests_patch requested) (by decide)
  obtain ⟨copy', run, -, law⟩ := version_insertion Sharing.arena [⟨first, second⟩]
    [⟨second, around⟩] hp root entry hroot (.inl rfl) other clear _ (.before 0) 5
  obtain rfl : copy = copy' := Option.some.inj (congrArg Prod.fst run)
  exact ⟨hp, hroot, rfl, other, clear, .before 0, hcopy, free, run, law hcopy free 9⟩

end Patch

end SyntaxTour
