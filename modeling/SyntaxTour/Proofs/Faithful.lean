import SyntaxTour.Proofs.Form
import SyntaxTour.Proofs.Writing

/-!
# The text of a tree loses nothing but identity

What the form of a tree is to the tree, its text is to the form. From the text of a value the value
can be told if the doubles in it can, and the doubles in the form of a tree are those of its
literals.

* `Tree.mem_doubles_of_holds` says which doubles there are in a form.
* `Tree.toJson_faithful` is what is lost on the way from a tree to its form and its text, which is
  nothing but the identities.
-/

namespace SyntaxTour

/-! ### The doubles in a form -/

namespace Json

variable {bits : UInt64}

@[simp] theorem not_holds_null : ¬Holds bits .null := nofun

@[simp] theorem not_holds_bool (b : Bool) : ¬Holds bits (.bool b) := nofun

@[simp] theorem not_holds_int (value : Int) : ¬Holds bits (.int value) := nofun

@[simp] theorem not_holds_string (text : String) : ¬Holds bits (.string text) := nofun

@[simp] theorem holds_float {bits' : UInt64} : Holds bits (.float bits') ↔ bits = bits' :=
  ⟨fun | .float => rfl, fun same => same ▸ .float⟩

@[simp] theorem holds_array {items : List Json} :
    Holds bits (.array items) ↔ ∃ item ∈ items, Holds bits item :=
  ⟨fun | .item mem holds => ⟨_, mem, holds⟩, fun ⟨_, mem, holds⟩ => .item mem holds⟩

theorem mem_insertField {key : String} {value : Json} {entries : List (String × Json)}
    {entry : String × Json} (mem : entry ∈ insertField key value entries) :
    entry = (key, value) ∨ entry ∈ entries := by
  induction entries with
  | nil => exact .inl (List.mem_singleton.1 mem)
  | cons first entries ih =>
    obtain ⟨key', value'⟩ := first
    rw [insertField] at mem
    split at mem
    · exact List.mem_cons.1 mem
    split at mem
    · exact (List.mem_cons.1 mem).imp_right (List.mem_cons_of_mem _)
    · rcases List.mem_cons.1 mem with rfl | mem
      · exact .inr List.mem_cons_self
      · exact (ih mem).imp_right (List.mem_cons_of_mem _)

/-- What an object holds, one of its fields holds. -/
theorem exists_of_holds_object {entries : List (String × Json)}
    (holds : Holds bits (object entries)) : ∃ entry ∈ entries, Holds bits entry.2 := by
  -- Sorting brings in no fields.
  have given {entry : String × Json} {sorted : List (String × Json)}
      (mem : entry ∈ entries.foldl (fun sorted entry => insertField entry.1 entry.2 sorted)
        sorted) : entry ∈ sorted ∨ entry ∈ entries := by
    clear holds
    induction entries generalizing sorted with
    | nil => exact .inl mem
    | cons first entries ih =>
      rcases ih mem with mem | mem
      · exact (mem_insertField mem).elim (fun same => .inr (same ▸ List.mem_cons_self)) .inl
      · exact .inr (List.mem_cons_of_mem _ mem)
  unfold object at holds
  cases holds with
  | field mem holds =>
    -- The field that holds it was one of those that are given.
    rcases given mem with mem | mem
    · exact nomatch mem
    · exact ⟨_, mem, holds⟩

end Json

/-- The double of a literal is all that its form holds. -/
theorem Constant.double?_of_holds {c : Constant} {bits : UInt64}
    (holds : c.toJson.Holds bits) : c.double? = some bits := by
  obtain ⟨entry, mem, holds⟩ := Json.exists_of_holds_object holds
  -- The name of the type is a string, so it is the value that holds the double.
  have value : ∃ value, c.value? = some value ∧ value.Holds bits := by
    rcases List.mem_cons.1 mem with rfl | mem
    · exact absurd holds (Json.not_holds_string c.name)
    · obtain ⟨value, is, rfl⟩ := Option.map_eq_some_iff.1 (Option.mem_toList.1 mem)
      exact ⟨value, is, holds⟩
  -- A double is written as a number, or not at all.
  have double {bits' : UInt64} (holds : (Json.ofDouble bits').Holds bits) : bits = bits' := by
    unfold Json.ofDouble at holds
    split at holds
    · exact Json.holds_float.1 holds
    · exact absurd holds Json.not_holds_null
  obtain ⟨value, is, holds⟩ := value
  -- Of all the constants only the doubles hold one.
  cases c with
  | float bits' | double bits' =>
    obtain rfl := Option.some.inj is
    rw [double holds]
    rfl
  | null => exact nomatch is
  | _ =>
    obtain rfl := Option.some.inj is
    exact nomatch holds

namespace Shape

@[simp] theorem mem_optionalField {key key' : String} {value : Option Json} {json : Json} :
    (key', json) ∈ optionalField key value ↔ key' = key ∧ value = some json := by
  cases value <;> simp [optionalField, eq_comm]

/-- The fields of a node hold what its children hold, and its own double. -/
theorem of_holds_toFields {s : Shape Json} {bits : UInt64}
    (holds : ∃ entry ∈ s.toFields, entry.2.Holds bits) :
    (∃ c ∈ s.children, c.Holds bits) ∨ s.double? = some bits := by
  cases s with
  | constant value =>
    obtain ⟨entry, mem, holds⟩ := holds
    obtain rfl := List.mem_singleton.1 mem
    exact .inr (Constant.double?_of_holds holds)
  | breakStmt label | continueStmt label => cases label <;> simp [toFields] at holds
  | emptyStmt | ident name | primitiveType primitive => simp [toFields] at holds
  | _ =>
    refine .inl ?_
    simpa [toFields, or_and_right, exists_or, children, or_comm, or_left_comm, or_assoc]
      using holds

end Shape

/-- The form of a tree holds the doubles of the tree. -/
theorem Tree.mem_doubles_of_holds {ι : Type} {t : Tree ι} {bits : UInt64}
    (holds : t.toJson.Holds bits) : bits ∈ t.doubles := by
  induction t using induct with
  | node i p s ih =>
    rw [toJson_node, Shape.form] at holds
    obtain ⟨entry, mem, inEntry⟩ := Json.exists_of_holds_object holds
    rcases List.mem_cons.1 mem with rfl | mem
    · -- The ends of a span are integers.
      obtain ⟨entry, mem, inEntry⟩ := Json.exists_of_holds_object inEntry
      rcases List.mem_pair.1 mem with rfl | rfl <;> exact nomatch inEntry
    rcases List.mem_cons.1 mem with rfl | mem
    · exact nomatch inEntry
    -- What is left are the parts: the form of a child, or a double of the node itself.
    rcases Shape.of_holds_toFields ⟨entry, mem, inEntry⟩ with ⟨form, written, inChild⟩ | double
    · rw [Shape.children_map] at written
      obtain ⟨c, child, rfl⟩ := List.mem_map.1 written
      exact mem_doubles_of_mem_children child (ih c child inChild)
    · rw [Shape.double?_map] at double
      exact mem_doubles_of_double? double

namespace Tree

variable {ι κ : Type}

/-- **The form of a tree loses nothing but identity.** Two finite trees have the same form if and
only if they are the same up to identity: the same kinds, spans, names, labels, operators and
values, and children that are the same in every place, or missing there. It is so with the texts of
the forms too, if doubles that differ are written differently. -/
theorem toJson_faithful {t : Tree ι} {t' : Tree κ} (finite : t.Finite) (finite' : t'.Finite) :
    (t.toJson = t'.toJson ↔ t.strip = t'.strip) ∧
    ((∀ bits ∈ t.doubles, ∀ bits' ∈ t'.doubles,
        Json.writeDouble bits = Json.writeDouble bits' → bits = bits') →
      (t.toJson.compact = t'.toJson.compact ↔ t.strip = t'.strip)) := by
  have forms : t.toJson = t'.toJson ↔ t.strip = t'.strip := by
    refine ⟨strip_eq_of_toJson_eq finite finite', fun same => ?_⟩
    rw [← toJson_strip, same, toJson_strip]
  refine ⟨forms, fun apart => ?_⟩
  rw [← forms]
  refine ⟨fun same => ?_, congrArg Json.compact⟩
  exact Json.compact_inj (fun bits holds => finite bits (mem_doubles_of_holds holds))
    (fun bits holds => finite' bits (mem_doubles_of_holds holds))
    (fun bits bits' holds holds' =>
      apart bits (mem_doubles_of_holds holds) bits' (mem_doubles_of_holds holds')) same

/-! ### Two factors -/

namespace Factor

/-- The double `0.5`. -/
def half : UInt64 := 0x3fe0000000000000

/-- The double `0.25`. -/
def quarter : UInt64 := 0x3fd0000000000000

/-- The product of a name and a double. -/
def scaled (id : Nat) (factor : UInt64) : Node :=
  .node id .empty (.binary .multiply (.node (id + 1) .empty (.ident "x"))
    (.node (id + 2) .empty (.constant (.double factor))))

theorem doubles_scaled (id : Nat) (factor : UInt64) : (scaled id factor).doubles = [factor] := by
  have nodes : (scaled id factor).preorder = [scaled id factor, .node (id + 1) .empty (.ident "x"),
      .node (id + 2) .empty (.constant (.double factor))] := by
    simp [scaled, preorder_eq, children, Shape.children]
  rw [doubles, nodes]
  rfl

theorem finite_scaled {factor : UInt64} (id : Nat) (finite : (Binary.ofBits factor).isSome) :
    (scaled id factor).Finite := by
  intro bits mem
  rw [doubles_scaled, List.mem_singleton] at mem
  exact mem ▸ finite

theorem strip_scaled (id : Nat) (factor : UInt64) :
    (scaled id factor).strip = .node () .empty (.binary .multiply (.node () .empty (.ident "x"))
      (.node () .empty (.constant (.double factor)))) := by
  simp [scaled, strip, Shape.map]

end Factor

open Factor in
/-- Products that differ in their identities have one form. With another factor the form is another,
and so is the text, as the two doubles are written differently. -/
theorem toJson_faithful_scaled :
    (scaled 0 half).toJson = (scaled 3 half).toJson ∧
    (scaled 0 half).toJson ≠ (scaled 3 quarter).toJson ∧
    (scaled 0 half).toJson.compact ≠ (scaled 3 quarter).toJson.compact := by
  have halves : (scaled 0 half).Finite ∧ (scaled 3 half).Finite :=
    ⟨finite_scaled 0 (by decide), finite_scaled 3 (by decide)⟩
  have quarters : (scaled 3 quarter).Finite := finite_scaled 3 (by decide)
  have other : (scaled 0 half).strip ≠ (scaled 3 quarter).strip := by
    rw [strip_scaled, strip_scaled]
    simp [half, quarter]
  obtain ⟨forms, -⟩ := toJson_faithful halves.1 halves.2
  obtain ⟨forms', texts'⟩ := toJson_faithful halves.1 quarters
  refine ⟨forms.2 ?_, fun same => other (forms'.1 same), fun same => other ((texts' ?_).1 same)⟩
  · rw [strip_scaled, strip_scaled]
  · -- The two doubles are written differently.
    have written : Json.writeDouble half ≠ Json.writeDouble quarter := by decide +kernel
    intro bits mem bits' mem' same
    rw [doubles_scaled, List.mem_singleton] at mem mem'
    exact absurd (mem ▸ mem' ▸ same) written

end Tree

end SyntaxTour
