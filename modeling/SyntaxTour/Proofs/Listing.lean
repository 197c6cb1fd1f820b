import Mathlib.Data.List.Sort
import Mathlib.Data.String.Basic
import SyntaxTour.Json.Reader
import SyntaxTour.Proofs.Form

/-!
# What a text lists and what is read

An object in a text lists its fields in some order, and may list a key more than once. Of this
nothing is left in the value that is read: its fields stand in the order of their keys, and every
key has the value that was listed last for it. So two texts that give the same values to the same
keys are the same to whoever reads them.

* `Json.Sorted` says that fields stand in the order of their keys; `Json.exists_sorted_object` finds
  them so in every object that was made of fields.
* `Json.object_congr` says that an object depends on the last value of each key, and on nothing
  else.
* `Json.listed?` is what a text lists, and `Json.object_of_read?` that this is what is read.
-/

namespace SyntaxTour

namespace Json

variable {key : String} {value : Json} {entries entries' : List (String × Json)}

/-! ### Sorted fields -/

/-- **Fields in the order of their keys**, none of them twice. -/
def Sorted (entries : List (String × Json)) : Prop :=
  entries.Pairwise fun a b => a.1 < b.1

/-- A field that is there after adding one is that one or was there before. -/
theorem eq_or_mem_of_mem_insertField {entry : String × Json}
    (mem : entry ∈ insertField key value entries) : entry = (key, value) ∨ entry ∈ entries := by
  induction entries with
  | nil => exact .inl (List.mem_singleton.mp mem)
  | cons first rest ih =>
    rw [insertField] at mem
    split at mem
    · exact (List.mem_cons.mp mem)
    split at mem
    · exact (List.mem_cons.mp mem).imp_right (List.mem_cons_of_mem first)
    · rcases List.mem_cons.mp mem with rfl | mem
      · exact .inr List.mem_cons_self
      · exact (ih mem).imp_right (List.mem_cons_of_mem first)

theorem Sorted.insertField (sorted : Sorted entries) (key : String) (value : Json) :
    Sorted (insertField key value entries) := by
  -- By the entries before the place of the key; the three cases are those of the insertion.
  induction entries with
  | nil => exact List.pairwise_singleton _ _
  | cons first rest ih =>
    obtain ⟨k, v⟩ := first
    obtain ⟨above, others⟩ := List.pairwise_cons.mp sorted
    rw [Json.insertField]
    split
    · next less =>
      refine List.pairwise_cons.mpr ⟨fun entry mem => ?_, sorted⟩
      rcases List.mem_cons.mp mem with rfl | mem
      · exact less
      · exact less.trans (above entry mem)
    split
    · next same =>
      subst same
      exact List.pairwise_cons.mpr ⟨above, others⟩
    · -- The key belongs further behind, so the first entry stays in front of it.
      next notLess differ =>
      have more : k < key := lt_of_le_of_ne (not_lt.mp notLess) (Ne.symm differ)
      refine List.pairwise_cons.mpr ⟨fun entry mem => ?_, ih others⟩
      rcases eq_or_mem_of_mem_insertField mem with rfl | mem
      · exact more
      · exact above entry mem

/-- The fields of an object that was made of fields are sorted. -/
theorem exists_sorted_object (entries : List (String × Json)) :
    ∃ sorted, object entries = .fields sorted ∧ Sorted sorted := by
  have further {sorted : List (String × Json)} (h : Sorted sorted) :
      Sorted (entries.foldl (fun sorted entry => insertField entry.1 entry.2 sorted) sorted) := by
    induction entries generalizing sorted with
    | nil => exact h
    | cons entry entries ih => exact ih (h.insertField entry.1 entry.2)
  exact ⟨_, rfl, further List.Pairwise.nil⟩

/-- The value of a key in fields, of which the first may be that of the key. -/
theorem get?_fields_cons (k : String) (v : Json) :
    (fields ((k, v) :: entries)).get? key =
      if k = key then some v else (fields entries).get? key := by
  by_cases same : k = key <;> simp [get?, same]

/-- What sorted fields give for a key is the field of that key. -/
theorem Sorted.get?_eq_some_iff (sorted : Sorted entries) :
    (fields entries).get? key = some value ↔ (key, value) ∈ entries := by
  induction entries with
  | nil => exact iff_of_false nofun List.not_mem_nil
  | cons first rest ih =>
    obtain ⟨k, v⟩ := first
    obtain ⟨above, others⟩ := List.pairwise_cons.mp sorted
    rw [get?_fields_cons, List.mem_cons]
    by_cases same : k = key
    · subst same
      have new : (k, value) ∉ rest := fun mem => lt_irrefl k (above _ mem)
      simp [new, eq_comm]
    · simp [same, ih others, Ne.symm same]

/-- In sorted fields the last value of a key is its only one. -/
theorem Sorted.latest_eq (sorted : Sorted entries) (found : Option Json) :
    latest key found entries = ((fields entries).get? key).or found := by
  induction entries generalizing found with
  | nil => rfl
  | cons first rest ih =>
    obtain ⟨k, v⟩ := first
    obtain ⟨above, others⟩ := List.pairwise_cons.mp sorted
    rw [latest_cons, ih others, get?_fields_cons]
    by_cases same : k = key
    · subst same
      have once : (fields rest).get? k = none := by
        refine Option.eq_none_iff_forall_ne_some.mpr fun value again => ?_
        exact lt_irrefl k (above _ ((Sorted.get?_eq_some_iff others).mp again))
      rw [once, if_pos rfl, if_pos rfl]
      rfl
    · rw [if_neg same, if_neg same]

/-- Sorted fields that give the same for every key are the same. -/
theorem Sorted.ext (sorted : Sorted entries) (sorted' : Sorted entries')
    (same : ∀ key, (fields entries).get? key = (fields entries').get? key) :
    entries = entries' := by
  have distinct {l : List (String × Json)} (h : Sorted l) : l.Nodup :=
    h.imp fun less same => (lt_irrefl _ (same ▸ less)).elim
  have mem_iff (entry : String × Json) : entry ∈ entries ↔ entry ∈ entries' := by
    obtain ⟨key, value⟩ := entry
    rw [← sorted.get?_eq_some_iff, ← sorted'.get?_eq_some_iff, same]
  have perm : entries.Perm entries' :=
    (List.perm_ext_iff_of_nodup (distinct sorted) (distinct sorted')).mpr mem_iff
  exact perm.eq_of_pairwise (fun a b _ _ less more => (lt_asymm less more).elim) sorted sorted'

/-- **An object depends on the last value of each key and on nothing else.** -/
theorem object_congr (same : ∀ key, latest key none entries = latest key none entries') :
    object entries = object entries' := by
  obtain ⟨l, is, sorted⟩ := exists_sorted_object entries
  obtain ⟨l', is', sorted'⟩ := exists_sorted_object entries'
  rw [is, is']
  refine congrArg fields (sorted.ext sorted' fun key => ?_)
  rw [← is, ← is', get?_object, get?_object, same]

/-- Fields with different keys may be put in any order. -/
theorem latest_eq_of_perm (perm : entries.Perm entries') (distinct : (entries.map (·.1)).Nodup)
    (found : Option Json) : latest key found entries = latest key found entries' := by
  induction perm generalizing found with
  | nil => rfl
  | cons entry perm ih => exact ih (List.nodup_cons.mp distinct).2 _
  | swap entry entry' rest =>
    obtain ⟨k, v⟩ := entry
    obtain ⟨k', v'⟩ := entry'
    obtain ⟨differ, -⟩ : k' ≠ k ∧ _ := by simpa using (List.nodup_cons.mp distinct).1
    simp only [latest_cons]
    by_cases same : k = key
    · subst same
      simp [differ]
    · simp [same]
  | trans perm _ ih ih' => exact (ih distinct found).trans (ih' ((perm.map _).nodup distinct) found)

/-! ### Values that are no objects -/

/-- A value that has fields. -/
def IsObject (v : Json) : Prop := ∃ entries, v = .fields entries

/-- **Reading something else than an object**, if anything. -/
def Plain (outcome : Option (Json × List Char)) : Prop :=
  ∀ v rest, outcome = some (v, rest) → ¬v.IsObject

section

variable {v : Json} {rest : List Char}

theorem plain_none : Plain none := nofun

theorem plain_some (h : ∀ entries, v ≠ .fields entries) : Plain (some (v, rest)) := by
  intro v' rest' same
  obtain ⟨rfl, rfl⟩ := Prod.mk.inj (Option.some.inj same)
  exact fun ⟨entries, is⟩ => h entries is

theorem plain_map {α : Type} {f : α → Json × List Char} {outcome : Option α}
    (h : ∀ a entries, (f a).1 ≠ .fields entries) : Plain (outcome.map f) := by
  cases outcome with
  | none => exact plain_none
  | some a => exact plain_some (h a)

variable (negative exact : Bool) (d : Digits) (cs : List Char) (fuel : Nat)

theorem not_isObject_of_double? (h : double? negative d = some v) : ¬v.IsObject := by
  obtain ⟨x, -, h⟩ := Option.bind_eq_some_iff.mp h
  obtain rfl := Option.some.inj h
  exact fun ⟨_, is⟩ => nomatch is

theorem plain_double? : Plain ((double? negative d).map fun value => (value, rest)) := by
  intro v' rest' h
  obtain ⟨value, number, h⟩ := Option.map_eq_some_iff.mp h
  obtain ⟨rfl, -⟩ := Prod.mk.inj h
  exact not_isObject_of_double? negative d number

theorem plain_exponentPart? : Plain (exponentPart? negative d cs) := by
  unfold exponentPart?
  split
  dsimp only
  split
  · exact plain_none
  split
  · intro v rest h
    obtain ⟨value, number, h⟩ := Option.bind_eq_some_iff.mp h
    obtain ⟨rfl, -⟩ := Prod.mk.inj (Option.some.inj h)
    exact not_isObject_of_double? negative _ number
  split
  · exact plain_none
  · exact plain_some nofun

theorem plain_numberRest? : Plain (numberRest? negative exact d cs) := by
  unfold numberRest?
  -- Written out down to the three ways a number ends: an exponent, a double or an integer.
  split
  · dsimp only
    split
    · exact plain_none
    split
    · exact plain_exponentPart? negative _ _
    · exact plain_exponentPart? negative _ _
    · exact plain_double? negative _
  · exact plain_exponentPart? negative d _
  · exact plain_exponentPart? negative d _
  -- An integer that fits no integer type is a double after all.
  split
  · exact plain_double? negative d
  split
  · exact plain_some nofun
  split
  · exact plain_double? negative d
  · exact plain_some nofun

theorem plain_unsigned? : Plain (unsigned? negative cs) := by
  unfold unsigned?
  split
  split
  · exact plain_none
  · exact plain_numberRest? negative true _ _
  · exact plain_none
  · exact plain_numberRest? negative _ _ _

/-- Strings, numbers and words are no objects. -/
theorem plain_scalar? : Plain (scalar? fuel cs) := by
  unfold scalar?
  split
  · exact plain_map fun _ _ is => nomatch is
  · exact plain_map fun _ _ is => nomatch is
  · exact plain_map fun _ _ is => nomatch is
  · exact plain_map fun _ _ is => nomatch is
  · exact plain_unsigned? true _
  · exact plain_unsigned? false _

/-- What stands in brackets is no object. -/
theorem plain_items? (depth : Nat) (seen : List Json) : Plain (items? fuel depth seen cs) := by
  induction fuel generalizing seen cs with
  | zero => exact plain_none
  | succ fuel ih =>
    unfold items?
    split
    · exact plain_none
    split
    · exact ih _ _
    · exact plain_some nofun
    · exact plain_none

end

/-! ### What is read -/

/-- **What a text lists** after the brace with which it begins: the keys and their values, in the
order of the text. -/
def listed? (depth : Nat) (text : String) : Option (List (String × Json)) :=
  match skipBlanks text.toList with
  | '\x7b' :: rest =>
    match skipBlanks rest with
    | '\x7d' :: _ => some []
    | rest => (fields? (2 * text.toList.length + 1) (depth - 1) [] rest).map (·.1)
  | _ => none

section

variable {depth : Nat} {text : String} {opened closed : List Char}

theorem listed?_of_not_opened (plain : ∀ opened, skipBlanks text.toList ≠ '\x7b' :: opened) :
    listed? depth text = none := by
  unfold listed?
  split
  · next opens => exact absurd opens (plain _)
  · rfl

theorem listed?_of_closed (opens : skipBlanks text.toList = '\x7b' :: opened)
    (closes : skipBlanks opened = '\x7d' :: closed) : listed? depth text = some [] := by
  simp only [listed?, opens, closes]

theorem listed?_of_not_closed (opens : skipBlanks text.toList = '\x7b' :: opened)
    (goesOn : ∀ closed, skipBlanks opened ≠ '\x7d' :: closed) :
    listed? depth text =
      (fields? (2 * text.toList.length + 1) (depth - 1) [] (skipBlanks opened)).map (·.1) := by
  simp only [listed?, opens]

end

/-- **What is read is what is listed.** If a text lists fields, the value that is read is the object
of these fields; if it does not, the value is no object. -/
theorem object_of_read? {depth : Nat} {text : String} {v : Json}
    (read : read? depth text = some v) :
    (∃ entries, listed? depth text = some entries ∧ v = .object entries) ∨
      listed? depth text = none ∧ ¬v.IsObject := by
  unfold read? at read
  dsimp only at read
  split at read
  · -- One value was read and nothing but blanks is left.
    next value rest outcome =>
    split at read
    · obtain rfl := Option.some.inj read
      unfold value? at outcome
      split at outcome
      · -- An array.
        next opened opens =>
        have plain : ∀ opened, skipBlanks text.toList ≠ '\x7b' :: opened := by
          intro opened' opens'
          cases opens.symm.trans opens'
        refine .inr ⟨listed?_of_not_opened plain, ?_⟩
        -- Whether the array has items or none, it is an array.
        split at outcome
        · cases outcome
        split at outcome
        · obtain ⟨rfl, -⟩ := Prod.mk.inj (Option.some.inj outcome)
          exact fun ⟨_, is⟩ => nomatch is
        · exact plain_items? _ _ _ _ _ _ outcome
      · -- An object, with or without fields.
        next opened opens =>
        split at outcome
        · cases outcome
        split at outcome
        · next closed closes =>
          obtain ⟨rfl, -⟩ := Prod.mk.inj (Option.some.inj outcome)
          exact .inl ⟨[], listed?_of_closed opens closes, rfl⟩
        · next goesOn =>
          obtain ⟨found, listed, same⟩ := Option.map_eq_some_iff.mp outcome
          obtain ⟨rfl, -⟩ := Prod.mk.inj same
          refine .inl ⟨found.1, ?_, rfl⟩
          rw [listed?_of_not_closed opens goesOn]
          exact Option.map_eq_some_iff.mpr ⟨found, listed, rfl⟩
      · -- Something without parts.
        next noArray noObject =>
        exact .inr ⟨listed?_of_not_opened noObject, plain_scalar? _ _ _ _ outcome⟩
    · cases read
  · cases read

/-- What a text lists is the object that is read. -/
theorem eq_object_of_listed? {depth : Nat} {text : String} {v : Json}
    (listed : listed? depth text = some entries) (read : read? depth text = some v) :
    v = .object entries := by
  rcases object_of_read? read with ⟨entries', listed', is⟩ | ⟨unlisted, -⟩
  · obtain rfl := Option.some.inj (listed.symm.trans listed')
    exact is
  · cases listed.symm.trans unlisted

end Json

end SyntaxTour
