/-!
# Tables

A table gives values to finitely many keys. It is a list of entries in which no key occurs
twice; the entries stand in the order in which their keys came in.

* `Table.get?` looks a key up.
* `Table.put` sets the value of a key and `Table.erase` removes a key.

The equations below say what each of them does to every look-up and to the keys.
-/

namespace SyntaxTour

/-- Entries of keys and values. -/
abbrev Table (κ α : Type) := List (κ × α)

namespace Table

variable {κ α : Type} [DecidableEq κ]

/-- The value of a key. -/
def get? (key : κ) : Table κ α → Option α
  | [] => none
  | (k, a) :: rest => if k = key then some a else get? key rest

/-- Setting the value of a key: in its place if it is there, at the end otherwise. -/
def put (key : κ) (value : α) : Table κ α → Table κ α
  | [] => [(key, value)]
  | (k, a) :: rest => if k = key then (key, value) :: rest else (k, a) :: put key value rest

/-- Removing a key. -/
def erase (key : κ) : Table κ α → Table κ α
  | [] => []
  | (k, a) :: rest => if k = key then erase key rest else (k, a) :: erase key rest

/-- The keys, in the order in which they came in. -/
def keys (table : Table κ α) : List κ :=
  table.map (·.1)

@[simp] theorem get?_nil (key : κ) : get? key ([] : Table κ α) = none := rfl

theorem get?_cons (key k : κ) (a : α) (rest : Table κ α) :
    get? key ((k, a) :: rest) = if k = key then some a else get? key rest := rfl

@[simp] theorem get?_put_self (key : κ) (value : α) (table : Table κ α) :
    (table.put key value).get? key = some value := by
  induction table with
  | nil => simp [put, get?_cons]
  | cons entry rest ih =>
    obtain ⟨k, a⟩ := entry
    by_cases h : k = key <;> simp [put, get?_cons, h, ih]

theorem get?_put_of_ne {key other : κ} (h : other ≠ key) (value : α) (table : Table κ α) :
    (table.put key value).get? other = table.get? other := by
  induction table with
  | nil => simp [put, get?_cons, h.symm]
  | cons entry rest ih =>
    obtain ⟨k, a⟩ := entry
    by_cases hk : k = key
    · subst hk
      simp [put, get?_cons, h.symm]
    · simp only [put, if_neg hk, get?_cons, ih]

@[simp] theorem get?_erase_self (key : κ) (table : Table κ α) :
    (table.erase key).get? key = none := by
  induction table with
  | nil => rfl
  | cons entry rest ih =>
    obtain ⟨k, a⟩ := entry
    by_cases h : k = key <;> simp [erase, h, get?_cons, ih]

theorem get?_erase_of_ne {key other : κ} (h : other ≠ key) (table : Table κ α) :
    (table.erase key).get? other = table.get? other := by
  induction table with
  | nil => rfl
  | cons entry rest ih =>
    obtain ⟨k, a⟩ := entry
    by_cases hk : k = key
    · subst hk
      simp [erase, get?_cons, h.symm, ih]
    · simp only [erase, if_neg hk, get?_cons, ih]

/-! ### Keys -/

omit [DecidableEq κ] in
@[simp] theorem keys_cons (k : κ) (a : α) (rest : Table κ α) :
    keys ((k, a) :: rest) = k :: rest.keys := rfl

/-- The keys are those under which something is found. -/
theorem mem_keys_iff {key : κ} {table : Table κ α} :
    key ∈ table.keys ↔ ∃ a, table.get? key = some a := by
  induction table with
  | nil => simp [keys]
  | cons entry rest ih =>
    obtain ⟨k, a⟩ := entry
    by_cases h : k = key
    · simp [get?_cons, h]
    · simp [get?_cons, h, ih, Ne.symm h]

/-- Setting a value brings at most its key in, and that at the end. -/
theorem keys_put (key : κ) (value : α) (table : Table κ α) :
    (table.put key value).keys =
      if key ∈ table.keys then table.keys else table.keys ++ [key] := by
  induction table with
  | nil => rfl
  | cons entry rest ih =>
    obtain ⟨k, a⟩ := entry
    by_cases h : k = key
    · simp [put, h]
    · rw [put, if_neg h, keys_cons, ih, keys_cons]
      by_cases mem : key ∈ keys rest <;> simp [mem, Ne.symm h]

/-- Setting a value keeps the keys apart. -/
theorem nodup_keys_put (key : κ) (value : α) {table : Table κ α} (nodup : table.keys.Nodup) :
    (table.put key value).keys.Nodup := by
  rw [keys_put]
  split
  · exact nodup
  · next new =>
    rw [List.nodup_append]
    refine ⟨nodup, List.pairwise_singleton _ _, fun k mem k' last same => new ?_⟩
    rw [← List.mem_singleton.mp last, ← same]
    exact mem

/-- Where no key occurs twice, every entry is found by its key. -/
theorem get?_of_mem {key : κ} {value : α} {table : Table κ α} (nodup : table.keys.Nodup)
    (mem : (key, value) ∈ table) : table.get? key = some value := by
  induction table with
  | nil => cases mem
  | cons entry rest ih =>
    obtain ⟨k, a⟩ := entry
    obtain ⟨new, nodup⟩ := List.nodup_cons.mp nodup
    rw [get?_cons]
    rcases List.mem_cons.mp mem with same | mem
    · obtain ⟨rfl, rfl⟩ := Prod.mk.inj same
      exact if_pos rfl
    · have inside : key ∈ keys rest := List.mem_map.mpr ⟨(key, value), mem, rfl⟩
      have differ : k ≠ key := fun same => new (same ▸ inside)
      rw [if_neg differ]
      exact ih nodup mem

theorem keys_erase (key : κ) (table : Table κ α) :
    (table.erase key).keys = table.keys.filter (· ≠ key) := by
  induction table with
  | nil => rfl
  | cons entry rest ih =>
    obtain ⟨k, a⟩ := entry
    by_cases h : k = key
    · rw [erase, if_pos h, ih, keys_cons, List.filter_cons_of_neg (by simpa using h)]
    · rw [erase, if_neg h, keys_cons, ih, keys_cons, List.filter_cons_of_pos (by simpa using h)]

end Table

end SyntaxTour
