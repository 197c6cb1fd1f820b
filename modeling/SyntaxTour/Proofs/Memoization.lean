import Mathlib.Data.Finset.Card
import SyntaxTour.Memory

/-!
# Made once, remembered since

A listener that needs something asks the memory for it under a key, and brings an initializer for
the case that it is not there yet. Whatever is done under other keys and to the latch meanwhile,
the thing is made once, and everybody who asks for it gets the same, until somebody stores
something else under the key, removes it or drops everything.

* `Memory.Operation` is one operation on a memory. An initializer may change what is around the
  memory, and answer differently the next time.
* `Memory.Deed` is an operation that was carried out, with what it found, answered and left, and
  with the keys whose initializers were run; `Memory.deeds` is the log of a sequence of them.
* `Memory.Deed.Lawful` says what a single deed may do, and `Memory.lawful_deed` that it does.
* `Memory.get?_before_of_present` and `Memory.count_ran_le_one` are about stretches of a log that
  leave a key alone, and `Memory.deeds_memoize` is the statement about all logs.
-/

namespace SyntaxTour

namespace Memory

variable {σ : Type}

/-! ### Operations -/

/-- **One operation on a memory.** The initializers change surroundings of the type `σ`. -/
inductive Operation (σ : Type) where
  | get (key : String)
  | contains (key : String)
  | set (key : String) (value : Value)
  | remove (key : String)
  | getOrInit (key : String) (init : StateM σ Value)
  | setLatch (position : Bool)
  | clear

namespace Operation

/-- The key that is initialized if there is nothing under it. -/
def initialized? : Operation σ → Option String
  | getOrInit key _ => some key
  | _ => none

/-- Where the latch is put, if it is. -/
def latch? : Operation σ → Option Bool
  | setLatch position => some position
  | clear => some false
  | _ => none

/-- Whether an operation asks for the value under a key. -/
def Reads (key : String) : Operation σ → Prop
  | get k => k = key
  | getOrInit k _ => k = key
  | _ => False

/-- Whether an operation replaces what is under a key, or takes it away. -/
def Resets (key : String) : Operation σ → Prop
  | set k _ => k = key
  | remove k => k = key
  | clear => True
  | _ => False

/-- Whether an operation may make a difference to what is under a key. -/
def Touches (key : String) : Operation σ → Prop
  | getOrInit k _ => k = key
  | operation => operation.Resets key

end Operation

/-- What an operation answers. -/
inductive Answer where
  /-- The value that was asked for, or the one that was there before. -/
  | found (value : Option Value)
  | told (there : Bool)
  | done

/-- An initializer that writes down, besides, for which key it is run. -/
def noted (key : String) (init : StateM σ Value) : StateM (List String × σ) Value :=
  fun s => ((init.run s.2).1, s.1 ++ [key], (init.run s.2).2)

/-- **Carrying out an operation**, with note taken of the initializers that are run. -/
def operate (m : Memory) : Operation σ → StateM (List String × σ) (Answer × Memory)
  | .get key => pure (.found (m.get? key), m)
  | .contains key => pure (.told (m.contains key), m)
  | .set key value => pure (.found (m.set key value).1, (m.set key value).2)
  | .remove key => pure (.found (m.remove key).1, (m.remove key).2)
  | .getOrInit key init => do
    let (value, m) ← m.getOrInit key (noted key init)
    pure (.found (some value), m)
  | .setLatch position => pure (.done, m.setLatch position)
  | .clear => pure (.done, m.clear)

/-- **An operation that was carried out**: the memory and the surroundings that it found, its
answer, the keys whose initializers it ran, and the memory and the surroundings that it left. -/
structure Deed (σ : Type) where
  operation : Operation σ
  before : Memory
  given : σ
  answer : Answer
  ran : List String
  after : Memory
  left : σ

/-- Carrying out one operation. -/
def deed (m : Memory) (s : σ) (operation : Operation σ) : Deed σ :=
  let outcome := (m.operate operation).run ([], s)
  ⟨operation, m, s, outcome.1.1, outcome.2.1, outcome.1.2, outcome.2.2⟩

/-- **The log of a sequence of operations**: each finds what the one before has left. -/
def deeds : List (Operation σ) → Memory → σ → List (Deed σ)
  | [], _, _ => []
  | operation :: operations, m, s =>
    m.deed s operation ::
      deeds operations (m.deed s operation).after (m.deed s operation).left

/-! ### A single deed -/

section

variable {m : Memory} {key other : String} {value : Value} {s : σ} {operation : Operation σ}

@[simp] theorem get?_set_self : (m.set key value).2.get? key = some value :=
  Table.get?_put_self key value m.values

theorem get?_set_of_ne (h : other ≠ key) : (m.set key value).2.get? other = m.get? other :=
  Table.get?_put_of_ne h value m.values

@[simp] theorem get?_remove_self : (m.remove key).2.get? key = none :=
  Table.get?_erase_self key m.values

theorem get?_remove_of_ne (h : other ≠ key) : (m.remove key).2.get? other = m.get? other :=
  Table.get?_erase_of_ne h m.values

/-- Where there is nothing under a key, the initializer is run and its value is stored. -/
theorem getOrInit_of_absent {μ : Type → Type} [Monad μ] (absent : m.get? key = none)
    (init : μ Value) :
    m.getOrInit key init = init >>= fun value => pure (value, (m.set key value).2) := by
  unfold getOrInit
  rw [absent]
  rfl

/-- Where there is a value under a key, it is answered. -/
theorem getOrInit_of_present {μ : Type → Type} [Monad μ] (there : m.get? key = some value)
    (init : μ Value) : m.getOrInit key init = pure (value, m) := by
  unfold getOrInit
  rw [there]

theorem deed_getOrInit_of_absent (absent : m.get? key = none) (s : σ) (init : StateM σ Value) :
    m.deed s (.getOrInit key init) =
      ⟨.getOrInit key init, m, s, .found (some (init.run s).1), [key],
        (m.set key (init.run s).1).2, (init.run s).2⟩ := by
  unfold deed operate
  dsimp only
  rw [getOrInit_of_absent absent]
  rfl

theorem deed_getOrInit_of_present (there : m.get? key = some value) (s : σ)
    (init : StateM σ Value) :
    m.deed s (.getOrInit key init) =
      ⟨.getOrInit key init, m, s, .found (some value), [], m, s⟩ := by
  unfold deed operate
  dsimp only
  rw [getOrInit_of_present there]
  rfl

/-- An initializer is run by asking for a key that is not there, and by nothing else. -/
theorem ran_deed : (m.deed s operation).ran =
    (operation.initialized?.filter fun key => !m.contains key).toList := by
  cases operation with
  | getOrInit key init =>
    cases found : m.get? key with
    | none =>
      rw [deed_getOrInit_of_absent found]
      simp [Operation.initialized?, contains, found, Option.filter_some]
    | some value =>
      rw [deed_getOrInit_of_present found]
      simp [Operation.initialized?, contains, found, Option.filter_some]
  | _ => rfl

/-- Whoever runs no initializer leaves the surroundings alone. -/
theorem left_deed (quiet : (m.deed s operation).ran = []) : (m.deed s operation).left = s := by
  cases operation with
  | getOrInit key init =>
    cases found : m.get? key with
    | none =>
      rw [deed_getOrInit_of_absent found] at quiet
      cases quiet
    | some value => rw [deed_getOrInit_of_present found]
  | _ => rfl

/-- What an operation does not touch stays as it is. -/
theorem get?_after_of_untouched (away : ¬operation.Touches key) :
    (m.deed s operation).after.get? key = m.get? key := by
  cases operation with
  | set k value => exact get?_set_of_ne (Ne.symm away)
  | remove k => exact get?_remove_of_ne (Ne.symm away)
  | getOrInit k init =>
    cases found : m.get? k with
    | none =>
      rw [deed_getOrInit_of_absent found]
      exact get?_set_of_ne (Ne.symm away)
    | some value => rw [deed_getOrInit_of_present found]
  | clear => exact absurd trivial away
  | _ => rfl

/-- Running an initializer does not move the latch. The operations about it put it where they
say. -/
theorem initialized_deed :
    (m.deed s operation).after.initialized = operation.latch?.getD m.initialized := by
  cases operation with
  | getOrInit key init =>
    cases found : m.get? key with
    | none => rw [deed_getOrInit_of_absent found]; rfl
    | some value => rw [deed_getOrInit_of_present found]; rfl
  | _ => rfl

end

/-- **What a single deed may do.** -/
structure Deed.Lawful (d : Deed σ) : Prop where
  /-- The initializer that was brought is run exactly if there is nothing under its key. -/
  ran_eq : d.ran = (d.operation.initialized?.filter fun key => !d.before.contains key).toList
  /-- What it makes is answered and remembered. -/
  made (key : String) (init : StateM σ Value) : d.operation = .getOrInit key init →
    d.before.get? key = none →
      d.answer = .found (some (init.run d.given).1) ∧
      d.after.get? key = some (init.run d.given).1 ∧ d.left = (init.run d.given).2
  /-- What is there already is answered instead. -/
  recalled (key : String) (init : StateM σ Value) (value : Value) :
    d.operation = .getOrInit key init → d.before.get? key = some value →
      d.answer = .found (some value)
  /-- Without an initializer that is run, the surroundings stay as they are. -/
  undisturbed : d.ran = [] → d.left = d.given
  looked (key : String) : d.operation = .get key → d.answer = .found (d.before.get? key)
  asked (key : String) : d.operation = .contains key → d.answer = .told (d.before.contains key)
  stored (key : String) (value : Value) : d.operation = .set key value →
    d.answer = .found (d.before.get? key) ∧ d.after.get? key = some value
  removed (key : String) : d.operation = .remove key →
    d.answer = .found (d.before.get? key) ∧ d.after.get? key = none
  cleared (key : String) : d.operation = .clear → d.after.get? key = none
  untouched (key : String) : ¬d.operation.Touches key →
    d.after.get? key = d.before.get? key
  latch : d.after.initialized = d.operation.latch?.getD d.before.initialized

theorem lawful_deed (m : Memory) (s : σ) (operation : Operation σ) :
    (m.deed s operation).Lawful where
  ran_eq := ran_deed
  made key init initializes absent := by
    -- The key was absent: what the initializer gives is answered and from now on there.
    obtain rfl : operation = .getOrInit key init := initializes
    have absent : m.get? key = none := absent
    rw [deed_getOrInit_of_absent absent]
    exact ⟨rfl, get?_set_self, rfl⟩
  recalled key init value initializes there := by
    -- The key was there: its value is answered, and nothing is run.
    obtain rfl : operation = .getOrInit key init := initializes
    have there : m.get? key = some value := there
    rw [deed_getOrInit_of_present there]
  undisturbed := left_deed
  looked key looks := by
    -- Looking up and asking are answered from the memory.
    obtain rfl : operation = .get key := looks
    rfl
  asked key asks := by
    obtain rfl : operation = .contains key := asks
    rfl
  stored key value stores := by
    -- The operations that write answer what they found, and leave their own key as they say.
    obtain rfl : operation = .set key value := stores
    exact ⟨rfl, get?_set_self⟩
  removed key removes := by
    obtain rfl : operation = .remove key := removes
    exact ⟨rfl, get?_remove_self⟩
  cleared key clears := by
    obtain rfl : operation = .clear := clears
    rfl
  untouched _ := get?_after_of_untouched
  latch := initialized_deed

section

variable {m : Memory} {s : σ} {operation : Operation σ} {key : String} {value : Value}

/-- What is there stays, unless it is replaced or taken away. -/
theorem get?_after_of_present (there : m.get? key = some value)
    (kept : ¬operation.Resets key) : (m.deed s operation).after.get? key = some value := by
  by_cases touched : operation.Touches key
  · cases operation with
    | getOrInit k init =>
      -- Asking for the key itself finds the value, and so does not store another one.
      obtain rfl : k = key := touched
      rw [deed_getOrInit_of_present there]
      exact there
    | _ => exact absurd touched kept
  · exact (get?_after_of_untouched touched).trans there

/-- What is there is answered. -/
theorem answer_of_present (there : m.get? key = some value) (reads : operation.Reads key) :
    (m.deed s operation).answer = .found (some value) := by
  cases operation with
  | get k =>
    obtain rfl : k = key := reads
    exact congrArg Answer.found there
  | getOrInit k init =>
    obtain rfl : k = key := reads
    rw [deed_getOrInit_of_present there]
  | _ => cases reads

/-- An initializer is run only if it is needed, and leaves something under its key. -/
theorem of_mem_ran (ran : key ∈ (m.deed s operation).ran) :
    m.get? key = none ∧ (m.deed s operation).ran = [key] ∧
      ∃ value, (m.deed s operation).after.get? key = some value := by
  cases operation with
  | getOrInit k init =>
    cases found : m.get? k with
    | none =>
      rw [deed_getOrInit_of_absent found] at ran ⊢
      obtain rfl := List.mem_singleton.mp ran
      exact ⟨found, rfl, _, get?_set_self⟩
    | some value =>
      rw [deed_getOrInit_of_present found] at ran
      cases ran
  | _ => cases ran

end

/-! ### Stretches of a log -/

section

variable {operations : List (Operation σ)} {m : Memory} {s : σ} {key : String} {value : Value}
  {earlier stretch later : List (Deed σ)}

/-- Every deed in a log is what comes of an operation where it was carried out. -/
theorem exists_deed_of_mem {d : Deed σ} (mem : d ∈ deeds operations m s) :
    ∃ m' s' operation, d = deed m' s' operation := by
  induction operations generalizing m s with
  | nil => cases mem
  | cons operation operations ih =>
    rcases List.mem_cons.mp mem with rfl | mem
    · exact ⟨m, s, operation, rfl⟩
    · exact ih mem

/-- What comes later in a log is a log of its own. -/
theorem exists_of_later (split : deeds operations m s = earlier ++ later) :
    ∃ operations' m' s', later = deeds operations' m' s' := by
  induction earlier generalizing operations m s with
  | nil => exact ⟨operations, m, s, split.symm⟩
  | cons d earlier ih =>
    cases operations with
    | nil => cases split
    | cons operation operations => exact ih (List.cons.inj split).2

/-- So is what comes earlier, with the same beginning. -/
theorem exists_of_earlier (split : deeds operations m s = earlier ++ later) :
    ∃ operations', earlier = deeds operations' m s := by
  induction earlier generalizing operations m s with
  | nil => exact ⟨[], rfl⟩
  | cons d earlier ih =>
    cases operations with
    | nil => cases split
    | cons operation operations =>
      obtain ⟨rfl, rest⟩ := List.cons.inj split
      obtain ⟨operations', rfl⟩ := ih rest
      exact ⟨operation :: operations', rfl⟩

/-- **What is there at the beginning of a stretch is there throughout**, if no operation of the
stretch replaces it or takes it away. -/
theorem get?_before_of_present (there : m.get? key = some value)
    (kept : ∀ d ∈ deeds operations m s, ¬d.operation.Resets key) :
    ∀ d ∈ deeds operations m s, d.before.get? key = some value := by
  induction operations generalizing m s with
  | nil => exact List.forall_mem_nil _
  | cons operation operations ih =>
    obtain ⟨first, rest⟩ := List.forall_mem_cons.mp kept
    exact List.forall_mem_cons.mpr ⟨there, ih (get?_after_of_present there first) rest⟩

/-- Then no initializer is run for its key. -/
theorem not_mem_ran_of_present (there : m.get? key = some value)
    (kept : ∀ d ∈ deeds operations m s, ¬d.operation.Resets key) :
    ∀ d ∈ deeds operations m s, key ∉ d.ran := by
  intro d mem ran
  have present := get?_before_of_present there kept d mem
  obtain ⟨m', s', operation, rfl⟩ := exists_deed_of_mem mem
  obtain ⟨absent, -⟩ := of_mem_ran ran
  cases absent.symm.trans present

/-- **In a stretch that does not reset a key its initializers are run once at most.** -/
theorem count_ran_le_one (kept : ∀ d ∈ deeds operations m s, ¬d.operation.Resets key) :
    ((deeds operations m s).flatMap Deed.ran).count key ≤ 1 := by
  -- By the operations: the key is computed by the first of them that finds it absent.
  induction operations generalizing m s with
  | nil => exact Nat.zero_le 1
  | cons operation operations ih =>
    obtain ⟨-, rest⟩ := List.forall_mem_cons.mp kept
    rw [deeds, List.flatMap_cons, List.count_append]
    by_cases ran : key ∈ (m.deed s operation).ran
    · -- The key is there from now on, so that this was the last time.
      obtain ⟨-, once, value, there⟩ := of_mem_ran ran
      have never : key ∉ (deeds operations (m.deed s operation).after
          (m.deed s operation).left).flatMap Deed.ran := by
        rw [List.mem_flatMap]
        rintro ⟨d, mem, again⟩
        exact not_mem_ran_of_present there rest d mem again
      rw [once, List.count_singleton_self, List.count_eq_zero_of_not_mem never]
    · -- This one did not compute the key, so one of the others may.
      rw [List.count_eq_zero_of_not_mem ran, Nat.zero_add]
      exact ih rest

/-! ### The number of keys -/

theorem nodup_keys_deed (nodup : m.values.keys.Nodup) (operation : Operation σ) :
    (m.deed s operation).after.values.keys.Nodup := by
  -- Storing overwrites a key in its place or adds it at the end.
  cases operation with
  | set key value => exact Table.nodup_keys_put key value nodup
  | remove key =>
    change (m.values.erase key).keys.Nodup
    rw [Table.keys_erase]
    exact nodup.filter _
  | getOrInit key init =>
    cases found : m.get? key with
    | none =>
      rw [deed_getOrInit_of_absent found]
      exact Table.nodup_keys_put key _ nodup
    | some value =>
      rw [deed_getOrInit_of_present found]
      exact nodup
  | clear => exact List.nodup_nil
  | _ => exact nodup

/-- Throughout a log no key has two entries, if none had at its beginning. -/
theorem nodup_keys_after (nodup : m.values.keys.Nodup) :
    ∀ d ∈ deeds operations m s, d.after.values.keys.Nodup := by
  induction operations generalizing m s with
  | nil => exact List.forall_mem_nil _
  | cons operation operations ih =>
    have first := nodup_keys_deed (s := s) nodup operation
    exact List.forall_mem_cons.mpr ⟨first, ih first⟩

/-- The size is the number of the keys under which there is a value. -/
theorem exists_card_eq_size (nodup : m.values.keys.Nodup) :
    ∃ keys : Finset String, (∀ key, key ∈ keys ↔ m.contains key = true) ∧
      m.size = keys.card := by
  refine ⟨m.values.keys.toFinset, fun key => ?_, ?_⟩
  · rw [List.mem_toFinset, Table.mem_keys_iff, contains, Option.isSome_iff_exists]
    rfl
  · rw [List.toFinset_card_of_nodup nodup, Table.keys, List.length_map, size]

end

/-- **What is initialized is made once and remembered.** Let any sequence of operations be carried
out on a new memory, with any initializers. Each of them does what it may: the initializer that it
brings is run exactly if there is nothing under its key, and then its value is answered and
remembered; storing and removing answer what was there before and touch no other key; the latch is
moved by the operations on it and by clearing, and by nothing else. After each of them the size is
the number of distinct keys. In any stretch that does not reset a key, its initializers are run
once at most in all; as soon as there is a value under the key, everybody who asks for it in what
is left of the stretch is answered with this value. -/
theorem deeds_memoize (operations : List (Operation σ)) (s : σ) :
    let log := deeds operations empty s
    (∀ d ∈ log, d.Lawful) ∧
    (∀ d ∈ log, ∃ keys : Finset String, (∀ key, key ∈ keys ↔ d.after.contains key = true) ∧
      d.after.size = keys.card) ∧
    (∀ key earlier stretch later, log = earlier ++ stretch ++ later →
      (∀ d ∈ stretch, ¬d.operation.Resets key) →
        (stretch.flatMap Deed.ran).count key ≤ 1) ∧
    ∀ key value earlier first stretch later, log = earlier ++ first :: stretch ++ later →
      (∀ d ∈ stretch, ¬d.operation.Resets key) → first.after.get? key = some value →
        ∀ d ∈ stretch, d.before.get? key = some value ∧ key ∉ d.ran ∧
          (d.operation.Reads key → d.answer = .found (some value)) := by
  intro log
  refine ⟨fun d mem => ?_, fun d mem => ?_, fun key earlier stretch later split kept => ?_,
    fun key value earlier first stretch later split kept there d mem => ?_⟩
  · -- Each deed of the log is one of a memory and a state that were come to on the way.
    obtain ⟨m, s', operation, rfl⟩ := exists_deed_of_mem mem
    exact lawful_deed m s' operation
  · exact exists_card_eq_size (nodup_keys_after (m := empty) List.nodup_nil d mem)
  · -- What happens in the stretch is a log of its own, from the memory at its beginning.
    obtain ⟨begun, stretches⟩ := exists_of_earlier split
    obtain ⟨operations', m, s', rfl⟩ := exists_of_later stretches.symm
    exact count_ran_le_one kept
  · obtain ⟨begun, stretches⟩ := exists_of_earlier split
    obtain ⟨operations', m, s', from_first⟩ := exists_of_later stretches.symm
    cases operations' with
    | nil => cases from_first
    | cons operation operations' =>
      -- The first deed has left the key there, and the rest goes on from what it left.
      obtain ⟨rfl, rfl⟩ := List.cons.inj from_first
      have present := get?_before_of_present there kept d mem
      refine ⟨present, not_mem_ran_of_present there kept d mem, fun reads => ?_⟩
      obtain ⟨m', s'', operation', rfl⟩ := exists_deed_of_mem mem
      exact answer_of_present present reads

namespace Logger

/-- Makes a field and counts it, so that no two fields are the same. -/
def make : StateM Nat Value := fun made => (.number (.ofNat made), made + 1)

/-- The first listener that needs a field for the logger finds none. -/
def first : Deed Nat := empty.deed 0 (.getOrInit "logger" make)

/-- Others come after it, and remember things of their own. -/
def others : List (Operation Nat) :=
  [.set "seen" (.bool true), .setLatch true, .getOrInit "logger" make, .remove "seen",
    .get "logger"]

end Logger

open Logger in
/-- The first listener has the field made. After things were done under another key and to the
latch, the next one that brings an initializer gets the same field, and so does one who asks. -/
theorem deeds_memoize_logger :
    let log := deeds others first.after first.left
    (∀ d ∈ first :: log, ¬d.operation.Resets "logger") ∧
    ((first :: log).flatMap Deed.ran).count "logger" ≤ 1 ∧
    first.after.get? "logger" = some (.number 0) ∧
    ∀ d ∈ log, d.before.get? "logger" = some (.number 0) ∧ "logger" ∉ d.ran ∧
      (d.operation.Reads "logger" → d.answer = .found (some (.number 0))) := by
  intro log
  have kept : ∀ d ∈ first :: log, ¬d.operation.Resets "logger" := by
    simp [log, deeds, others, first, deed, Operation.Resets]
  have there : first.after.get? "logger" = some (.number 0) := rfl
  obtain ⟨-, -, once, same⟩ := deeds_memoize (.getOrInit "logger" make :: others) 0
  exact ⟨kept, once "logger" [] (first :: log) [] (List.append_nil _).symm kept, there,
    same "logger" _ [] first log [] (List.append_nil _).symm
      (fun d mem => kept d (List.mem_cons_of_mem _ mem)) there⟩

end Memory

end SyntaxTour
