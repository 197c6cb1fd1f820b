import SyntaxTour.Table
import SyntaxTour.Text.Quoted
import SyntaxTour.Tree

/-!
# Shared memory

Listeners remember things from one node to the next: the field that was added to a class,
what they have seen so far. A memory holds values under keys, and one latch that tells
whether it was initialized. How long a memory lives is for its owner to decide; it never
forgets by itself.

* `Value` is what can be remembered.
* `Memory.set`, `Memory.remove` and `Memory.getOrInit` change one key and answer with a value.
* The latch is set and reset by its own operations and by `Memory.clear`, which also drops
  every entry.
-/

namespace SyntaxTour

/-- Content a memory keeps without looking into it. -/
inductive Keepsake where
  | words (values : List UInt32)
  | text (value : String)
  deriving DecidableEq, Repr

/-- **A remembered value.** -/
inductive Value where
  | node (n : Node)
  | text (value : String)
  | bool (value : Bool)
  | number (value : Int64)
  | sealed (content : Keepsake)

namespace Value

/-- The node, if the value is one. -/
def node? : Value → Option Node
  | node n => some n
  | _ => none

/-- The text, if the value is one. -/
def text? : Value → Option String
  | text value => some value
  | _ => none

/-- The truth value, if the value is one. -/
def bool? : Value → Option Bool
  | bool value => some value
  | _ => none

/-- The number, if the value is one. -/
def number? : Value → Option Int64
  | number value => some value
  | _ => none

/-- The words of a keepsake that holds words. -/
def words? : Value → Option (List UInt32)
  | sealed (.words values) => some values
  | _ => none

/-- The text of a keepsake that holds text. -/
def sealedText? : Value → Option String
  | sealed (.text value) => some value
  | _ => none

/-- The value as a log shows it. -/
def describe : Value → String
  | node n => "Node(" ++ n.kind.name ++ ")"
  | text value => "Text(" ++ Text.quote value ++ ")"
  | bool value => "Bool(" ++ toString value ++ ")"
  | number value => "Number(" ++ toString value.toInt ++ ")"
  | sealed _ => "Opaque(..)"

end Value

/-- Values under keys, and a latch. -/
structure Memory where
  values : Table String Value
  initialized : Bool

namespace Memory

/-- Nothing remembered and nothing initialized. -/
def empty : Memory := ⟨[], false⟩

instance : Inhabited Memory := ⟨empty⟩

/-- The value under a key. -/
def get? (m : Memory) (key : String) : Option Value := m.values.get? key

/-- Whether there is a value under a key. -/
def contains (m : Memory) (key : String) : Bool := (m.get? key).isSome

/-- Storing a value; the answer is the value it replaces. -/
def set (m : Memory) (key : String) (value : Value) : Option Value × Memory :=
  (m.get? key, { m with values := m.values.put key value })

/-- Removing a key; the answer is the value that was there. -/
def remove (m : Memory) (key : String) : Option Value × Memory :=
  (m.get? key, { m with values := m.values.erase key })

/-- **The value under a key, made and stored first where there is none.** The initializer is
run only then. -/
def getOrInit {μ : Type → Type} [Monad μ] (m : Memory) (key : String) (init : μ Value) :
    μ (Value × Memory) :=
  match m.get? key with
  | some value => pure (value, m)
  | none => do
    let value ← init
    pure (value, { m with values := m.values.put key value })

/-- The number of keys. -/
def size (m : Memory) : Nat := m.values.length

/-- Whether there are no keys. -/
def isEmpty (m : Memory) : Bool := m.values.isEmpty

/-- Setting the latch to a given position. -/
def setLatch (m : Memory) (initialized : Bool) : Memory :=
  { m with initialized := initialized }

/-- Dropping every entry and resetting the latch. -/
def clear (_ : Memory) : Memory := empty

/-- The memory as a log shows it. -/
def describe (m : Memory) : String :=
  let entry (e : String × Value) := Text.quote e.1 ++ ": " ++ e.2.describe
  "SharedState \x7b values: \x7b" ++ ", ".intercalate (m.values.map entry) ++
    "\x7d, initialized: " ++ toString m.initialized ++ " \x7d"

end Memory

end SyntaxTour
