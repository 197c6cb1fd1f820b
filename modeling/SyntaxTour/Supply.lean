import SyntaxTour.Tree

/-!
# New identities

Making a node means giving it an identity that no node had before. A monad that can do so
is a `Supply`; the plain case is `Fresh`, a counter of the identities already given.

* `Supply.fresh` is a new identity.
* `Node.make` is a new node of a given span and shape.
-/

namespace SyntaxTour

/-- A monad with a source of new identities. -/
class Supply (m : Type → Type) where
  /-- An identity that was never given before. -/
  fresh : m Nat

/-- Computations that make nodes: the state is the next identity to give. -/
abbrev Fresh := StateM Nat

instance : Supply Fresh := ⟨fun next => (next, next + 1)⟩

@[simp] theorem Fresh.run_fresh (next : Nat) :
    (Supply.fresh : Fresh Nat) next = (next, next + 1) := rfl

/-- A new node of the given span and shape. -/
def Node.make {m : Type → Type} [Monad m] [Supply m] (span : Span) (shape : Shape Node) :
    m Node := do
  let id ← Supply.fresh
  pure (.node id span shape)

end SyntaxTour
