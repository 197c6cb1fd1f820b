import SyntaxTour.Tree
import Std.Data.TreeMap.Basic

/-!
# Numbering nodes

A session speaks of nodes by number. A node gets the next number when it is first
mentioned and keeps it; it is the same node when its identity is the same.
-/

namespace SyntaxTour

/-- The nodes mentioned so far, by their numbers, and the numbers by the identities. -/
structure Numbering where
  nodes : Std.TreeMap Nat Node
  numbers : Std.TreeMap Nat Nat
  deriving Inhabited

namespace Numbering

/-- Nothing mentioned yet. -/
def empty : Numbering := ⟨∅, ∅⟩

/-- The number of a node that was mentioned before. -/
def number? (r : Numbering) (n : Node) : Option Nat := r.numbers[n.id]?

/-- The node of a number. -/
def node? (r : Numbering) (number : Int) : Option Node :=
  if number < 0 then none else r.nodes[number.toNat]?

/-- **The number of a node**, the next free one if it has none. -/
def mention (r : Numbering) (n : Node) : Nat × Numbering :=
  match r.number? n with
  | some number => (number, r)
  | none =>
    let number := r.nodes.size
    (number, ⟨r.nodes.insert number n, r.numbers.insert n.id number⟩)

end Numbering

end SyntaxTour
