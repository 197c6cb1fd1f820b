/-!
# Source spans

A span is a range of byte offsets in the text a node was read from. Nodes made later
have no text yet and carry `Span.empty`.

The two ends are 32-bit words and nothing forces them into order, so the length of a
span is a partial function (`Span.length?`).
-/

namespace SyntaxTour

/-- A range of byte offsets: `start` belongs to it, `stop` does not. -/
structure Span where
  start : UInt32
  stop : UInt32
  deriving DecidableEq, Repr, Inhabited

namespace Span

/-- The span of a node that was never read from a text. -/
def empty : Span := ⟨0, 0⟩

/-- The number of bytes covered; there is none when the ends are reversed. -/
def length? (s : Span) : Option UInt32 :=
  if s.start ≤ s.stop then some (s.stop - s.start) else none

/-- A span whose ends meet covers nothing, wherever it is. -/
def isEmpty (s : Span) : Bool :=
  s.start == s.stop

/-- `outer` starts no later and stops no earlier than `inner`. -/
def covers (outer inner : Span) : Bool :=
  outer.start ≤ inner.start && inner.stop ≤ outer.stop

/-- Spans compare by their start, then by their stop. -/
instance : Ord Span :=
  ⟨fun a b => (compare a.start b.start).then (compare a.stop b.stop)⟩

@[simp] theorem covers_self (s : Span) : s.covers s = true := by
  simp [covers]

end Span

end SyntaxTour
