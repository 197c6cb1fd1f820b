import SyntaxTour.Registry

/-!
# The roster of boundary listeners

Some listeners care only for the beginning and the end of a whole traversal. They are kept
in a roster: in the order in which they were added, and none of them twice.

* `Roster.add` and `Roster.remove` tell whether they changed the roster.
* A notification goes to `Roster.members` as they are when it starts, whatever they do to
  the roster while they are notified (`Roster.notify`).
-/

namespace SyntaxTour

/-- The two boundaries of a traversal. -/
inductive Boundary where
  | begin
  | finish
  deriving DecidableEq, Repr, Inhabited

/-- The boundary in data. -/
def Boundary.name : Boundary → String
  | .begin => "begin"
  | .finish => "end"

/-- Listeners in the order in which they were added. -/
structure Roster where
  members : List Handle
  deriving Repr, Inhabited

namespace Roster

/-- Nobody. -/
def empty : Roster := ⟨[]⟩

/-- The number of members. -/
def size (r : Roster) : Nat := r.members.length

/-- Whether there is no member. -/
def isEmpty (r : Roster) : Bool := r.members.isEmpty

/-- Whether a listener is a member. -/
def contains (r : Roster) (listener : Handle) : Bool :=
  r.members.any (·.same listener)

/-- Adding a listener at the end, unless it is a member. -/
def add (r : Roster) (listener : Handle) : Bool × Roster :=
  if r.contains listener then (false, r) else (true, ⟨r.members ++ [listener]⟩)

/-- Removing a listener, if it is a member. -/
def remove (r : Roster) (listener : Handle) : Bool × Roster :=
  (r.contains listener, ⟨r.members.filter fun m => !m.same listener⟩)

/-- **Notifying the members** as they are now, one after the other; `tell` may change
everything, the roster included, and its changes count from the next notification on. -/
def notify {m : Type → Type} [Monad m] (r : Roster) (tell : Handle → m Unit) : m Unit :=
  r.members.forM tell

end Roster

end SyntaxTour
