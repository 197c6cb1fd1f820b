import SyntaxTour.Notice
import SyntaxTour.Table
import SyntaxTour.Text.Quoted

/-!
# The registry of listeners

A listener subscribes to one kind of node. The registry files it under the kind it names at
that moment, or under `Kind.other` when it names none, and keeps each group in the order of
registration. What a listener names may change later; the registry does not follow, and
every call goes by what is named at the time of the call.

* `Handle` is a listener as the registry knows it: an identity and a name.
* `Registry.register` and `Registry.unregister` change one group and tell whether they did.
* `Registry.lookup`, `Registry.kinds` and `Registry.size` ask.
-/

namespace SyntaxTour

/-- **A listener known by identity.** The name is for the log; two handles are the same
listener when their identities are. -/
structure Handle where
  id : Nat
  name : String
  deriving DecidableEq, Repr, Inhabited

/-- Whether two handles are the same listener. -/
def Handle.same (a b : Handle) : Bool := a.id == b.id

/-- The kind a listener is filed under. -/
def subscription (declared : Option Kind) : Kind := declared.getD .other

/-- Listeners by kind, each group in the order of registration. -/
structure Registry where
  groups : Table Kind (List Handle)
  deriving Repr, Inhabited

namespace Registry

/-- No listeners. -/
def empty : Registry := ⟨[]⟩

/-- The listeners of exactly one kind, in the order of registration. -/
def lookup (r : Registry) (kind : Kind) : List Handle :=
  (r.groups.get? kind).getD []

/-- Whether anyone listens to a kind. -/
def hasListeners (r : Registry) (kind : Kind) : Bool :=
  !(r.lookup kind).isEmpty

/-- The number of registrations. -/
def size (r : Registry) : Nat :=
  (r.groups.flatMap fun group => group.2).length

/-- Whether there are no groups. -/
def isEmpty (r : Registry) : Bool :=
  r.groups.isEmpty

/-- The kinds that have a group, in the order of kinds. -/
def kinds (r : Registry) : List Kind :=
  r.groups.keys.mergeSort fun a b => a.index ≤ b.index

/-- **Adding a listener** at the end of the group of its kind, unless the group has it. The
answer tells whether it was added. -/
def register (r : Registry) (listener : Handle) (declared : Option Kind) : Bool × Registry :=
  let kind := subscription declared
  let group := r.lookup kind
  if group.any (·.same listener) then (false, r)
  else (true, ⟨r.groups.put kind (group ++ [listener])⟩)

/-- **Removing a listener** from the group of its kind; a group that becomes empty goes too.
The answer tells whether the group had it. -/
def unregister (r : Registry) (listener : Handle) (declared : Option Kind) : Bool × Registry :=
  let kind := subscription declared
  let group := r.lookup kind
  if group.any (·.same listener) then
    let rest := group.eraseP (·.same listener)
    (true, ⟨if rest.isEmpty then r.groups.erase kind else r.groups.put kind rest⟩)
  else (false, r)

/-- Removing everyone. -/
def clear (_ : Registry) : Registry := empty

/-- What `register` tells the log. -/
def registerNotice (listener : Handle) (declared : Option Kind) (added : Bool) : Notice :=
  if added then .registered listener.name (subscription declared)
  else .alreadyRegistered listener.name (subscription declared)

/-- What `unregister` tells the log: nothing when nothing was removed. -/
def unregisterNotice (listener : Handle) (declared : Option Kind) (removed : Bool) :
    List Notice :=
  if removed then [.unregistered listener.name (subscription declared)] else []

/-- The registry as a log shows it: each kind with the names of its listeners. -/
def describe (r : Registry) : String :=
  let group (kind : Kind) := kind.name ++ ": " ++ Text.quoteList ((r.lookup kind).map (·.name))
  "\x7b" ++ ", ".intercalate (r.kinds.map group) ++ "\x7d"

end Registry

end SyntaxTour
