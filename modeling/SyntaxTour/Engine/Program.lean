import SyntaxTour.Engine
import SyntaxTour.Memory

/-!
# What listeners do

A listener that is called may do a number of things, one after the other, each of which may
depend on the answers so far: subscribe and unsubscribe listeners, ask the engine, request
replacements, remember things, make nodes. Such a course of action is a program over commands.
It is data: whoever runs it decides what a command does, and there is nothing a listener
can do besides.

* `Command` lists what can be done, and `Command.Reply` what comes back.
* `Program` is a course of action with a result or a failure at its end; it is a monad, with
  a supply of identities.
* `Cast` says what the listeners of a traversal do when they are called.

A program may also keep a state of its own, of any type `σ`, through `Command.own` and
`Command.setOwn`.
-/

namespace SyntaxTour

/-- **What a listener can do.** -/
inductive Command (σ : Type) where
  /-- Subscribe a listener to the kind it names. -/
  | register (listener : Handle) (declared : Option Kind)
  /-- Take a listener off the kind it names. -/
  | unregister (listener : Handle) (declared : Option Kind)
  /-- Add a boundary listener. -/
  | enroll (listener : Handle)
  /-- Remove a boundary listener. -/
  | dismiss (listener : Handle)
  /-- Look at the engine. -/
  | engine
  /-- Start a traversal. -/
  | traverse (target : Target)
  /-- Request a replacement. -/
  | request (old new : Node)
  /-- Ask how many requests were accepted in this context. -/
  | accepted
  /-- Look at the shared memory. -/
  | memory
  /-- Change the shared memory. -/
  | setMemory (memory : Memory)
  /-- Take a new identity. -/
  | fresh
  /-- Look at the own state. -/
  | own
  /-- Change the own state. -/
  | setOwn (state : σ)

/-- What comes back from a command. -/
def Command.Reply {σ : Type} : Command σ → Type
  | register .. | unregister .. | enroll _ | dismiss _ => Bool
  | engine => Engine
  | traverse _ => Except TraversalError Summary
  | request .. => Except Refusal Unit
  | accepted => Nat
  | memory => Memory
  | setMemory _ => Unit
  | fresh => Nat
  | own => σ
  | setOwn _ => Unit

/-- **A course of action**: it ends in a result or a failure, or it gives a command and goes
on according to the reply. -/
inductive Program (σ ε α : Type) where
  | done (result : α)
  | fail (failure : ε)
  | ask (command : Command σ) (next : command.Reply → Program σ ε α)

namespace Program

variable {σ ε ε' α β : Type}

/-- Going on with the result of a program. -/
def bind (p : Program σ ε α) (f : α → Program σ ε β) : Program σ ε β :=
  match p with
  | done a => f a
  | fail e => fail e
  | ask c next => ask c fun reply => (next reply).bind f

instance : Monad (Program σ ε) where
  pure := done
  bind := bind

theorem bind_done (p : Program σ ε α) : p.bind done = p := by
  induction p with
  | done a => rfl
  | fail e => rfl
  | ask c next ih => exact congrArg (ask c) (funext ih)

theorem bind_bind {γ : Type} (p : Program σ ε α) (f : α → Program σ ε β)
    (g : β → Program σ ε γ) : (p.bind f).bind g = p.bind fun a => (f a).bind g := by
  induction p with
  | done a => rfl
  | fail e => rfl
  | ask c next ih => exact congrArg (ask c) (funext ih)

instance : LawfulMonad (Program σ ε) :=
  LawfulMonad.mk' (Program σ ε) bind_done (fun _ _ => rfl) bind_bind

/-- Ending with a result in either case: the failure of a program becomes its result. -/
def attempt : Program σ ε α → Program σ ε' (Except ε α)
  | done a => done (.ok a)
  | fail e => done (.error e)
  | ask c next => ask c fun reply => (next reply).attempt

/-- Giving a failure another form. -/
def mapFailure (f : ε → ε') : Program σ ε α → Program σ ε' α
  | done a => done a
  | fail e => fail (f e)
  | ask c next => ask c fun reply => (next reply).mapFailure f

/-- A result, or a failure if there is none. -/
def ofOption (failure : ε) : Option α → Program σ ε α
  | some a => done a
  | none => fail failure

/-- A single command, with its reply as the result. -/
def command (c : Command σ) : Program σ ε c.Reply :=
  ask c done

instance : Supply (Program σ ε) := ⟨command .fresh⟩

/-- The own state. -/
def own : Program σ ε σ := command .own

/-- Changing the own state. -/
def setOwn (state : σ) : Program σ ε Unit := command (.setOwn state)

/-- Changing the own state by a function, with a result. -/
def modifyOwn (f : σ → α × σ) : Program σ ε α := do
  let (a, state) := f (← own)
  setOwn state
  pure a

/-- The shared memory. -/
def memory : Program σ ε Memory := command .memory

/-- Changing the shared memory by a function, with a result. -/
def modifyMemory (f : Memory → α × Memory) : Program σ ε α := do
  let (a, memory) := f (← memory)
  command (.setMemory memory)
  pure a

end Program

/-- **What the listeners do**: on an event, and at the boundaries of a traversal. Only the
first can fail. -/
structure Cast (σ : Type) where
  onEvent : Handle → Event → Imports → Program σ CallbackError Unit
  onBoundary : Handle → Boundary → Program σ Empty Unit

end SyntaxTour
