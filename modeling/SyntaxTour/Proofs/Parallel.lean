import SyntaxTour.Proofs.Passage

/-!
# Two runs side by side

Parts of a world are there to be looked at from outside only, like the lines of the log. That
nothing depends on such a part means that two worlds that differ in nothing else stay so, and that
the same answers come from both, whatever happens to both of them.

A listener may have a look at some such parts too, and it may even write down what it has seen. It
is indifferent to what it sees there if it acts in the same way all the same.

* `Program.Alike` says that two programs act in the same way, if the replies they get are near
  enough to each other. `Cast.Indifferent` says of listeners that they are alike to themselves.
* `World.Parallel` says that a relation between worlds is respected by whatever happens to both.
* `Parallel.run`, `Parallel.call`, `Parallel.announce` and `Parallel.tellAll` say that then
  programs, callbacks, announcements and boundaries respect it and come to the same end.
-/

namespace SyntaxTour

section Indifferent

variable {σ ε α : Type} (near : (c : Command σ) → c.Reply → c.Reply → Prop)

/-- **Programs that act in the same way**: they give the same commands, as long as the replies are
near to each other, and come to the same end. What they keep for themselves may differ, as far as
replies about it may. -/
inductive Program.Alike : Program σ ε α → Program σ ε α → Prop where
  | done (a : α) : Alike (.done a) (.done a)
  | fail (e : ε) : Alike (.fail e) (.fail e)
  | setOwn {own own' : σ} {next : (Command.setOwn own).Reply → Program σ ε α}
    {next' : (Command.setOwn own').Reply → Program σ ε α} :
    near .own own own' → Alike (next ()) (next' ()) →
    Alike (.ask (.setOwn own) next) (.ask (.setOwn own') next')
  | ask (c : Command σ) {next next' : c.Reply → Program σ ε α} :
    (∀ reply reply', near c reply reply' → Alike (next reply) (next' reply')) →
    Alike (.ask c next) (.ask c next')

/-- **Listeners that are indifferent** to what makes the difference between near replies. -/
structure Cast.Indifferent (cast : Cast σ) : Prop where
  onEvent (listener : Handle) (e : Event) (imports : Imports) :
    (cast.onEvent listener e imports).Alike near (cast.onEvent listener e imports)
  onBoundary (listener : Handle) (boundary : Boundary) :
    (cast.onBoundary listener boundary).Alike near (cast.onBoundary listener boundary)

/-- If only equal replies are near to each other, then every program is alike to itself. -/
theorem Program.alike_self (p : Program σ ε α) : p.Alike (fun _ => Eq) p := by
  induction p with
  | done a => exact .done a
  | fail e => exact .fail e
  | ask c next ih =>
    refine .ask c fun reply reply' same => ?_
    obtain rfl : reply = reply' := same
    exact ih reply

theorem Cast.indifferent (cast : Cast σ) : cast.Indifferent fun _ => Eq where
  onEvent _ _ _ := Program.alike_self _
  onBoundary _ _ := Program.alike_self _

end Indifferent

namespace World

variable {σ ε α : Type}

/-- The same answer in both worlds, which are still related. -/
structure Both {γ : Type} (R : World σ → World σ → Prop) (x y : γ × World σ) : Prop where
  answer : x.1 = y.1
  related : R x.2 y.2

/-- In a row of announcements the first that fails is the same. -/
theorem both_forM {R : World σ → World σ → Prop} {β : Type} {act : β → Announcing σ Unit}
    (each : ∀ b {u v : World σ}, R u v → Both R ((act b).run.run u) ((act b).run.run v))
    (l : List β) {u v : World σ} (related : R u v) :
    Both R ((l.forM act).run.run u) ((l.forM act).run.run v) := by
  induction l generalizing u v with
  | nil => exact ⟨rfl, related⟩
  | cons b l ih =>
    have first := each b related
    rw [run_forM_cons, run_forM_cons]
    generalize (act b).run.run u = ran at first
    generalize (act b).run.run v = ran' at first
    -- The first acts answer alike, so either both rows go on or both end here.
    obtain ⟨ended, u₁⟩ := ran
    obtain ⟨ended', v₁⟩ := ran'
    obtain ⟨answer, worlds⟩ := first
    obtain rfl : ended = ended' := answer
    cases ended with
    | ok _ => exact ih worlds
    | error cause => exact ⟨rfl, worlds⟩

/-- **A relation between worlds that is respected by whatever happens to both of them.** The
replies are near to each other. -/
structure Parallel (near : (c : Command σ) → c.Reply → c.Reply → Prop)
    (R : World σ → World σ → Prop) : Prop where
  /-- The same listeners are registered in both worlds. -/
  registry {u v : World σ} : R u v → u.engine.registry = v.engine.registry
  roster {u v : World σ} : R u v → u.engine.roster = v.engine.roster
  perform {u v : World σ} : R u v → ∀ c,
    near c (u.perform shut c).1 (v.perform shut c).1 ∧ R (u.perform shut c).2 (v.perform shut c).2
  setOwn {u v : World σ} {own own' : σ} : R u v → near .own own own' →
    R { u with own := own } { v with own := own' }
  record {u v : World σ} : R u v → ∀ entry, R (u.record entry) (v.record entry)
  failed {u v : World σ} : R u v → ∀ listener kind cause,
    R (u.note [.callbackFailed listener kind cause]) (v.note [.callbackFailed listener kind cause])
  meet {u v : World σ} : R u v → ∀ step, R (u.meet step) (v.meet step)
  /-- The contexts are put aside. -/
  aside {u v : World σ} : R u v → R { u with context := .empty } { v with context := .empty }
  /-- The contexts come back. -/
  back {u v u₁ v₁ : World σ} : R u v → R u₁ v₁ →
    R { u₁ with context := u.context } { v₁ with context := v.context }

namespace Parallel

variable {near : (c : Command σ) → c.Reply → c.Reply → Prop} {R : World σ → World σ → Prop}
  (parallel : Parallel near R) {u v : World σ}

include parallel

/-- Programs that act in the same way come to the same end. -/
theorem run {p p' : Program σ ε α} (alike : p.Alike near p') (related : R u v) :
    Both R (World.run shut p u) (World.run shut p' v) := by
  induction alike generalizing u v with
  | done a => exact ⟨rfl, related⟩
  | fail e => exact ⟨rfl, related⟩
  | setOwn own _ ih => exact ih (parallel.setOwn related own)
  | ask c _ ih =>
    obtain ⟨replies, worlds⟩ := parallel.perform related c
    exact ih _ _ replies worlds

variable {cast : Cast σ} (indifferent : cast.Indifferent near) (imports : Imports)

include indifferent

theorem call (e : Event) (listener : Handle) (related : R u v) :
    Both R ((World.call shut cast e imports listener).run.run u)
      ((World.call shut cast e imports listener).run.run v) := by
  have program := parallel.run (indifferent.onEvent listener e imports)
    (parallel.record related (.called listener e))
  unfold World.call
  dsimp only [ExceptT.run, ExceptT.mk, StateT.run]
  generalize World.run shut _ (u.record (.called listener e)) = ran at program ⊢
  generalize World.run shut _ (v.record (.called listener e)) = ran' at program ⊢
  obtain ⟨ended, u₁⟩ := ran
  obtain ⟨ended', v₁⟩ := ran'
  obtain ⟨answer, worlds⟩ := program
  obtain rfl : ended = ended' := answer
  cases ended with
  | ok _ => exact ⟨rfl, worlds⟩
  | error cause => exact ⟨rfl, parallel.failed worlds listener.name e.node.kind cause⟩

/-- **A step is announced to the same listeners with the same result.** -/
theorem announce (step : Step) (related : R u v) :
    Both R ((World.announce shut cast imports step).run.run u)
      ((World.announce shut cast imports step).run.run v) := by
  have met := parallel.meet related step
  cases step with
  | unrecognized position node trail =>
    rw [run_announce_unrecognized, run_announce_unrecognized]
    exact ⟨rfl, met⟩
  | event e =>
    rw [run_announce_event, run_announce_event, parallel.registry met]
    exact both_forM (fun listener _ _ => parallel.call indifferent imports e listener) _ met

theorem tell (boundary : Boundary) (listener : Handle) (related : R u v) :
    R (u.tell shut cast boundary listener) (v.tell shut cast boundary listener) := by
  have recorded := parallel.record related (.told listener boundary)
  have program := parallel.run (indifferent.onBoundary listener boundary) (parallel.aside recorded)
  have back := parallel.back recorded program.related
  exact back

theorem tellAll (boundary : Boundary) (related : R u v) :
    R (u.tellAll shut cast boundary) (v.tellAll shut cast boundary) := by
  rw [tellAll_eq_foldl, tellAll_eq_foldl, parallel.roster related]
  generalize v.engine.roster.members = members
  induction members generalizing u v with
  | nil => exact related
  | cons listener members ih =>
    rw [List.foldl_cons, List.foldl_cons]
    exact ih (parallel.tell indifferent boundary listener related)

end Parallel

end World

end SyntaxTour
