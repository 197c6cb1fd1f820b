import SyntaxTour.Proofs.Journal

/-!
# The moves of a traversal

A traversal is a row of moves: boundary listeners are told that it begins, steps are met,
listeners are called with events, and boundary listeners are told that it is over. Each move is
taken down in the journal and starts in the world that the one before has left. Only a callback
can fail, and then it is the last move.

* `Move` is one of them with the world in which it is made, and `Move.result` what it comes to.
* `Proceeds` says that one move follows on another. A row that fails ends with the move that
  fails (`Proceeds.failed`), a row adds to the journal what its moves are (`Proceeds.journal`),
  and what every move respects holds along the row (`Proceeds.respected`).
* `Target.Walkable` tells what can be traversed at all, and `Engine.admission_eq_ok` when.
* `Conduct` describes the moves of an admitted traversal, and `World.conduct_traverse` says that
  every one goes this way.
-/

namespace SyntaxTour

/-- Whether the entry tells of a boundary listener. -/
def Entry.isTold : Entry → Bool
  | .told .. => true
  | _ => false

/-- **One move of a traversal**: what the journal has of it, and the world in which it is made. -/
structure Move (σ : Type) where
  entry : Entry
  before : World σ

section

variable {σ : Type} (cast : Cast σ) (imports : Imports)

/-- **What a move comes to**: an answer, and the world that it leaves. -/
def Move.result (m : Move σ) : Except CallbackError Unit × World σ :=
  match m.entry with
  | .step step => (.ok (), m.before.meet step)
  | .called listener e => (World.call World.shut cast e imports listener).run.run m.before
  | .told listener boundary => (.ok (), m.before.tell World.shut cast boundary listener)

/-- **One move after the other**: each starts in the world that the one before has left, and one
that fails is the last. -/
inductive Proceeds : World σ → List (Move σ) → Except CallbackError Unit × World σ → Prop where
  | done (w : World σ) : Proceeds w [] (.ok (), w)
  | next {m : Move σ} {w : World σ} {moves : List (Move σ)}
      {ran : Except CallbackError Unit × World σ} :
    m.result cast imports = (.ok (), w) → Proceeds w moves ran →
      Proceeds m.before (m :: moves) ran
  | stop {m : Move σ} {w : World σ} {cause : CallbackError} :
    m.result cast imports = (.error cause, w) → Proceeds m.before [m] (.error cause, w)

/-! ### Single moves -/

/-- **A move fails** if it is a callback and the program of the listener fails. -/
def Move.Fails (m : Move σ) (cause : CallbackError) : Prop :=
  match m.entry with
  | .called listener e =>
    (World.run World.shut (cast.onEvent listener e imports) (m.before.record m.entry)).1 =
      .error cause
  | .step _ | .told .. => False

theorem Move.fails_iff {m : Move σ} {cause : CallbackError} :
    m.Fails cast imports cause ↔ (m.result cast imports).1 = .error cause := by
  obtain ⟨entry, before⟩ := m
  cases entry with
  | step step => exact iff_of_false id nofun
  | told listener boundary => exact iff_of_false id nofun
  | called listener e =>
    obtain ⟨answer, -, -⟩ := World.run_call cast imports e listener before
    change _ ↔ ((World.call World.shut cast e imports listener).run.run before).1 = .error cause
    rw [answer]
    exact Iff.rfl

/-- Whatever the programs of the listeners do, a move leaves its entry in the journal and
nothing else. -/
theorem Move.journal_result (m : Move σ) :
    (m.result cast imports).2.journal = m.before.journal.push m.entry := by
  obtain ⟨entry, before⟩ := m
  cases entry with
  | step step => exact World.journal_meet before step
  | told listener boundary => exact World.upheld_journal.run (cast.onBoundary listener boundary) _
  | called listener e =>
    obtain ⟨-, -, journal⟩ := World.run_call cast imports e listener before
    exact journal.trans (World.upheld_journal.run (cast.onEvent listener e imports) _)

theorem Move.respected {R : World σ → World σ → Prop} (respected : World.Respected R)
    (meet : ∀ w step, R w (w.meet step)) (m : Move σ) :
    R m.before (m.result cast imports).2 := by
  obtain ⟨entry, before⟩ := m
  cases entry with
  | step step => exact meet before step
  | called listener e => exact respected.call cast imports e listener before
  | told listener boundary => exact respected.tell cast boundary listener before

variable {cast imports}

/-! ### Rows of moves -/

namespace Proceeds

variable {w w₁ : World σ} {moves later : List (Move σ)} {ran : Except CallbackError Unit × World σ}

theorem single (m : Move σ) :
    Proceeds cast imports m.before [m] (m.result cast imports) := by
  generalize same : m.result cast imports = ran
  match ran with
  | (.ok (), w) => exact .next same (.done w)
  | (.error cause, w) => exact .stop same

/-- A row in which nothing fails may be followed by another. -/
theorem append (first : Proceeds cast imports w moves (.ok (), w₁))
    (second : Proceeds cast imports w₁ later ran) :
    Proceeds cast imports w (moves ++ later) ran := by
  -- The induction is on the first row, whose outcome is kept as an equation.
  generalize ends : ((.ok (), w₁) : Except CallbackError Unit × World σ) = fine at first
  induction first with
  | done w =>
    obtain rfl : w₁ = w := congrArg Prod.snd ends
    exact second
  | next result _ ih => exact .next result (ih ends)
  | stop => exact nomatch congrArg Prod.fst ends

/-- In a row that does not fail, no move fails. -/
theorem succeeded (proceeds : Proceeds cast imports w moves (.ok (), w₁)) :
    ∀ m ∈ moves, (m.result cast imports).1 = .ok () := by
  generalize ends : ((.ok (), w₁) : Except CallbackError Unit × World σ) = fine at proceeds
  induction proceeds with
  | done w => exact fun m mem => nomatch mem
  | next result _ ih =>
    intro m mem
    obtain rfl | mem := List.mem_cons.1 mem
    · exact congrArg Prod.fst result
    · exact ih ends m mem
  | stop => exact nomatch congrArg Prod.fst ends

/-- **A row that fails ends with the move that fails**, and no move before fails. -/
theorem failed {cause : CallbackError}
    (proceeds : Proceeds cast imports w moves (.error cause, w₁)) :
    ∃ earlier last, moves = earlier ++ [last] ∧
      (∀ m ∈ earlier, (m.result cast imports).1 = .ok ()) ∧
      last.result cast imports = (.error cause, w₁) := by
  generalize ends : ((.error cause, w₁) : Except CallbackError Unit × World σ) = fails at proceeds
  induction proceeds with
  | done w => exact nomatch congrArg Prod.fst ends
  | @next m _ _ _ result _ ih =>
    -- The failure comes further on, and one more move before it did not fail.
    obtain ⟨earlier, last, split, fine, result'⟩ := ih ends
    refine ⟨m :: earlier, last, congrArg (m :: ·) split, fun m' mem => ?_, result'⟩
    obtain rfl | mem := List.mem_cons.1 mem
    · exact congrArg Prod.fst result
    · exact fine m' mem
  | @stop m _ _ result =>
    exact ⟨[], m, rfl, fun m mem => (nomatch mem), result⟩

/-- **The moves of a row are what it adds to the journal.** -/
theorem journal (proceeds : Proceeds cast imports w moves ran) :
    ran.2.journal.toList = w.journal.toList ++ moves.map Move.entry := by
  induction proceeds with
  | done w => exact (List.append_nil _).symm
  | @next m w _ ran result _ ih =>
    have here : w.journal = m.before.journal.push m.entry := by
      rw [← m.journal_result cast imports, result]
    rw [ih, here, Array.toList_push, List.append_assoc]
    rfl
  | @stop m w _ result =>
    have here : w.journal = m.before.journal.push m.entry := by
      rw [← m.journal_result cast imports, result]
    exact (congrArg Array.toList here).trans Array.toList_push

/-- **What every move respects holds along a row**: for each world in which a move is made, and
for the last one. -/
theorem respected {R : World σ → World σ → Prop} (respected : World.Respected R)
    (meet : ∀ w step, R w (w.meet step)) (proceeds : Proceeds cast imports w moves ran) :
    (∀ m ∈ moves, R w m.before) ∧ R w ran.2 := by
  -- A move respects the relation, and the moves after it go on from where it led.
  induction proceeds with
  | done w => exact ⟨fun m mem => (nomatch mem), respected.refl w⟩
  | @next m w _ _ result _ ih =>
    have here := m.respected cast imports respected meet
    rw [result] at here
    refine ⟨fun m' mem => ?_, respected.trans here ih.2⟩
    obtain rfl | mem := List.mem_cons.1 mem
    · exact respected.refl _
    · exact respected.trans here (ih.1 m' mem)
  | @stop m w _ result =>
    -- The move that fails has respected the relation all the same.
    have here := m.respected cast imports respected meet
    rw [result] at here
    refine ⟨fun m' mem => ?_, here⟩
    obtain rfl := List.mem_singleton.1 mem
    exact respected.refl _

end Proceeds

variable (cast imports)

namespace World

/-- Announcing one thing after the other makes the moves of each, up to a failure. -/
theorem proceeds_forM {β : Type} {act : β → Announcing σ Unit}
    (each : ∀ b w, ∃ moves, Proceeds cast imports w moves ((act b).run.run w) ∧
      ∀ m ∈ moves, m.entry.isTold = false) (l : List β) (w : World σ) :
    ∃ moves, Proceeds cast imports w moves ((l.forM act).run.run w) ∧
      ∀ m ∈ moves, m.entry.isTold = false := by
  induction l generalizing w with
  | nil => exact ⟨[], .done w, fun m mem => nomatch mem⟩
  | cons b l ih =>
    obtain ⟨moves, proceeds, untold⟩ := each b w
    rw [run_forM_cons]
    generalize (act b).run.run w = ran at proceeds
    match ran with
    | (.error cause, w₁) => exact ⟨moves, proceeds, untold⟩
    | (.ok (), w₁) =>
      -- The others go on from the world that the first one has left.
      obtain ⟨later, proceeds', untold'⟩ := ih w₁
      refine ⟨moves ++ later, proceeds.append proceeds', fun m mem => ?_⟩
      rcases List.mem_append.1 mem with mem | mem
      · exact untold m mem
      · exact untold' m mem

/-- A step is met, and for an event the listeners are called. -/
theorem proceeds_announce (step : Step) (w : World σ) :
    ∃ moves, Proceeds cast imports w moves ((announce shut cast imports step).run.run w) ∧
      ∀ m ∈ moves, m.entry.isTold = false := by
  let met : Move σ := ⟨.step step, w⟩
  cases step with
  -- A node nobody recognizes calls no listener, so the step is the only move.
  | unrecognized position node trail =>
    rw [run_announce_unrecognized]
    refine ⟨[met], .single met, fun m mem => ?_⟩
    obtain rfl := List.mem_singleton.1 mem
    rfl
  | event e =>
    -- The step itself is the first move, and each callback is one.
    have called (listener : Handle) (w : World σ) :
        ∃ moves, Proceeds cast imports w moves
            ((call shut cast e imports listener).run.run w) ∧
          ∀ m ∈ moves, m.entry.isTold = false := by
      let callback : Move σ := ⟨.called listener e, w⟩
      refine ⟨[callback], .single callback, fun m mem => ?_⟩
      obtain rfl := List.mem_singleton.1 mem
      rfl
    obtain ⟨moves, proceeds, untold⟩ := proceeds_forM cast imports called
      ((w.meet (.event e)).engine.registry.lookup e.node.kind) (w.meet (.event e))
    rw [run_announce_event]
    refine ⟨met :: moves, .next (m := met) rfl proceeds, fun m mem => ?_⟩
    obtain rfl | mem := List.mem_cons.1 mem
    · rfl
    · exact untold m mem

/-- Those on the roster are told, each of them, and nothing fails. -/
theorem proceeds_tellAll (boundary : Boundary) (w : World σ) :
    ∃ moves, Proceeds cast imports w moves (.ok (), w.tellAll shut cast boundary) ∧
      moves.map Move.entry = w.engine.roster.members.map (Entry.told · boundary) := by
  rw [tellAll_eq_foldl]
  generalize w.engine.roster.members = members
  induction members generalizing w with
  | nil => exact ⟨[], .done w, rfl⟩
  | cons listener members ih =>
    obtain ⟨moves, proceeds, entries⟩ := ih (w.tell shut cast boundary listener)
    let told : Move σ := ⟨.told listener boundary, w⟩
    exact ⟨told :: moves, .next (m := told) rfl proceeds, congrArg (told.entry :: ·) entries⟩

end World

end

/-! ### Admission -/

/-- **What can be traversed**: a class, or the declarations of a file. -/
def Target.Walkable : Target → Prop
  | .declaration root _ => root.kind = .classDecl
  | .file _ => True

theorem Engine.admission_eq_ok {e : Engine} {target : Target} :
    e.admission target = .ok () ↔ target.Walkable ∧ e.running = false := by
  unfold Engine.admission Target.Walkable
  cases target with
  | declaration root imports =>
    dsimp only
    by_cases rooted : root.kind = .classDecl <;> cases e.running <;> simp [rooted]
  | file unit => cases e.running <;> simp

theorem Engine.admission_of_running {e : Engine} {target : Target} (running : e.running = true)
    (walkable : target.Walkable) : e.admission target = .error .alreadyRunning := by
  unfold Engine.admission
  rw [running]
  cases target with
  | declaration root imports => exact if_pos walkable
  | file unit => rfl

/-! ### Whole traversals -/

section

variable {σ : Type} (cast : Cast σ)

/-- **How an admitted traversal goes.** The boundary listeners are told that it begins. Then
steps are met and listeners are called. If one of them fails, that is the end; otherwise those
on the roster by then are told that the traversal is over. -/
inductive Conduct (target : Target) (w : World σ) (begins middle : List (Move σ)) :
    List (Move σ) → Except TraversalError Summary × World σ → Prop where
  | aborted {w₁ w₂ : World σ} {cause : CallbackError} :
    Proceeds cast target.imports (w.opened target) begins (.ok (), w₁) →
    Proceeds cast target.imports w₁ middle (.error cause, w₂) →
      Conduct target w begins middle [] (.error (.callback cause), w₂.setRunning false)
  | completed {ends : List (Move σ)} {w₁ w₂ w₃ : World σ} {summary : Summary} :
    Proceeds cast target.imports (w.opened target) begins (.ok (), w₁) →
    Proceeds cast target.imports w₁ middle (.ok (), w₂) →
    Proceeds cast target.imports w₂ ends (.ok (), w₃) →
    ends.map Move.entry = w₂.engine.roster.members.map (Entry.told · .finish) →
      Conduct target w begins middle ends
        (.ok summary, (w₃.note (target.closing summary)).setRunning false)

/-- The moves of a traversal are one row, and after them none is running. -/
theorem Conduct.proceeds {cast : Cast σ} {target : Target} {w : World σ}
    {begins middle ends : List (Move σ)} {ran : Except TraversalError Summary × World σ}
    (conduct : Conduct cast target w begins middle ends ran) :
    ∃ ran', Proceeds cast target.imports (w.opened target) (begins ++ middle ++ ends) ran' ∧
      ran.2.journal = ran'.2.journal ∧ ran.2.engine.running = false := by
  cases conduct with
  | aborted begun fails =>
    rw [List.append_nil]
    exact ⟨_, begun.append fails, rfl, rfl⟩
  | completed begun goes ended _ => exact ⟨_, (begun.append goes).append ended, rfl, rfl⟩

/-- **Every admitted traversal goes this way**, and in between no boundary listener is told
anything. -/
theorem World.conduct_traverse {target : Target} {w : World σ}
    (admitted : w.engine.admission target = .ok ()) :
    ∃ begins middle ends,
      Conduct cast target w begins middle ends (traverse cast target w) ∧
      begins.map Move.entry = w.engine.roster.members.map (Entry.told · .begin) ∧
      ∀ m ∈ middle, m.entry.isTold = false := by
  -- The engine admits the traversal, so that it is a walk in a world that is opened.
  have walked : traverse cast target w = walk shut cast target w := by
    unfold traverse enter
    rw [admitted]
  -- The moves are found in the order they are made: beginning, steps, end.
  obtain ⟨begins, begun, told⟩ :=
    proceeds_tellAll cast target.imports .begin (w.opened target)
  obtain ⟨middle, goes, untold⟩ :=
    proceeds_forM cast target.imports (proceeds_announce cast target.imports)
      (target.steps w.engine.settings.descendIntoUnknown)
      ((w.opened target).tellAll shut cast .begin)
  -- What is left is to see which of its two outcomes the walk comes to.
  rw [walked, walk_eq]
  dsimp only
  unfold opened at begun goes
  generalize ((target.steps w.engine.settings.descendIntoUnknown).forM
    (announce shut cast target.imports)).run.run _ = ran at goes
  match ran with
  | (.error cause, w₂) => exact ⟨begins, middle, [], .aborted begun goes, told, untold⟩
  | (.ok (), w₂) =>
    obtain ⟨ends, ended, told'⟩ := proceeds_tellAll cast target.imports .finish w₂
    exact ⟨begins, middle, ends, .completed begun goes ended told', told, untold⟩

end

end SyntaxTour
