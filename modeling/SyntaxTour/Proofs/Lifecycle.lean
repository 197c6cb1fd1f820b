import SyntaxTour.Proofs.Moves
import SyntaxTour.Proofs.Registration
import SyntaxTour.Proofs.Tours

/-!
# How a traversal begins and ends

A traversal that is not admitted does nothing at all. One that is admitted tells the boundary
listeners that it begins, before anything else, and then goes on until a callback fails or
nothing is left. A failure is the end of it: the error is passed on, nobody is called or told
any more, and everything that was done until then stays done. Without a failure the boundary
listeners are told that it is over, those who are on the roster by then.

* `Roster.Distinct` says that nobody is on a roster twice. `World.maintained_distinct` says that
  it stays so whatever is done, and `World.distinct_execute` draws the conclusion for programs.
* `Lifecycle` collects what holds of the moves of an admitted traversal, and
  `Conduct.lifecycle` reads it off them.
* `World.traverse_lifecycle` is the statement about traversals, admitted or not.
-/

namespace SyntaxTour

/-! ### Nobody is on the roster twice -/

namespace Roster

variable {r : Roster}

/-- Nobody is on the roster twice. -/
def Distinct (r : Roster) : Prop := (r.members.map (·.id)).Nodup

theorem distinct_empty : empty.Distinct := List.nodup_nil

theorem Distinct.add (distinct : r.Distinct) (listener : Handle) :
    (r.add listener).2.Distinct := by
  unfold Roster.add
  split
  · exact distinct
  · next absent => exact Registry.nodup_concat distinct (Bool.not_eq_true _ ▸ absent)

theorem Distinct.remove (distinct : r.Distinct) (listener : Handle) :
    (r.remove listener).2.Distinct :=
  distinct.sublist (List.filter_sublist.map _)

end Roster

namespace World

variable {σ ε α : Type}

/-- **Nobody gets onto the roster a second time**, whatever listeners and traversals do. -/
theorem maintained_distinct : Maintained fun w w' : World σ =>
    w.engine.roster.Distinct → w'.engine.roster.Distinct where
  refl _ := id
  trans first later := later ∘ first
  -- Joining and leaving are the only commands that touch the roster.
  perform w c distinct := by
    cases c with
    | enroll listener => exact distinct.add listener
    | dismiss listener => exact distinct.remove listener
    | traverse target =>
      rw [perform_traverse]
      exact distinct
    | _ => exact distinct
  called _ _ _ := id
  failed _ _ _ _ := id
  told _ _ _ := id
  context _ _ := id
  -- A step may be reported to the sink, which is no part of the roster.
  meet w step distinct := by
    obtain ⟨sink, same⟩ := engine_meet w step
    rw [same]
    exact distinct
  opened _ _ := id
  closed _ _ _ := id
  stopped _ := id

/-- So whoever starts with a new engine never has anybody on the roster twice. -/
theorem distinct_execute (cast : Cast σ) (p : Program σ ε α) {w : World σ}
    (distinct : w.engine.roster.Distinct) : (execute cast p w).2.engine.roster.Distinct :=
  maintained_distinct.execute cast p w distinct

end World

/-! ### What holds of an admitted traversal -/

section

variable {σ : Type} (cast : Cast σ) (target : Target) (w : World σ)

/-- **The life of a traversal**, from the moves at its beginning over those in the middle to
those at its end, and what it comes to. -/
structure Lifecycle (begins middle ends : List (Move σ))
    (ran : Except TraversalError Summary × World σ) : Prop where
  /-- Each move starts in the world that the one before has left. -/
  proceeds : ∃ ran', Proceeds cast target.imports (w.opened target) (begins ++ middle ++ ends) ran'
  /-- Nothing happens besides the moves. -/
  journal : ran.2.journal.toList = w.journal.toList ++ (begins ++ middle ++ ends).map Move.entry
  /-- First everyone on the roster is told. -/
  begun : begins.map Move.entry = w.engine.roster.members.map (Entry.told · .begin)
  /-- In the middle nobody is. -/
  untold : ∀ m ∈ middle, m.entry.isTold = false
  /-- A failure is passed on, and no error comes from anywhere else. -/
  error : ∀ cause, ran.1 = .error (.callback cause) ↔
    ∃ m ∈ middle, m.Fails cast target.imports cause
  /-- The first callback that fails is the last move, and what it leaves is what remains. -/
  aborted : ∀ m ∈ middle, ∀ cause, m.Fails cast target.imports cause →
    ends = [] ∧ ran.2 = (m.result cast target.imports).2.setRunning false ∧
      ∃ earlier, middle = earlier ++ [m] ∧
        ∀ m' ∈ earlier, ∀ cause', ¬ m'.Fails cast target.imports cause'
  /-- Without a failure everyone who is on the roster then is told, and each is there once. -/
  completed : (∀ m ∈ middle, ∀ cause, ¬ m.Fails cast target.imports cause) →
    ∃ last summary,
      Proceeds cast target.imports (w.opened target) (begins ++ middle) (.ok (), last) ∧
      last.engine.roster.Distinct ∧
      ends.map Move.entry = last.engine.roster.members.map (Entry.told · .finish) ∧
      ran.1 = .ok summary

variable {cast target w}

theorem Move.not_fails_of_ok {imports : Imports} {moves : List (Move σ)}
    (fine : ∀ m ∈ moves, (m.result cast imports).1 = .ok ()) :
    ∀ m ∈ moves, ∀ cause, ¬ m.Fails cast imports cause := by
  intro m mem cause fails
  exact nomatch (fine m mem).symm.trans ((Move.fails_iff cast imports).1 fails)

/-- **An admitted traversal has such a life.** -/
theorem Conduct.lifecycle {begins middle ends : List (Move σ)}
    {ran : Except TraversalError Summary × World σ}
    (conduct : Conduct cast target w begins middle ends ran)
    (told : begins.map Move.entry = w.engine.roster.members.map (Entry.told · .begin))
    (untold : ∀ m ∈ middle, m.entry.isTold = false) (distinct : w.engine.roster.Distinct) :
    Lifecycle cast target w begins middle ends ran := by
  -- What is taken down in the journal is what the moves enter, whichever way they end.
  obtain ⟨ran', whole, journal, -⟩ := conduct.proceeds
  have taken : ran.2.journal.toList =
      w.journal.toList ++ (begins ++ middle ++ ends).map Move.entry := by
    rw [journal]
    exact whole.journal
  cases conduct with
  | @aborted w₁ w₂ cause begun fails =>
    -- The middle ends with the one move that fails.
    obtain ⟨earlier, last, rfl, fine, result⟩ := fails.failed
    have failed : last.Fails cast target.imports cause :=
      (Move.fails_iff cast target.imports).2 (congrArg Prod.fst result)
    -- Every earlier move went well, so the last one is the only one that fails.
    have only : ∀ m ∈ earlier ++ [last], ∀ cause', m.Fails cast target.imports cause' →
        m = last ∧ cause' = cause := by
      intro m mem cause' fails'
      rcases List.mem_append.1 mem with mem | mem
      · exact absurd fails' (Move.not_fails_of_ok fine m mem cause')
      · obtain rfl := List.mem_singleton.1 mem
        have both := ((Move.fails_iff cast target.imports).1 fails').symm.trans
          (congrArg Prod.fst result)
        exact ⟨rfl, Except.error.inj both⟩
    have here : last ∈ earlier ++ [last] := List.mem_append_right _ (List.mem_singleton_self _)
    refine ⟨⟨ran', whole⟩, taken, told, untold, fun cause' => ⟨fun same => ?_, ?_⟩, ?_, ?_⟩
    · obtain rfl := TraversalError.callback.inj (Except.error.inj same)
      exact ⟨last, here, failed⟩
    · rintro ⟨m, mem, fails'⟩
      rw [(only m mem cause' fails').2]
    · intro m mem cause' fails'
      obtain ⟨rfl, -⟩ := only m mem cause' fails'
      exact ⟨rfl, by rw [result], earlier, rfl, Move.not_fails_of_ok fine⟩
    · exact fun none => absurd failed (none last here cause)
  | @completed ends w₁ w₂ w₃ summary begun goes ended told' =>
    -- Nothing failed, so there is no cause to account for.
    have fine := Move.not_fails_of_ok goes.succeeded
    refine ⟨⟨ran', whole⟩, taken, told, untold, fun cause => ⟨nofun, ?_⟩, ?_, fun _ => ?_⟩
    · rintro ⟨m, mem, fails⟩
      exact absurd fails (fine m mem cause)
    · exact fun m mem cause fails => absurd fails (fine m mem cause)
    · -- Listeners may have changed the roster on the way, but nobody came onto it twice.
      have kept : w₂.engine.roster.Distinct :=
        ((begun.append goes).respected World.maintained_distinct.toRespected
          World.maintained_distinct.meet).2 distinct
      exact ⟨w₂, summary, begun.append goes, kept, told', rfl⟩

end

namespace World

variable {σ : Type}

/-- A traversal that is not admitted is refused, and nothing changes. -/
theorem traverse_refused (cast : Cast σ) {target : Target} {w : World σ}
    (refused : ¬ target.Walkable ∨ w.engine.running = true) :
    ∃ v, traverse cast target w = (.error (.violation v), w) := by
  unfold traverse enter
  cases admitted : w.engine.admission target with
  | error v => exact ⟨v, rfl⟩
  | ok _ =>
    obtain ⟨walkable, free⟩ := Engine.admission_eq_ok.1 admitted
    rcases refused with unwalkable | running
    · exact absurd walkable unwalkable
    · rw [running] at free
      exact nomatch free

/-- **How a traversal begins and ends.** If there is nothing to be traversed, or a traversal is
running already, it is refused and nothing changes. Otherwise everyone on the roster is told
once that it begins, before anything else happens. It comes to an error of a callback exactly
if one fails, and then to that of the first that fails: this is the last move, nobody is told of
an end, and the world stays as the callback has left it. If none fails, everyone on the roster
by then is told once that it is over, and the traversal succeeds. -/
theorem traverse_lifecycle (cast : Cast σ) (target : Target) (w : World σ)
    (distinct : w.engine.roster.Distinct) :
    (¬ target.Walkable ∨ w.engine.running = true →
      ∃ v, traverse cast target w = (.error (.violation v), w)) ∧
    (target.Walkable → w.engine.running = false → ∃ begins middle ends,
      Lifecycle cast target w begins middle ends (traverse cast target w)) := by
  refine ⟨traverse_refused cast, fun walkable free => ?_⟩
  have admitted : w.engine.admission target = .ok () :=
    Engine.admission_eq_ok.2 ⟨walkable, free⟩
  obtain ⟨begins, middle, ends, conduct, told, untold⟩ := conduct_traverse cast admitted
  exact ⟨begins, middle, ends, conduct.lifecycle told untold distinct⟩

/-! ### A listener that fails -/

namespace Failing

def root : Node := .node 0 .empty (.classDecl "C" [])

def target : Target := .declaration root []

def first : Handle := ⟨0, "first"⟩

def second : Handle := ⟨1, "second"⟩

def bystander : Handle := ⟨2, "bystander"⟩

/-- A world in which two listeners wait for classes and one for the boundaries. -/
def world : World Nat :=
  ⟨{ Engine.new .default .log with
      registry := .built [.register first (some .classDecl), .register second (some .classDecl)]
      roster := (Roster.empty.add bystander).2 },
    .empty, 1, #[], #[], 0⟩

/-- The first listener writes something down, and the second fails. -/
def failing : Cast Nat where
  onEvent listener _ _ :=
    if listener = first then .ask (.setOwn 7) fun _ => .done () else .fail (.failed "enough")
  onBoundary _ _ := .done ()

theorem traverse_root :
    (traverse failing target world).1 = .error (.callback (.failed "enough")) ∧
      (traverse failing target world).2.own = 7 := by
  change (walk shut failing target world).1 = _ ∧ (walk shut failing target world).2.own = _
  rw [walk_eq, target, root, steps_bare_class]
  exact ⟨rfl, rfl⟩

end Failing

open Failing in
/-- The second listener fails after the first has written something down. That stays, and whoever
was told of the beginning is not told of an end. -/
theorem traverse_lifecycle_failing :
    world.engine.roster.Distinct ∧
    (traverse failing target world).1 = .error (.callback (.failed "enough")) ∧
    (traverse failing target world).2.own = 7 ∧
    ∃ begins middle ends,
      Lifecycle failing target world begins middle ends (traverse failing target world) ∧
      begins.map Move.entry = [.told bystander .begin] ∧ ends = [] := by
  have distinct : world.engine.roster.Distinct := Roster.distinct_empty.add bystander
  obtain ⟨-, admitted⟩ := traverse_lifecycle failing target world distinct
  obtain ⟨begins, middle, ends, life⟩ := admitted rfl rfl
  obtain ⟨m, mem, fails⟩ := (life.error _).1 traverse_root.1
  obtain ⟨none, -, -⟩ := life.aborted m mem _ fails
  exact ⟨distinct, traverse_root.1, traverse_root.2, begins, middle, ends, life, life.begun, none⟩

end World

end SyntaxTour
