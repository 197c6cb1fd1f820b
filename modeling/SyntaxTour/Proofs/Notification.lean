import SyntaxTour.Proofs.Lifecycle
import SyntaxTour.Proofs.Lineup

/-!
# Notifications by snapshot

Boundary listeners are added to the roster and removed from it, and those who are on it are told
of a boundary when it is fired. Whoever is told may add and remove listeners in its turn, itself
and those included who are still to be told. Each change finds the roster as the one before has
left it, but it makes no difference to who is told of the boundary that is being fired.

* `Roster.Change` is one change to a roster, and `Roster.Deed` a change that was made, with the
  roster before and after it and the answer. `Lineup.enrolled` is the row of members that is left
  by a list of them.
* `Roster.History` says that deeds follow one after the other; `History.of_split` tells what each
  of them has found.
* `World.deeds` lists what a program does to the roster, and `World.tellings` those who are told
  of a boundary with what they do. `World.history_run` and `World.history_tellAll` say that
  nothing else is done to the roster.
* `World.outcomes` is what comes of a sequence of calls from outside, each of them a change or a
  boundary that is fired, and `World.notified_by_snapshot` is the statement about all sequences.
-/

namespace SyntaxTour

/-! ### Changes to a roster -/

namespace Roster

/-- One change to a roster. -/
inductive Change where
  | add (listener : Handle)
  | remove (listener : Handle)
  deriving DecidableEq, Repr

/-- Making a change, with its answer. -/
def change (r : Roster) : Change → Bool × Roster
  | .add listener => r.add listener
  | .remove listener => r.remove listener

/-- Whether a change makes a difference to a row of members: whoever is added is not there yet,
and whoever is removed is. -/
def Change.Counts (members : List Handle) : Change → Prop
  | .add listener => ∀ m ∈ members, m.id ≠ listener.id
  | .remove listener => ∃ m ∈ members, m.id = listener.id

/-- **A change that was made**, with the roster that it found, its answer and the roster that it
left. -/
structure Deed where
  change : Change
  before : Roster
  answer : Bool
  after : Roster

/-- **Deeds one after the other**: each finds the roster that the one before has left. -/
inductive History : Roster → List Deed → Roster → Prop where
  | done (r : Roster) : History r [] r
  | next {r r' : Roster} (c : Change) {deeds : List Deed} :
    History (r.change c).2 deeds r' →
      History r (⟨c, r, (r.change c).1, (r.change c).2⟩ :: deeds) r'

/-- A single deed. -/
theorem History.single (r : Roster) (c : Change) :
    History r [⟨c, r, (r.change c).1, (r.change c).2⟩] (r.change c).2 :=
  .next c (.done _)

end Roster

/-- A row of members after a change: whoever is added comes in at the end unless it is there, and
whoever is removed makes no difference to the others. -/
def Lineup.enroll (row : Lineup) : Roster.Change → Lineup
  | .add listener => row.register listener
  | .remove listener => row.unregister listener

/-- **Who is on a roster** that was new at the beginning, after a list of deeds. -/
def Lineup.enrolled (deeds : List Roster.Deed) : Lineup :=
  deeds.foldl (fun row d => row.enroll d.change) empty

/-- Nobody is twice on a roster that has the members of a row. -/
theorem Lineup.distinct_of_members {r : Roster} {row : Lineup} (same : r.members = row.members) :
    r.Distinct := by
  unfold Roster.Distinct
  rw [same]
  exact row.distinct

namespace Roster

section

variable {r r' r'' : Roster} {row : Lineup} {deeds later : List Deed}

theorem members_change (same : r.members = row.members) (c : Change) :
    (r.change c).2.members = (row.enroll c).members := by
  cases c with
  | add listener =>
    change (r.add listener).2.members = (row.register listener).members
    unfold add contains Lineup.register
    rw [same]
    split
    · next there => rw [dif_neg (by rw [there]; exact Bool.false_ne_true.symm), same]
    · next absent => rw [dif_pos (Bool.not_eq_true _ ▸ absent)]
  | remove listener =>
    change (r.remove listener).2.members = (row.unregister listener).members
    unfold remove Lineup.unregister
    rw [same]

/-- A change is answered with yes exactly if it makes a difference. -/
theorem answer_change (r : Roster) (c : Change) :
    (r.change c).1 = true ↔ c.Counts r.members := by
  cases c with
  | add listener =>
    change (r.add listener).1 = true ↔ ∀ m ∈ r.members, m.id ≠ listener.id
    unfold add contains
    split
    · next there =>
      obtain ⟨m, mem, same⟩ := Registry.any_same_iff.mp there
      exact iff_of_false Bool.false_ne_true fun absent => absent m mem same
    · next absent =>
      exact iff_of_true rfl fun m mem same => absent (Registry.any_same_iff.mpr ⟨m, mem, same⟩)
  | remove listener => exact Registry.any_same_iff

namespace History

theorem append (first : History r deeds r') (second : History r' later r'') :
    History r (deeds ++ later) r'' := by
  induction first with
  | done r => exact second
  | next c _ ih => exact .next c (ih second)

/-- What a roster is after its deeds is a matter of the changes that they were. -/
theorem members (history : History r deeds r') (same : r.members = row.members) :
    r'.members = (deeds.foldl (fun row d => row.enroll d.change) row).members := by
  -- The row goes along with the roster, so it is another one for the rest of the history.
  induction history generalizing row with
  | done r => exact same
  | next c _ ih => exact ih (members_change same c)

/-- **What one of the deeds has found**, answered and left. -/
theorem of_split {done left : List Deed} {d : Deed} (history : History r (done ++ d :: left) r') :
    History r done d.before ∧ d.answer = (d.before.change d.change).1 ∧
      d.after = (d.before.change d.change).2 := by
  induction done generalizing r with
  | nil =>
    cases history with
    | next c _ => exact ⟨.done r, rfl, rfl⟩
  | cons first done ih =>
    cases history with
    | next c rest =>
      obtain ⟨earlier, found⟩ := ih rest
      exact ⟨.next c earlier, found⟩

end History

end

/-! ### Calls from outside -/

/-- **One call on a roster**: a change, or a boundary that is fired. -/
inductive Call where
  | change (c : Change)
  | fire (boundary : Boundary)
  deriving DecidableEq, Repr

/-- One listener that is told of a boundary, with what it does to the roster then. -/
structure Telling where
  listener : Handle
  deeds : List Deed

/-- **What comes of a call**: a change that was made, or a row of listeners that were told. -/
inductive Outcome where
  | changed (d : Deed)
  | fired (boundary : Boundary) (tellings : List Telling)

namespace Outcome

/-- All that was done to the roster meanwhile. -/
def deeds : Outcome → List Deed
  | changed d => [d]
  | fired _ tellings => tellings.flatMap Telling.deeds

/-- What the journal has of it. -/
def entries : Outcome → List Entry
  | changed _ => []
  | fired boundary tellings => tellings.map fun t => .told t.listener boundary

end Outcome

end Roster

namespace World

open Roster (History Deed Telling Call Outcome)

variable {σ ε α : Type}

/-! ### What is done to the roster of a world -/

/-- Making a change to the roster, as a listener or somebody outside does. -/
def alter (w : World σ) : Roster.Change → Bool × World σ
  | .add listener => w.perform shut (.enroll listener)
  | .remove listener => w.perform shut (.dismiss listener)

/-- A change as it is made in a world. -/
def deed (w : World σ) (c : Roster.Change) : Deed :=
  ⟨c, w.engine.roster, (w.alter c).1, (w.alter c).2.engine.roster⟩

theorem history_alter (w : World σ) (c : Roster.Change) :
    History w.engine.roster [w.deed c] (w.alter c).2.engine.roster := by
  cases c with
  | add listener => exact .single _ (.add listener)
  | remove listener => exact .single _ (.remove listener)

end World

/-- The change to the roster that a command asks for, if any. -/
def Command.enrolment? {σ : Type} : Command σ → Option Roster.Change
  | .enroll listener => some (.add listener)
  | .dismiss listener => some (.remove listener)
  | _ => none

namespace World

open Roster (History Deed Telling Call Outcome)

variable {σ ε α : Type}

/-- **What a program does to the roster**, in order, when it is run in a world. -/
def deeds : Program σ ε α → World σ → List Deed
  | .done _, _ => []
  | .fail _, _ => []
  | .ask c next, w =>
    (c.enrolment?.map w.deed).toList ++ deeds (next (w.perform shut c).1) (w.perform shut c).2

theorem history_perform (w : World σ) (c : Command σ) :
    History w.engine.roster (c.enrolment?.map w.deed).toList
      (w.perform shut c).2.engine.roster := by
  cases c with
  | enroll listener => exact w.history_alter (.add listener)
  | dismiss listener => exact w.history_alter (.remove listener)
  | traverse target =>
    -- Nothing comes of a traversal that is asked for here.
    rw [perform_traverse]
    exact .done _
  | _ => exact .done _

/-- **Programs do nothing else to the roster.** -/
theorem history_run (p : Program σ ε α) (w : World σ) :
    History w.engine.roster (deeds p w) (run shut p w).2.engine.roster := by
  induction p generalizing w with
  | done a => exact .done _
  | fail e => exact .done _
  | ask c next ih => exact (w.history_perform c).append (ih _ _)

section

variable (cast : Cast σ)

/-- Those who are told of a boundary one after the other, with what they do to the roster. -/
def tellings (boundary : Boundary) : List Handle → World σ → List Telling
  | [], _ => []
  | listener :: listeners, w =>
    ⟨listener, deeds (cast.onBoundary listener boundary)
        { w.record (.told listener boundary) with context := .empty }⟩ ::
      tellings boundary listeners (w.tell shut cast boundary listener)

/-- Everyone in a row is told, in the order of the row. -/
theorem listeners_tellings (boundary : Boundary) (listeners : List Handle) (w : World σ) :
    (tellings cast boundary listeners w).map (·.listener) = listeners := by
  induction listeners generalizing w with
  | nil => rfl
  | cons listener listeners ih =>
    exact congrArg (listener :: ·) (ih (w.tell shut cast boundary listener))

/-- **Firing a boundary** does to the roster what those do who are told. -/
theorem history_tellAll (boundary : Boundary) (w : World σ) :
    History w.engine.roster
      ((tellings cast boundary w.engine.roster.members w).flatMap Telling.deeds)
      (w.tellAll shut cast boundary).engine.roster := by
  rw [tellAll_eq_foldl]
  -- From here on the row of those who are told is fixed, and only the world changes on the way.
  generalize w.engine.roster.members = members
  induction members generalizing w with
  | nil => exact .done _
  | cons listener members ih =>
    have first : History w.engine.roster
        (deeds (cast.onBoundary listener boundary)
          { w.record (.told listener boundary) with context := .empty })
        (w.tell shut cast boundary listener).engine.roster :=
      history_run (cast.onBoundary listener boundary)
        { w.record (.told listener boundary) with context := .empty }
    exact first.append (ih (w.tell shut cast boundary listener))

/-- Everyone on the roster is told of the boundary, and nobody else is told of anything. -/
theorem journal_tellAll (boundary : Boundary) (w : World σ) :
    (w.tellAll shut cast boundary).journal.toList =
      w.journal.toList ++ w.engine.roster.members.map (Entry.told · boundary) := by
  obtain ⟨moves, proceeds, entries⟩ := proceeds_tellAll cast [] boundary w
  rw [← entries]
  exact proceeds.journal

/-! ### Sequences of calls -/

/-- Carrying out a call on the roster. -/
def act (w : World σ) : Call → Outcome × World σ
  | .change c => (.changed (w.deed c), (w.alter c).2)
  | .fire boundary =>
    (.fired boundary (tellings cast boundary w.engine.roster.members w),
      w.tellAll shut cast boundary)

/-- What comes of a sequence of calls, the first one first. -/
def outcomes : List Call → World σ → List Outcome
  | [], _ => []
  | c :: calls, w => (w.act cast c).1 :: outcomes calls (w.act cast c).2

/-- The world after a sequence of calls. -/
def acted (calls : List Call) (w : World σ) : World σ :=
  calls.foldl (fun w c => (w.act cast c).2) w

/-- A call does to the roster what its outcome tells, and takes down who is told. -/
theorem history_act (w : World σ) (c : Call) :
    History w.engine.roster (w.act cast c).1.deeds (w.act cast c).2.engine.roster ∧
      (w.act cast c).2.journal.toList = w.journal.toList ++ (w.act cast c).1.entries := by
  cases c with
  -- A call from outside is told to nobody, so the journal is as it was.
  | change c =>
    refine ⟨w.history_alter c, ?_⟩
    have untouched : (w.alter c).2.journal = w.journal := by
      cases c with
      | add listener => exact journal_perform w (.enroll listener)
      | remove listener => exact journal_perform w (.dismiss listener)
    exact (congrArg Array.toList untouched).trans (List.append_nil _).symm
  | fire boundary =>
    -- A firing enters whoever is on the roster now, whatever they do while they are told.
    have entries : (w.act cast (.fire boundary)).1.entries =
        w.engine.roster.members.map (Entry.told · boundary) := by
      conv_rhs => rw [← listeners_tellings cast boundary w.engine.roster.members w, List.map_map]
      rfl
    rw [entries]
    exact ⟨history_tellAll cast boundary w, journal_tellAll cast boundary w⟩

/-- So does a sequence of calls. -/
theorem history_acted (calls : List Call) (w : World σ) :
    History w.engine.roster ((outcomes cast calls w).flatMap Outcome.deeds)
        (acted cast calls w).engine.roster ∧
      (acted cast calls w).journal.toList =
        w.journal.toList ++ (outcomes cast calls w).flatMap Outcome.entries := by
  induction calls generalizing w with
  | nil => exact ⟨.done _, (List.append_nil _).symm⟩
  | cons c calls ih =>
    obtain ⟨first, taken⟩ := history_act cast w c
    obtain ⟨later, journal⟩ := ih (w.act cast c).2
    refine ⟨first.append later, journal.trans ?_⟩
    rw [taken, outcomes, List.flatMap_cons, List.append_assoc]

/-- Whenever a boundary is fired, those are told who are on the roster that is left by the calls
before. -/
theorem listeners_of_fired (calls : List Call) (w : World σ) {earlier later : List Outcome}
    {boundary : Boundary} {told : List Telling}
    (split : outcomes cast calls w = earlier ++ .fired boundary told :: later) :
    ∃ r, History w.engine.roster (earlier.flatMap Outcome.deeds) r ∧
      told.map (·.listener) = r.members := by
  induction calls generalizing w earlier with
  | nil => exact absurd split.symm (List.append_ne_nil_of_right_ne_nil _ (List.cons_ne_nil _ _))
  | cons c calls ih =>
    cases earlier with
    | nil =>
      -- It is the call at hand that fires the boundary.
      obtain ⟨here, -⟩ := List.cons.inj split
      cases c with
      | change c => cases here
      | fire boundary' =>
        obtain ⟨rfl, rfl⟩ := Outcome.fired.inj here
        exact ⟨w.engine.roster, .done _, listeners_tellings cast boundary' _ w⟩
    | cons first earlier =>
      -- It is a later one, and what the call at hand does to the roster comes before.
      obtain ⟨rfl, rest⟩ := List.cons.inj split
      obtain ⟨r, history, listeners⟩ := ih (w.act cast c).2 rest
      exact ⟨r, (history_act cast w c).1.append history, listeners⟩

/-- **Notifications go by snapshot.** Let a roster be new, and let any calls be made: changes, and
boundaries that are fired, where those who are told run any programs. Each change, whether it comes
from outside or from a listener that is told, finds on the roster those whom the changes before
have left there, none of them twice. It is answered with yes exactly if it makes a difference, and
leaves whom it should. A boundary is fired to those who are on the roster when that begins, each
once and in their order, whatever they do to it meanwhile; nobody else is told of anything, and
what they did counts from the next boundary on. -/
theorem notified_by_snapshot (calls : List Call) (w : World σ)
    (new : w.engine.roster = .empty) :
    let done := (outcomes cast calls w).flatMap Outcome.deeds
    (∀ before d after, done = before ++ d :: after →
      d.before.members = (Lineup.enrolled before).members ∧
      d.before.Distinct ∧
      (d.answer = true ↔ d.change.Counts d.before.members) ∧
      d.after.members = ((Lineup.enrolled before).enroll d.change).members) ∧
    (∀ earlier boundary told later,
      outcomes cast calls w = earlier ++ .fired boundary told :: later →
        told.map (·.listener) =
            (Lineup.enrolled (earlier.flatMap Outcome.deeds)).members ∧
          (told.map (·.listener.id)).Nodup) ∧
    (acted cast calls w).engine.roster.members = (Lineup.enrolled done).members ∧
    (acted cast calls w).engine.roster.Distinct ∧
    (acted cast calls w).journal.toList =
      w.journal.toList ++ (outcomes cast calls w).flatMap Outcome.entries := by
  intro done
  -- A new roster shows the empty line, and from there the history is followed.
  have start : w.engine.roster.members = Lineup.empty.members := congrArg Roster.members new
  obtain ⟨history, journal⟩ := history_acted cast calls w
  have left : (acted cast calls w).engine.roster.members = (Lineup.enrolled done).members :=
    history.members start
  refine ⟨fun before d after split => ?_, fun earlier boundary told later split => ?_, left, ?_,
    journal⟩
  · -- The deed is cut out of the history of everything that was done.
    rw [show (outcomes cast calls w).flatMap Outcome.deeds = _ from split] at history
    obtain ⟨earlier, answered, changed⟩ := history.of_split
    have found : d.before.members = (Lineup.enrolled before).members := earlier.members start
    refine ⟨found, Lineup.distinct_of_members found, ?_, ?_⟩
    · rw [answered]
      exact Roster.answer_change d.before d.change
    · rw [changed]
      exact Roster.members_change found d.change
  · -- Those who are told are on the roster that the deeds before have left.
    obtain ⟨r, earlier, listeners⟩ := listeners_of_fired cast calls w split
    have found := listeners.trans (earlier.members start)
    refine ⟨found, ?_⟩
    have ids : told.map (·.listener.id) = (told.map (·.listener)).map (·.id) := by
      rw [List.map_map]
      rfl
    rw [ids, found]
    exact (Lineup.enrolled _).distinct
  · -- The same holds of the roster that is left at the end.
    exact Lineup.distinct_of_members left

end

/-! ### A listener that leaves and comes back -/

namespace Unsettled

def first : Handle := ⟨0, "first"⟩

def second : Handle := ⟨1, "second"⟩

def third : Handle := ⟨2, "third"⟩

def fourth : Handle := ⟨3, "fourth"⟩

/-- A world in which nobody is on the roster. -/
def world : World Nat := ⟨Engine.new .default .log, .empty, 0, #[], #[], 0⟩

/-- At the beginning the first listener leaves and comes back, sends away one who is still to be
told, and brings in another. -/
def unsettled : Cast Nat where
  onEvent _ _ _ := .done ()
  onBoundary listener boundary :=
    if listener = first ∧ boundary = .begin then
      .ask (.dismiss first) fun _ => .ask (.dismiss third) fun _ =>
        .ask (.enroll first) fun _ => .ask (.enroll fourth) fun _ => .done ()
    else .done ()

def calls : List Call :=
  [.change (.add first), .change (.add second), .change (.add third), .change (.add second),
    .fire .begin, .fire .finish]

end Unsettled

open Unsettled in
/-- At the beginning the first listener goes behind the second, sends the third away and brings in
a fourth. The third is told of the beginning nevertheless, and the fourth of the end only. -/
theorem notified_by_snapshot_unsettled :
    world.engine.roster = .empty ∧
    (acted unsettled calls world).engine.roster.members = [second, first, fourth] ∧
    (acted unsettled calls world).engine.roster.Distinct ∧
    (acted unsettled calls world).journal.toList =
      [.told first .begin, .told second .begin, .told third .begin,
        .told second .finish, .told first .finish, .told fourth .finish] := by
  obtain ⟨-, -, left, distinct, journal⟩ := notified_by_snapshot unsettled calls world rfl
  exact ⟨rfl, left.trans rfl, distinct, journal.trans rfl⟩

end World

end SyntaxTour
