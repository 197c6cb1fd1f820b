import SyntaxTour.Proofs.Exclusion
import SyntaxTour.Proofs.Frames
import SyntaxTour.Proofs.Independence
import SyntaxTour.Proofs.Registration

/-!
# A file and its declarations

A file is traversed in one go: there is one beginning, then the declarations are toured one after
the other, and there is one end. When nobody waits for beginnings and ends this comes to the same
as one traversal for each of the declarations. Nothing is left behind by one declaration that the
next one could notice, but for what the listeners did and the frames in the log.

* `Program.traverseEach` asks for the traversals one after the other, until one fails.
* `World.told` is what boundary listeners were told so far. `World.told_tellAll` says that everyone
  on the roster is told, so that the roster is empty where nobody is.
* `World.Alongside` relates a world between two of the traversals to one in the middle of that of
  the file. One declaration leads from such worlds to such worlds (`Alongside.traverse`), and so
  does a row of them (`Alongside.execute`).
* `World.traverse_file_each` is what this means for a file.
-/

namespace SyntaxTour

namespace Program

variable {σ ε α : Type}

/-- Ending as a reply says. -/
def ofExcept : Except ε α → Program σ ε α
  | .ok a => done a
  | .error e => fail e

/-- **Asking for a traversal of each declaration**, one after the other, until one fails. -/
def traverseEach (imports : Imports) (ds : List Node) :
    Program σ TraversalError (List Summary) :=
  ds.mapM fun d => ask (.traverse (.declaration d imports)) ofExcept

end Program

namespace Summary

/-- The sum of some counts. -/
def total (summaries : List Summary) : Summary := summaries.foldr add zero

theorem ofSteps_append (steps further : List Step) :
    ofSteps (steps ++ further) = (ofSteps steps).add (ofSteps further) := by
  simp [ofSteps_eq, add, List.countP_append]

end Summary

namespace World

variable {σ : Type} (cast : Cast σ) (imports : Imports)

/-! ### What boundary listeners are told -/

/-- What boundary listeners were told so far. -/
def told (w : World σ) : List Entry := w.journal.toList.filter Entry.isTold

theorem told_of_journal {w w' : World σ} (same : w'.journal = w.journal) : w'.told = w.told := by
  rw [told, same, ← told]

theorem prefix_told_record (w : World σ) (entry : Entry) : w.told <+: (w.record entry).told := by
  rw [told, told, record, Array.toList_push, List.filter_append]
  exact List.prefix_append _ _

theorem maintained_told : Maintained fun w w' : World σ => w.told <+: w'.told where
  refl _ := List.prefix_refl _
  trans := List.IsPrefix.trans
  perform w c := told_of_journal (upheld_journal.perform w c) ▸ List.prefix_refl _
  called w _ _ := prefix_told_record w _
  failed _ _ _ _ := List.prefix_refl _
  told w _ _ := prefix_told_record w _
  context _ _ := List.prefix_refl _
  meet w step := told_of_journal (journal_meet w step) ▸ prefix_told_record w _
  opened _ _ := List.prefix_refl _
  closed _ _ _ := List.prefix_refl _
  stopped _ := List.prefix_refl _

variable {cast imports} in
/-- What a row of moves tells them is what those of its moves are that do. -/
theorem told_of_proceeds {w : World σ} {moves : List (Move σ)}
    {ran : Except CallbackError Unit × World σ} (proceeds : Proceeds cast imports w moves ran) :
    ran.2.told = w.told ++ (moves.map Move.entry).filter Entry.isTold := by
  rw [told, proceeds.journal, List.filter_append, ← told]

/-- While steps are announced they are told nothing. -/
theorem told_steps (steps : List Step) (w : World σ) :
    ((steps.forM (announce shut cast imports)).run.run w).2.told = w.told := by
  obtain ⟨moves, proceeds, untold⟩ :=
    proceeds_forM cast imports (proceeds_announce cast imports) steps w
  -- Steps and callbacks are the only moves, and neither is in what was told.
  rw [told_of_proceeds proceeds, List.filter_eq_nil_iff.2, List.append_nil]
  intro entry mem
  obtain ⟨m, memm, rfl⟩ := List.mem_map.1 mem
  exact Bool.eq_false_iff.1 (untold m memm)

/-- At a boundary everyone on the roster is told. -/
theorem told_tellAll (boundary : Boundary) (w : World σ) :
    (w.tellAll shut cast boundary).told =
      w.told ++ w.engine.roster.members.map (Entry.told · boundary) := by
  obtain ⟨moves, proceeds, entries⟩ := proceeds_tellAll cast [] boundary w
  rw [told_of_proceeds proceeds, entries, List.filter_eq_self.2]
  intro entry mem
  obtain ⟨listener, -, rfl⟩ := List.mem_map.1 mem
  rfl

theorem tellAll_of_vacant (boundary : Boundary) {w : World σ}
    (vacant : w.engine.roster.members = []) : w.tellAll shut cast boundary = w := by
  rw [tellAll_eq_foldl, vacant]
  rfl

/-! ### One traversal -/

/-- What a traversal of some steps answers, by how announcing them ended. -/
def answer (steps : List Step) : Except CallbackError Unit → Except TraversalError Summary
  | .ok () => .ok (.ofSteps steps)
  | .error cause => .error (.callback cause)

section

variable {target : Target} {w : World σ} {steps : List Step}
  {ran : Except CallbackError Unit × World σ}
  (admitted : w.engine.admission target = .ok ()) (vacant : w.engine.roster.members = [])
  (all : target.steps w.engine.settings.descendIntoUnknown = steps)
  (runs : (steps.forM (announce shut cast target.imports)).run.run (w.opened target) = ran)

include admitted vacant all runs

/-- A traversal whose beginning nobody is told of starts with its steps. -/
theorem traverse_of_vacant :
    traverse cast target w =
      (answer steps ran.1,
        match ran.1 with
        | .ok () =>
          ((ran.2.tellAll shut cast .finish).note
            (target.closing (.ofSteps steps))).setRunning false
        | .error _ => ran.2.setRunning false) := by
  -- The beginning is told to nobody; the end may find whoever joined on the way.
  have begun : (w.opened target).tellAll shut cast .begin = w.opened target :=
    tellAll_of_vacant cast .begin vacant
  unfold opened at begun runs
  unfold traverse enter
  rw [admitted]
  dsimp only
  rw [walk_eq]
  dsimp only
  rw [all, begun, runs]
  -- A failed tour only loses the mark of being inside.
  match ran with
  | (.ok (), w₁) => rfl
  | (.error cause, w₁) => rfl

/-- If nobody is told of the end either, nobody is on the roster by then. -/
theorem vacant_of_untold (untold : (traverse cast target w).2.told = w.told)
    (ok : ran.1 = .ok ()) : ran.2.engine.roster.members = [] := by
  have before : ran.2.told = w.told := by
    rw [← runs]
    exact told_steps cast target.imports steps (w.opened target)
  rw [traverse_of_vacant cast admitted vacant all runs, ok] at untold
  -- After the end there are only a line in the log and the mark, which tell nobody anything.
  have after : (ran.2.tellAll shut cast .finish).told = w.told := untold
  rw [told_tellAll, before] at after
  exact List.map_eq_nil_iff.1 (List.append_right_eq_self.1 after)

/-- Then the traversal leaves what its steps have left, apart from frames. -/
theorem unframed_traverse (still : ran.1 = .ok () → ran.2.engine.roster.members = []) :
    (traverse cast target w).2.unframed = (ran.2.setRunning false).unframed := by
  rw [traverse_of_vacant cast admitted vacant all runs]
  match ran with
  | (.error cause, w₁) => rfl
  | (.ok (), w₁) =>
    have ended : w₁.tellAll shut cast .finish = w₁ := tellAll_of_vacant cast .finish (still rfl)
    dsimp only
    rw [ended]
    exact unframed_note_of_frames (w₁.setRunning false) (target.isFrame_of_mem_closing _)

end

/-! ### One traversal for each declaration -/

/-- **Between two traversals, and in the middle of one**: but for frames the two worlds differ in
the mark alone. -/
structure Alongside (u v : World σ) : Prop where
  free : u.engine.running = false
  same : v.unframed = (u.setRunning true).unframed

namespace Alongside

variable {u v : World σ}

theorem stopped (alongside : Alongside u v) : (v.setRunning false).unframed = u.unframed := by
  obtain ⟨free, same⟩ := alongside
  have unmarked : u.setRunning false = u := by
    rw [← free]
    rfl
  calc (v.setRunning false).unframed
      = v.unframed.setRunning false := rfl
    _ = (u.setRunning false).unframed := by rw [same]; rfl
    _ = u.unframed := by rw [unmarked]

theorem roster_eq (alongside : Alongside u v) : v.engine.roster = u.engine.roster := by
  have same := congrArg (fun w : World σ => w.engine.roster) alongside.stopped
  exact same

variable {cast imports}

/-- **One declaration, alone or with others**: the answer is that of its steps, and the two worlds
stay alongside. -/
theorem traverse (alongside : Alongside u v) (vacant : u.engine.roster.members = []) {d : Node}
    (rooted : d.kind = .classDecl)
    (untold : (World.traverse cast (.declaration d imports) u).2.told = u.told)
    {here : List Step} (one : tour u.engine.settings.descendIntoUnknown .topLevel [] d = here)
    {ran : Except CallbackError Unit × World σ}
    (runs : (here.forM (announce shut cast imports)).run.run v = ran) :
    (World.traverse cast (.declaration d imports) u).1 = answer here ran.1 ∧
      Alongside (World.traverse cast (.declaration d imports) u).2 ran.2 ∧
      (ran.1 = .ok () →
        (World.traverse cast (.declaration d imports) u).2.engine.roster.members = []) := by
  let target := Target.declaration d imports
  -- The engine lets the declaration in, and its steps are all there is to do.
  have admitted : u.engine.admission target = .ok () :=
    Engine.admission_eq_ok.2 ⟨rooted, alongside.free⟩
  have all : target.steps u.engine.settings.descendIntoUnknown = here :=
    (List.flatMap_singleton ..).trans one
  -- The declaration is toured in two worlds that differ in frames.
  have opened : (u.opened target).unframed = v.unframed := by
    rw [alongside.same, unframed_opened]
  have alike := run_steps_of_unframed cast imports opened here
  have running := respected_running.forM
    (respected_running.announce cast imports running_meet) here (u.opened target)
  rw [runs] at alike
  generalize toured : (here.forM (announce shut cast imports)).run.run (u.opened target) = ran₁
    at alike running
  obtain ⟨ended, u₁⟩ := ran₁
  obtain ⟨ended', v₁⟩ := ran
  obtain ⟨rfl, agree⟩ : ended = ended' ∧ u₁.unframed = v₁.unframed := Prod.mk.inj alike
  -- Nobody was told of this declaration either, so what it leaves is what its steps left.
  have still := vacant_of_untold cast admitted vacant all toured untold
  have left := unframed_traverse cast admitted vacant all toured still
  refine ⟨?_, ⟨?_, ?_⟩, fun ok => ?_⟩
  · -- Its answer is that of its steps.
    rw [traverse_of_vacant cast admitted vacant all toured]
  · exact (running_traverse cast target u).trans alongside.free
  · -- The mark that the end takes away is put back.
    have marked : u₁.setRunning true = u₁ := by
      rw [show true = u₁.engine.running from running.symm]
      rfl
    calc v₁.unframed
        = (u₁.setRunning true).unframed := by rw [marked, agree]
      _ = (u₁.setRunning false).unframed.setRunning true := rfl
      _ = ((World.traverse cast target u).2.setRunning true).unframed := by rw [← left]; rfl
  · exact (congrArg (fun w : World σ => w.engine.roster.members) left).trans (still ok)

end Alongside

theorem answer_append (steps further : List Step) (ended : Except CallbackError Unit) :
    answer (steps ++ further) ended =
      (answer further ended).map fun rest => (Summary.ofSteps steps).add rest := by
  match ended with
  | .ok () => exact congrArg Except.ok (Summary.ofSteps_append steps further)
  | .error cause => rfl

theorem execute_traverse (target : Target) (w : World σ) :
    execute cast (.ask (.traverse target) .ofExcept) w = traverse cast target w := by
  change run _ (.ofExcept (traverse cast target w).1) (traverse cast target w).2 = _
  generalize traverse cast target w = ran
  match ran with
  | (.ok summary, w₁) => rfl
  | (.error e, w₁) => rfl

theorem execute_traverseEach_cons (d : Node) (ds : List Node) (w : World σ) :
    execute cast (Program.traverseEach imports (d :: ds)) w =
      match traverse cast (.declaration d imports) w with
      | (.ok summary, w) =>
        Prod.map (Except.map (summary :: ·)) id (execute cast (Program.traverseEach imports ds) w)
      | (.error e, w) => (.error e, w) := by
  -- Running the row is binding its first traversal to the rest of the row.
  have first := execute_traverse cast (.declaration d imports) w
  unfold execute at first
  rw [Program.traverseEach, List.mapM_cons]
  unfold execute
  change run _ (Program.bind _ fun summary => Program.bind _ fun rest => .done (summary :: rest)) w
    = _
  rw [run_bind, first]
  -- The rest runs only when the first traversal has come to its end.
  generalize traverse cast (.declaration d imports) w = ran
  match ran with
  | (.error e, w₁) => rfl
  | (.ok summary, w₁) =>
    dsimp only
    rw [run_bind, ← Program.traverseEach]
    generalize run (walk shut cast) (Program.traverseEach imports ds) w₁ = ran
    match ran with
    | (.ok rest, w₂) => rfl
    | (.error e, w₂) => rfl

theorem prefix_told_traverseEach (d : Node) (ds : List Node) (w : World σ) :
    (traverse cast (.declaration d imports) w).2.told <+:
      (execute cast (Program.traverseEach imports (d :: ds)) w).2.told := by
  rw [execute_traverseEach_cons]
  generalize traverse cast (.declaration d imports) w = ran
  match ran with
  | (.error e, w₁) => exact List.prefix_refl _
  | (.ok summary, w₁) => exact maintained_told.execute cast (Program.traverseEach imports ds) w₁

/-- **The declarations of a row, one by one or in one go**: the answers of the traversals add up to
that of all the steps, and the two worlds stay alongside. -/
theorem Alongside.execute {ds : List Node} (classes : ∀ d ∈ ds, d.kind = .classDecl)
    {u v : World σ} (alongside : Alongside u v) (vacant : u.engine.roster.members = [])
    (untold : (World.execute cast (Program.traverseEach imports ds) u).2.told = u.told)
    {steps : List Step}
    (all : ds.flatMap (tour u.engine.settings.descendIntoUnknown .topLevel []) = steps)
    {ran : Except CallbackError Unit × World σ}
    (runs : (steps.forM (announce shut cast imports)).run.run v = ran) :
    (World.execute cast (Program.traverseEach imports ds) u).1.map Summary.total =
        answer steps ran.1 ∧
      Alongside (World.execute cast (Program.traverseEach imports ds) u).2 ran.2 ∧
      (ran.1 = .ok () →
        (World.execute cast (Program.traverseEach imports ds) u).2.engine.roster.members = []) := by
  induction ds generalizing u v steps ran with
  | nil =>
    subst all runs
    exact ⟨rfl, alongside, fun _ => vacant⟩
  | cons d ds ih =>
    -- What is told is told for good, so the first traversal tells nothing.
    have quiet : (World.traverse cast (.declaration d imports) u).2.told = u.told := by
      have early := maintained_told.traverse cast (.declaration d imports) u
      have whole := prefix_told_traverseEach cast imports d ds u
      rw [untold] at whole
      exact (early.eq_of_length_le whole.length_le).symm
    -- The settings are kept too, so the tours of the declarations left are the same tours.
    have settings := (maintained_accounted.traverse cast (.declaration d imports) u).settings
    obtain ⟨answered, beside, vacates⟩ :=
      alongside.traverse vacant (classes d List.mem_cons_self) quiet rfl rfl
    rw [List.flatMap_cons] at all
    subst all
    rw [run_forM_append] at runs
    rw [execute_traverseEach_cons] at untold ⊢
    generalize World.traverse cast (.declaration d imports) u = first
      at answered beside vacates settings untold quiet ⊢
    generalize ((tour u.engine.settings.descendIntoUnknown .topLevel [] d).forM
      (announce shut cast imports)).run.run v = toured at answered beside vacates runs
    obtain ⟨answer₁, u₁⟩ := first
    match toured with
    -- A failure is the end of the row, whichever way it is gone through.
    | (.error cause, v₁) =>
      obtain rfl : answer₁ = .error (.callback cause) := answered
      subst runs
      exact ⟨rfl, beside, nofun⟩
    -- Otherwise the rest of the row begins in worlds that are alongside again.
    | (.ok (), v₁) =>
      obtain rfl : answer₁ =
        .ok (.ofSteps (tour u.engine.settings.descendIntoUnknown .topLevel [] d)) := answered
      have beside : Alongside u₁ v₁ := beside
      have untold : (World.execute cast (Program.traverseEach imports ds) u₁).2.told = u₁.told :=
        untold.trans quiet.symm
      have later : ds.flatMap (tour u₁.engine.settings.descendIntoUnknown .topLevel []) =
          ds.flatMap (tour u.engine.settings.descendIntoUnknown .topLevel []) := by
        rw [settings]
      obtain ⟨answers, beside, vacates⟩ := ih (fun d mem => classes d (List.mem_cons_of_mem _ mem))
        beside (vacates rfl) untold later runs
      refine ⟨?_, beside, vacates⟩
      -- The counts of the row add up as the steps do.
      rw [answer_append, ← answers]
      dsimp only [Prod.map]
      generalize (World.execute cast (Program.traverseEach imports ds) u₁).1 = rest
      match rest with
      | .ok summaries => rfl
      | .error e => rfl

/-! ### Files -/

/-- **A file is traversed as its declarations are.** Let all declarations be classes, and let no
boundary listener be there: none is on the roster, and none is told anything when the declarations
are traversed one after the other up to the first failure. Then the traversal of the file leaves
the same world as these traversals, but for the lines of the log about traversals as a whole: the
same callbacks were made for the same events, the same was reported, and listeners, requests,
memory and all else are as they are then. It also answers the same. It succeeds if all of them
do, and its counts are the sums of theirs; otherwise its error is that of the first that fails.
(A file without declarations has no traversal that could fail; only where one is running already
the answer is another, since the file is refused.) -/
theorem traverse_file_each (f : SourceFile) (w : World σ)
    (classes : ∀ d ∈ f.declarations, d.kind = .classDecl)
    (vacant : w.engine.roster.members = [])
    (untold :
      (execute cast (Program.traverseEach f.imports f.declarations) w).2.told = w.told) :
    (traverse cast (.file f) w).2.unframed =
        (execute cast (Program.traverseEach f.imports f.declarations) w).2.unframed ∧
      (w.engine.running = false ∨ f.declarations ≠ [] →
        (traverse cast (.file f) w).1 =
          (execute cast (Program.traverseEach f.imports f.declarations) w).1.map
            Summary.total) := by
  cases running : w.engine.running with
  | true =>
    have refused (target : Target) (walkable : target.Walkable) :
        traverse cast target w = (.error (.violation .alreadyRunning), w) :=
      perform_traverse_of_running (walk shut cast) running walkable
    -- The file is refused, and so is the first declaration, if there is one.
    rw [refused (.file f) trivial]
    cases declared : f.declarations with
    | nil => exact ⟨rfl, fun something => absurd something (by simp)⟩
    | cons d ds =>
      have rooted : d.kind = .classDecl := classes d (declared ▸ List.mem_cons_self)
      rw [execute_traverseEach_cons, refused (.declaration d f.imports) rooted]
      exact ⟨rfl, fun _ => rfl⟩
  | false =>
    have admitted : w.engine.admission (.file f) = .ok () :=
      Engine.admission_eq_ok.2 ⟨trivial, running⟩
    -- In the middle of the file and before the first of its declarations.
    -- The one declaration after the other and the file as a whole begin alongside.
    have alongside : Alongside w (w.opened (.file f)) :=
      ⟨running, unframed_opened (.file f) w⟩
    obtain ⟨answers, beside, vacates⟩ :=
      alongside.execute cast f.imports classes vacant untold rfl rfl
    have still := fun ok => beside.roster_eq ▸ vacates ok
    refine ⟨?_, fun _ => ?_⟩
    · -- The file is one traversal of all the steps, so both worlds are read off these.
      rw [unframed_traverse cast admitted vacant rfl rfl still, ← beside.stopped]
      rfl
    · rw [traverse_of_vacant cast admitted vacant rfl rfl, answers]
      rfl

/-! ### A file with two classes -/

namespace Filing

def one : Node := .node 0 .empty (.classDecl "One" [])

def two : Node := .node 1 .empty (.classDecl "Two" [])

def file : SourceFile := ⟨none, [], [one, two]⟩

def first : Handle := ⟨0, "first"⟩

def second : Handle := ⟨1, "second"⟩

/-- A world in which one listener waits for classes. -/
def world : World Nat :=
  ⟨{ Engine.new .default .log with registry := .built [.register first (some .classDecl)] },
    .empty, 2, #[], #[], 0⟩

/-- The listener counts the events and brings another one along, who fails at the second class. -/
def filing : Cast Nat where
  onEvent listener e _ :=
    if listener = first then
      .ask (.register second (some .classDecl)) fun _ =>
        .ask .own fun (count : Nat) => .ask (.setOwn (count + 1)) fun _ => .done ()
    else if e.node.id = two.id then .fail (.failed "enough")
    else .done ()
  onBoundary _ _ := .done ()

/-- The world in which the first class was traversed. -/
def between : World Nat :=
  ⟨{ Engine.new .default .log with
      registry := .built [.register first (some .classDecl), .register second (some .classDecl)] },
    .empty, 2,
    #[.traversingClass (some "One"), .registered "second" .classDecl,
      .alreadyRegistered "second" .classDecl, .finished 1 0],
    #[.step (.event ⟨.enter, one, []⟩), .called first ⟨.enter, one, []⟩,
      .step (.event ⟨.exit, one, []⟩), .called first ⟨.exit, one, []⟩,
      .called second ⟨.exit, one, []⟩], 2⟩

theorem traverse_one :
    traverse filing (.declaration one []) world = (.ok ⟨1, 1, 0⟩, between) := by
  change walk shut filing _ world = _
  rw [walk_eq, one, steps_bare_class]
  rfl

theorem traverse_two :
    (traverse filing (.declaration two []) between).1 = .error (.callback (.failed "enough")) ∧
      (traverse filing (.declaration two []) between).2.told = [] := by
  change (walk shut filing _ between).1 = _ ∧ (walk shut filing _ between).2.told = _
  rw [walk_eq, two, steps_bare_class]
  exact ⟨rfl, rfl⟩

theorem untold_file :
    (execute filing (Program.traverseEach file.imports file.declarations) world).2.told =
      world.told := by
  rw [show file.declarations = [one, two] from rfl, execute_traverseEach_cons,
    show file.imports = [] from rfl, traverse_one]
  obtain ⟨fails, told⟩ := traverse_two
  dsimp only [Prod.map]
  rw [execute_traverseEach_cons]
  generalize traverse filing (.declaration two []) between = ran at fails told
  obtain ⟨answer, w⟩ := ran
  obtain rfl : answer = .error _ := fails
  exact told

end Filing

open Filing in
/-- In a file of two classes, what was registered during the first traversal ends the second. -/
theorem traverse_file_each_filing :
    (∀ d ∈ file.declarations, d.kind = .classDecl) ∧ world.engine.roster.members = [] ∧
    (execute filing (Program.traverseEach [] [one, two]) world).2.told = [] ∧
    world.engine.running = false ∧
    (traverse filing (.file file) world).2.unframed =
      (execute filing (Program.traverseEach [] [one, two]) world).2.unframed ∧
    (traverse filing (.file file) world).1 =
      (execute filing (Program.traverseEach [] [one, two]) world).1.map Summary.total := by
  have classes : ∀ d ∈ file.declarations, d.kind = .classDecl := by
    intro d mem
    rcases List.mem_pair.1 mem with rfl | rfl <;> rfl
  obtain ⟨left, answers⟩ := traverse_file_each filing file world classes rfl untold_file
  exact ⟨classes, rfl, untold_file, rfl, left, answers (.inl rfl)⟩

end World

end SyntaxTour
