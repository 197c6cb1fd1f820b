import SyntaxTour.Proofs.Dispatch
import SyntaxTour.Proofs.Fitting
import SyntaxTour.Proofs.Independence

/-!
# What is reported, and when

A tour remarks on a node that does not fit, and then it enters the node. So the entries of a
traversal tell which nodes it came to, and the diagnostics tell which of them did not fit; one
can be read against the other at every moment, also where nodes that do not fit are nested, and
where a listener ends the traversal at the entry of one of them.

* `Diagnostic.Tells` is what a diagnostic says about a visit.
* `Heralded` says of steps that each remark is followed by the entry of its node. The steps of a
  tour are heralded, and so are those up to any of its events (`Heralded.cut`).
* `Tally` reads entries and diagnostics against visits; `Heralded.tally` says that they agree for
  the first steps of a tour.
* `World.respected_sink` says that listeners leave the sink alone, and so it is for every world
  during a dispatch (`World.Respected.dispatch`). `World.Reports` follows the sink through a row of
  steps and through the dispatches of its events.
* `World.traverse_reports` is the statement about traversals.
-/

namespace SyntaxTour

/-! ### Diagnostics and visits -/

/-- **What a diagnostic tells of a visit**: which node was found, and what encloses it. -/
structure Diagnostic.Tells (d : Diagnostic) (v : Visit) : Prop where
  kind : d.kind = v.node.kind
  span : d.span = v.node.span
  /-- There is a label for an unknown construct only, and it is that of the construct. -/
  label : ∀ label, d.label = some label ↔ ∃ children, v.node.shape = .unknown label children
  /-- The parent is the last of the nodes around, root first. -/
  parent : d.parent = v.trail.rootFirst.getLast?.map (·.kind)
  message : d.message =
    "Unrecognized " ++ v.node.kind.label ++ " in " ++ v.position.title ++ " position"

/-- What is reported about a visit tells of it. -/
theorem Visit.tells_report (v : Visit) : (Step.report v.position v.node v.trail).Tells v where
  kind := rfl
  span := rfl
  label label := by
    obtain ⟨position, ⟨i, p, s⟩, trail⟩ := v
    cases s <;> simp [Step.report]
  parent := by
    unfold Step.report Trail.parent? Trail.rootFirst
    rw [List.getLast?_reverse]
  message := rfl

/-- **What entries and diagnostics have of visits**: there is one entry for each visit, and one
diagnostic for each of a node that does not fit, both in the order of the visits. -/
structure Tally (visits : List Visit) (fired : List Event) (told : List Diagnostic) : Prop where
  entered : (fired.filter (·.phase == .enter)).map (fun e => (e.node, e.trail)) =
    visits.map fun v => (v.node, v.trail)
  told : List.Forall₂ Diagnostic.Tells told (visits.filter fun v => !decide v.Fits)

/-- There are as many visits as entries. -/
theorem Tally.length_eq {visits : List Visit} {fired : List Event} {told : List Diagnostic}
    (tally : Tally visits fired told) :
    visits.length = (fired.filter (·.phase == .enter)).length := by
  have lengths := congrArg List.length tally.entered
  rw [List.length_map, List.length_map] at lengths
  exact lengths.symm

/-- Of the first visits, fewer events have fewer. -/
theorem Tally.visits_prefix {all visits visits' : List Visit} {fired fired' : List Event}
    {told told' : List Diagnostic} (tally : Tally visits fired told) (first : visits <+: all)
    (tally' : Tally visits' fired' told') (first' : visits' <+: all) (early : fired' <+: fired) :
    visits' <+: visits := by
  refine List.prefix_of_prefix_length_le first' first ?_
  rw [tally.length_eq, tally'.length_eq]
  exact (early.filter _).length_le

/-! ### Remarks herald entries -/

/-- **Whoever is remarked on is entered next.** -/
inductive Heralded : List Step → Prop where
  | nil : Heralded []
  | event (e : Event) {steps : List Step} : Heralded steps → Heralded (.event e :: steps)
  | remark (position : Position) (n : Node) (trail : Trail) {steps : List Step} :
    Heralded steps →
      Heralded (.unrecognized position n trail :: .event ⟨.enter, n, trail⟩ :: steps)

namespace Heralded

theorem append {steps further : List Step} (h : Heralded steps) (h' : Heralded further) :
    Heralded (steps ++ further) := by
  induction h with
  | nil => exact h'
  | event e _ ih => exact .event e ih
  | remark position n trail _ ih => exact .remark position n trail ih

theorem flatMap {α : Type} {l : List α} {f : α → List Step} (h : ∀ a ∈ l, Heralded (f a)) :
    Heralded (l.flatMap f) := by
  induction l with
  | nil => exact .nil
  | cons a l ih =>
    rw [List.flatMap_cons]
    exact (h a List.mem_cons_self).append (ih fun b member => h b (List.mem_cons_of_mem _ member))

/-- **Up to an event**, heralded steps are heralded: no remark is cut off from its entry. -/
theorem cut {before after : List Step} {e : Event}
    (h : Heralded (before ++ .event e :: after)) : Heralded (before ++ [.event e]) := by
  generalize same : before ++ .event e :: after = steps at h
  -- By the way the steps are heralded; what stands in front of the cut is taken off step by step.
  induction h generalizing before with
  | nil => exact absurd same (List.append_ne_nil_of_right_ne_nil before (List.cons_ne_nil _ _))
  | event e' _ ih =>
    cases before with
    | nil => exact .event e .nil
    | cons step before =>
      obtain ⟨rfl, rest⟩ := List.cons.inj same
      exact .event e' (ih rest)
  | remark position n trail _ ih =>
    -- The first of the steps is the remark, and the entry comes next if it is not the event.
    rcases before with _ | ⟨step, _ | ⟨step', before⟩⟩
    · exact nomatch (List.cons.inj same).1
    · obtain ⟨rfl, behind⟩ := List.cons.inj same
      obtain ⟨entry, -⟩ := List.cons.inj behind
      obtain rfl := Step.event.inj entry
      exact .remark position n trail .nil
    · obtain ⟨rfl, behind⟩ := List.cons.inj same
      obtain ⟨rfl, rest⟩ := List.cons.inj behind
      exact .remark position n trail (ih rest)

/-- Leaving out exits leaves the entries behind their remarks. -/
theorem arrivals {steps : List Step} (h : Heralded steps) :
    Heralded (steps.filter Step.arrives) := by
  induction h with
  | nil => exact .nil
  | event e _ ih =>
    rw [List.filter_cons]
    split
    · exact .event e ih
    · exact ih
  | remark position n trail _ ih => exact .remark position n trail ih

/-- **The first of the arrivals at visits** are the arrivals at the first of the visits, if no
remark is cut off. -/
theorem exists_visits {steps : List Step} (h : Heralded steps) {visits : List Visit}
    (first : steps <+: visits.flatMap Visit.arrival) :
    ∃ early, early <+: visits ∧ steps = early.flatMap Visit.arrival := by
  -- The steps are read visit by visit: an entry alone if the node fits, after a remark if not.
  induction h generalizing visits with
  | nil => exact ⟨[], List.nil_prefix, rfl⟩
  | event e _ ih =>
    cases visits with
    | nil => exact absurd (List.prefix_nil.mp first) (List.cons_ne_nil _ _)
    | cons v visits =>
      rw [List.flatMap_cons, Visit.arrival] at first
      split at first
      · next fits =>
        obtain ⟨entry, first⟩ := List.cons_prefix_cons.mp first
        obtain ⟨early, isFirst, rfl⟩ := ih first
        refine ⟨v :: early, List.cons_prefix_cons.mpr ⟨rfl, isFirst⟩, ?_⟩
        rw [List.flatMap_cons, Visit.arrival, if_pos fits, entry]
        rfl
      · -- A remark is no entry.
        exact nomatch (List.cons_prefix_cons.mp first).1
  | remark position n trail _ ih =>
    cases visits with
    | nil => exact absurd (List.prefix_nil.mp first) (List.cons_ne_nil _ _)
    | cons v visits =>
      rw [List.flatMap_cons, Visit.arrival] at first
      split at first
      · -- A node that fits would be entered without a remark.
        exact nomatch (List.cons_prefix_cons.mp first).1
      · next unfit =>
        obtain ⟨remark, first⟩ := List.cons_prefix_cons.mp first
        obtain ⟨entry, first⟩ := List.cons_prefix_cons.mp first
        obtain ⟨early, isFirst, rfl⟩ := ih first
        refine ⟨v :: early, List.cons_prefix_cons.mpr ⟨rfl, isFirst⟩, ?_⟩
        rw [List.flatMap_cons, Visit.arrival, if_neg unfit, remark, entry]
        rfl

end Heralded

/-- **A tour enters whoever it remarks on next.** -/
theorem heralded_tour (descend : Bool) (position : Position) (trail : Trail) (n : Node) :
    Heralded (tour descend position trail n) := by
  induction n using Tree.induct generalizing position trail with
  | node i p s ih =>
    have visit : Heralded (inside descend position trail (.node i p s) ++
        [.event ⟨.exit, .node i p s, trail⟩]) := by
      refine Heralded.append (.flatMap fun slot visited => ?_) (.event _ .nil)
      exact ih slot.2 (Shape.mem_children_of_mem_visits visited) slot.1 _
    rw [tour_eq_remark, remark]
    split
    · exact .event _ visit
    · exact .remark position _ trail visit

theorem heralded_steps (descend : Bool) (target : Target) : Heralded (target.steps descend) :=
  .flatMap fun root _ => heralded_tour descend .topLevel [] root

/-! ### Entries and diagnostics of a tour -/

/-- The diagnostics of a row of arrivals tell of the visits that do not fit. -/
theorem forall₂_tells_arrivals (visits : List Visit) :
    List.Forall₂ Diagnostic.Tells ((visits.flatMap Visit.arrival).filterMap Step.diagnostic?)
      (visits.filter fun v => !decide v.Fits) := by
  induction visits with
  | nil => exact .nil
  | cons v visits ih =>
    rw [List.flatMap_cons, List.filterMap_append, Visit.arrival]
    by_cases fits : v.Fits
    · rw [if_pos fits, List.filter_cons_of_neg (by simpa using fits)]
      exact ih
    · rw [if_neg fits, List.filter_cons_of_pos (by simpa using fits)]
      exact .cons v.tells_report ih

/-- Exits have no diagnostics. -/
theorem filterMap_diagnostic?_filter_arrives (steps : List Step) :
    (steps.filter Step.arrives).filterMap Step.diagnostic? =
      steps.filterMap Step.diagnostic? := by
  rw [List.filterMap_filter]
  congr 1
  funext step
  cases step with
  | unrecognized position node trail => rfl
  | event e =>
    rw [Step.diagnostic?]
    exact ite_self none

/-- Steps that arrive at visits have their entries and their diagnostics. -/
theorem tally_of_arrivals {steps : List Step} {visits : List Visit}
    (arrivals : steps.filter Step.arrives = visits.flatMap Visit.arrival) :
    Tally visits (eventsOf steps) (steps.filterMap Step.diagnostic?) where
  entered := by
    change visited .enter steps = _
    rw [← visited_filter_arrives, arrivals, visited_flatMap]
    simp only [Visit.visited_arrival]
    exact List.map_eq_flatMap.symm
  told := by
    rw [← filterMap_diagnostic?_filter_arrives, arrivals]
    exact forall₂_tells_arrivals visits

/-- **The first steps of a tour, up to an event**, have the entries and the diagnostics of its
first visits; all of its steps have those of all visits. -/
theorem Heralded.tally {descend : Bool} {target : Target} {steps : List Step} (h : Heralded steps)
    (first : steps <+: target.steps descend) :
    ∃ visits, visits <+: target.visits descend ∧
      Tally visits (eventsOf steps) (steps.filterMap Step.diagnostic?) ∧
      (steps = target.steps descend → visits = target.visits descend) := by
  have all := filter_arrives_steps descend target
  by_cases whole : steps = target.steps descend
  · exact ⟨target.visits descend, List.prefix_rfl, tally_of_arrivals (whole ▸ all), fun _ => rfl⟩
  · obtain ⟨visits, isFirst, arrivals⟩ := h.arrivals.exists_visits (all ▸ first.filter Step.arrives)
    exact ⟨visits, isFirst, tally_of_arrivals arrivals, fun same => absurd same whole⟩

/-! ### The sink at every moment -/

section

variable {σ : Type} (cast : Cast σ) (imports : Imports)

/-- **The worlds during a dispatch**: the one in which it starts, and for each callback the one
in which it is made and the one that the program of the listener leaves. -/
def Dispatch.worlds (d : Dispatch σ) : List (World σ) :=
  d.before :: d.callbacks.flatMap fun c => [c.before, (c.outcome cast imports).2]

namespace World

omit cast imports in
/-- **Listeners leave the sink alone**, and the settings too. -/
theorem respected_sink : Respected fun w w' : World σ =>
    w'.engine.sink = w.engine.sink ∧ w'.engine.settings = w.engine.settings where
  refl _ := ⟨rfl, rfl⟩
  trans first later := ⟨later.1.trans first.1, later.2.trans first.2⟩
  perform w c := by
    cases c with
    | traverse target =>
      rw [perform_traverse]
      exact ⟨rfl, rfl⟩
    | _ => exact ⟨rfl, rfl⟩
  called _ _ _ := ⟨rfl, rfl⟩
  failed _ _ _ _ := ⟨rfl, rfl⟩
  told _ _ _ := ⟨rfl, rfl⟩
  context _ _ := ⟨rfl, rfl⟩

omit cast imports in
/-- A step leaves its diagnostic in a collecting sink, if it has one. -/
theorem sink_meet {w : World σ} {held : List Diagnostic}
    (collecting : w.engine.sink = .collect held)
    (reporting : w.engine.settings.reportUnrecognized = true) (step : Step) :
    (w.meet step).engine.sink = .collect (held ++ step.diagnostic?.toList) := by
  obtain ⟨⟨registry, roster, settings, sink, running⟩, context, next, log, journal, own⟩ := w
  dsimp only at collecting reporting
  subst collecting
  unfold meet
  cases step with
  | unrecognized position node trail =>
    dsimp only [record]
    rw [if_pos reporting]
    rfl
  | event e =>
    dsimp only [Step.diagnostic?]
    rw [Option.toList_none, List.append_nil]
    split <;> rfl

/-- What listeners respect holds for the worlds before and after each callback of a row. -/
theorem Respected.callbacks {R : World σ → World σ → Prop} (respected : Respected R) (e : Event)
    (listeners : List Handle) (w : World σ) :
    ∀ c ∈ callbacks cast imports e listeners w,
      R w c.before ∧ R w (c.outcome cast imports).2 := by
  induction listeners generalizing w with
  | nil => exact fun c member => absurd member List.not_mem_nil
  | cons listener listeners ih =>
    intro c member
    rw [World.callbacks] at member
    rcases List.mem_cons.mp member with rfl | member
    · -- The first callback is made in the world that is given.
      exact ⟨respected.refl w, respected.trans (respected.called w listener e)
        (respected.run (cast.onEvent listener e imports) _)⟩
    · -- The other callbacks are made in the worlds that the first one has left.
      have here := respected.call cast imports e listener w
      split at member
      · next same =>
        rw [same] at here
        obtain ⟨before, after⟩ := ih _ c member
        exact ⟨respected.trans here before, respected.trans here after⟩
      · exact absurd member List.not_mem_nil

/-- What listeners respect holds for every world during a dispatch. -/
theorem Respected.dispatch {R : World σ → World σ → Prop} (respected : Respected R) (e : Event)
    (w : World σ) :
    ∀ during ∈ (dispatch cast imports e w).worlds cast imports, R (w.meet (.event e)) during := by
  intro during member
  rcases List.mem_cons.mp member with rfl | member
  · exact respected.refl _
  · obtain ⟨c, isCallback, member⟩ := List.mem_flatMap.mp member
    obtain ⟨before, after⟩ := respected.callbacks cast imports e _ _ c isCallback
    rcases List.mem_pair.mp member with rfl | rfl
    · exact before
    · exact after

/-- The journal has the dispatch of every event that is announced. -/
theorem dispatched_announce (e : Event) (w : World σ) :
    ((announce shut cast imports (.event e)).run.run w).2.dispatched =
      w.dispatched ++ (dispatch cast imports e w).entries := by
  rw [run_announce_event, (row_forM_call cast imports e _ _).dispatched, dispatched_meet,
    List.append_assoc]
  rfl

/-- **What holds of a row of announced steps**, of the dispatches of their events, and of the world
they lead to, if the sink held some diagnostics before. In the end it holds those of all the steps
as well, and during each dispatch it holds those of the steps before. -/
structure Reports (held : List Diagnostic) (w : World σ) (done : List Step)
    (ds : List (Dispatch σ)) (w' : World σ) : Prop where
  announced : w'.steps = w.steps ++ done
  dispatched : w'.dispatched = w.dispatched ++ ds.flatMap Dispatch.entries
  sink : w'.engine.sink = .collect (held ++ done.filterMap Step.diagnostic?)
  events : ds.map (·.event) = eventsOf done
  during : ∀ before d after, ds = before ++ d :: after →
    ∃ earlier later, done = earlier ++ .event d.event :: later ∧
      eventsOf earlier = before.map (·.event) ∧
      ∀ during ∈ d.worlds cast imports,
        during.engine.sink = .collect (held ++ earlier.filterMap Step.diagnostic?)

variable {cast imports} {held : List Diagnostic} {w w₁ w' : World σ} {done : List Step}
  {ds : List (Dispatch σ)}

/-- Where nothing is announced, nothing is reported. -/
theorem Reports.nil (collecting : w.engine.sink = .collect held) :
    Reports cast imports held w [] [] w where
  announced := (List.append_nil _).symm
  dispatched := (List.append_nil _).symm
  sink := by rw [collecting, List.filterMap_nil, List.append_nil]
  events := rfl
  during before d after split :=
    absurd split.symm (List.append_ne_nil_of_right_ne_nil before (List.cons_ne_nil d after))

/-- A remark may come before a row of steps. -/
theorem Reports.remark {position : Position} {n : Node} {trail : Trail}
    (reports : Reports cast imports (held ++ [Step.report position n trail])
      (w.meet (.unrecognized position n trail)) done ds w') :
    Reports cast imports held w (.unrecognized position n trail :: done) ds w' where
  announced := by
    -- The steps and what the sink holds grow by the remark; no listener was called for it.
    rw [reports.announced, steps_meet, List.append_assoc]
    rfl
  dispatched := by
    rw [reports.dispatched, dispatched_meet]
    exact congrArg (· ++ _) (List.append_nil _)
  sink := by
    rw [reports.sink, List.append_assoc]
    rfl
  events := reports.events
  during before d after split := by
    -- The dispatches are those of the steps after the remark.
    obtain ⟨earlier, later, rfl, events, during⟩ := reports.during before d after split
    refine ⟨.unrecognized position n trail :: earlier, later, rfl, events, fun w' member => ?_⟩
    rw [during w' member, List.append_assoc]
    rfl

/-- An event may come before a row of steps. -/
theorem Reports.event {e : Event} (collecting : w.engine.sink = .collect held)
    (reporting : w.engine.settings.reportUnrecognized = true)
    (announced : w₁.steps = w.steps ++ [.event e])
    (dispatched : w₁.dispatched = w.dispatched ++ (dispatch cast imports e w).entries)
    (reports : Reports cast imports held w₁ done ds w') :
    Reports cast imports held w (.event e :: done) (dispatch cast imports e w :: ds) w' where
  announced := by
    rw [reports.announced, announced, List.append_assoc]
    rfl
  dispatched := by
    rw [reports.dispatched, dispatched, List.append_assoc]
    rfl
  sink := reports.sink
  events := congrArg (e :: ·) reports.events
  during before d after split := by
    cases before with
    | nil =>
      obtain ⟨rfl, -⟩ := List.cons.inj split
      refine ⟨[], done, rfl, rfl, fun during member => ?_⟩
      -- The event itself has no diagnostic, and its listeners report nothing.
      rw [(respected_sink.dispatch cast imports e w during member).1,
        sink_meet collecting reporting (.event e)]
      rfl
    -- A later dispatch: the event is in front of everything that came before it.
    | cons _ before =>
      obtain ⟨rfl, rest⟩ := List.cons.inj split
      obtain ⟨earlier, later, rfl, events, during⟩ := reports.during before d after rest
      exact ⟨.event e :: earlier, later, rfl, congrArg (e :: ·) events, during⟩

variable (cast imports)

/-- **Announcing steps reports what they call for**, up to the first event at which a listener
fails. -/
theorem reports_forM_announce (steps : List Step) (collecting : w.engine.sink = .collect held)
    (reporting : w.engine.settings.reportUnrecognized = true) :
    ∃ done left, steps = done ++ left ∧
      Reports cast imports held w done (dispatchesOf cast imports steps w)
        ((steps.forM (announce shut cast imports)).run.run w).2 ∧
      (left = [] ∨ ∃ earlier e, done = earlier ++ [.event e]) := by
  induction steps generalizing w held with
  | nil => exact ⟨[], [], rfl, .nil collecting, .inl rfl⟩
  | cons step steps ih =>
    -- What the row comes to from a step on, it comes to with the step in front.
    have extend {done left : List Step}
        (ended : left = [] ∨ ∃ earlier e, done = earlier ++ [.event e]) :
        left = [] ∨ ∃ earlier e, step :: done = earlier ++ [.event e] := by
      refine ended.imp_right fun stopped => ?_
      obtain ⟨earlier, e, rfl⟩ := stopped
      exact ⟨step :: earlier, e, rfl⟩
    rw [run_forM_cons, dispatchesOf]
    -- Meeting the step is what may report it; calling the listeners reports nothing.
    have sink := sink_meet collecting reporting step
    have settings := settings_meet w step
    cases step with
    | unrecognized position node trail =>
      obtain ⟨done, left, rfl, reports, ended⟩ := ih sink (settings ▸ reporting)
      exact ⟨_ :: done, left, rfl, reports.remark, extend ended⟩
    | event e =>
      have announced := steps_announce cast imports (.event e) w
      have dispatched := dispatched_announce cast imports e w
      obtain ⟨same, same'⟩ := respected_sink.forM (respected_sink.call cast imports e)
        ((w.meet (.event e)).engine.registry.lookup e.node.kind) (w.meet (.event e))
      rw [← run_announce_event] at same same'
      rw [sink, Step.diagnostic?, Option.toList_none, List.append_nil] at same
      generalize (announce shut cast imports (.event e)).run.run w = ran
        at announced dispatched same same'
      obtain ⟨outcome, w₁⟩ := ran
      cases outcome with
      -- Every listener answered, so the rest of the row reports from where the sink stands now.
      | ok =>
        obtain ⟨done, left, rfl, reports, ended⟩ :=
          ih same ((same'.trans settings) ▸ reporting)
        exact ⟨_ :: done, left, rfl, reports.event collecting reporting announced dispatched,
          extend ended⟩
      -- One of them failed, and the event is the last step that was announced.
      | error cause =>
        exact ⟨[.event e], steps, rfl,
          (Reports.nil same).event collecting reporting announced dispatched, .inr ⟨[], e, rfl⟩⟩

/-! ### Whole traversals -/

/-- **A traversal reports what its steps call for**, and its steps are heralded. -/
theorem reports_traverse (target : Target) (collecting : w.engine.sink = .collect held)
    (reporting : w.engine.settings.reportUnrecognized = true) :
    ∃ done, Heralded done ∧
      Reports cast target.imports held w done (dispatches cast target w)
        (traverse cast target w).2 := by
  unfold traverse enter dispatches
  cases w.engine.admission target with
  -- Refused: nothing is announced.
  | error v => exact ⟨[], .nil, .nil collecting⟩
  | ok free =>
    dsimp only
    rw [walk_eq]
    -- The boundary listeners touch neither the sink nor the steps.
    obtain ⟨sink, settings⟩ := respected_sink.tellAll cast .begin (w.opened target)
    have begun := respected_steps.tellAll cast .begin (w.opened target)
    obtain ⟨done, left, whole, reports, ended⟩ := reports_forM_announce cast target.imports
      (target.steps w.engine.settings.descendIntoUnknown) (sink.trans collecting)
      ((congrArg Settings.reportUnrecognized settings).trans reporting)
    -- The steps that were announced are a beginning of the tour, cut after an event.
    have heralded : Heralded done := by
      have all := heralded_steps w.engine.settings.descendIntoUnknown target
      rw [whole] at all
      rcases ended with rfl | ⟨earlier, e, rfl⟩
      · rwa [List.append_nil] at all
      · rw [List.append_assoc, List.singleton_append] at all
        exact all.cut
    obtain ⟨announced, dispatched, held, events, during⟩ := reports
    rw [begun] at announced
    rw [(tellAll_changes cast .begin (w.opened target)).2] at dispatched
    unfold opened at announced dispatched held
    dsimp only
    generalize ((target.steps w.engine.settings.descendIntoUnknown).forM
      (announce shut cast target.imports)).run.run _ = ran
      at announced dispatched held
    match ran with
    | (.error cause, w₁) => exact ⟨done, heralded, announced, dispatched, held, events, during⟩
    | (.ok (), w₁) =>
      -- The end is told to listeners that report nothing either.
      have announced' := respected_steps.tellAll cast .finish w₁
      have held' := respected_sink.tellAll cast .finish w₁
      have dispatched' := (tellAll_changes cast .finish w₁).2
      exact ⟨done, heralded, announced'.trans announced, dispatched'.trans dispatched,
        held'.1.trans held, events, during⟩

/-- **What a traversal reports, and when**, if unrecognized nodes are to be reported and the sink
collects. Whatever the listeners do, the traversal comes to the first visits of its tour, all of
them if it succeeds; it enters each of them, and adds to the sink one diagnostic for each of a node
that does not fit, which tells of this visit. If it succeeds, these are as many as it counts as
unrecognized. And at every moment of the dispatch of an event, from before the first callback to
after the last one, the sink holds the diagnostics of the nodes entered until then, the one that
is just being entered included, and no others. -/
theorem traverse_reports (target : Target) (w : World σ)
    (collecting : w.engine.sink = .collect held)
    (reporting : w.engine.settings.reportUnrecognized = true) :
    ∃ fired visits told,
      (traverse cast target w).2.events = w.events ++ fired ∧
      (traverse cast target w).2.engine.sink = .collect (held ++ told) ∧
      visits <+: target.visits w.engine.settings.descendIntoUnknown ∧
      Tally visits fired told ∧
      (∀ summary, (traverse cast target w).1 = .ok summary →
        visits = target.visits w.engine.settings.descendIntoUnknown ∧
          told.length = summary.unrecognized) ∧
      (traverse cast target w).2.dispatched =
        w.dispatched ++ (dispatches cast target w).flatMap Dispatch.entries ∧
      (dispatches cast target w).map (·.event) = fired ∧
      ∀ before d after, dispatches cast target w = before ++ d :: after →
        ∃ visits' told', visits' <+: visits ∧ told' <+: told ∧
          Tally visits' ((before ++ [d]).map (·.event)) told' ∧
          ∀ during ∈ d.worlds cast target.imports,
            during.engine.sink = .collect (held ++ told') := by
  obtain ⟨done, heralded, reports⟩ := reports_traverse cast target collecting reporting
  obtain ⟨announced, added, early, outcome⟩ := steps_traverse cast target w
  -- Both speak of the steps that were added to the same ones.
  obtain rfl : announced = done := List.append_cancel_left (added.symm.trans reports.announced)
  obtain ⟨visits, first, tally, whole⟩ := heralded.tally early
  refine ⟨_, visits, _, ?_, reports.sink, first, tally, fun summary success => ?_,
    reports.dispatched, reports.events, fun before d after split => ?_⟩
  · -- The events are those of the steps that were announced.
    rw [events, added]
    exact eventsOf_append _ _
  · -- A success has announced everything, and the summary counts what the sink was given.
    rw [success] at outcome
    obtain ⟨all, rfl⟩ := outcome
    refine ⟨whole all, ?_⟩
    rw [Summary.ofSteps_eq, List.length_filterMap_eq_countP]
    congr 1
    funext step
    cases step <;> rfl
  · obtain ⟨earlier, later, rfl, events, during⟩ := reports.during before d after split
    -- The steps up to the event are the first ones too, and they end with an event.
    have upTo : earlier ++ [.event d.event] <+: earlier ++ .event d.event :: later :=
      (List.prefix_append_right_inj earlier).mpr (List.cons_prefix_cons.mpr ⟨rfl, List.nil_prefix⟩)
    have heralded' : Heralded (earlier ++ [.event d.event]) := heralded.cut
    obtain ⟨visits', first', tally', -⟩ := heralded'.tally (upTo.trans early)
    have shown : eventsOf (earlier ++ [.event d.event]) = (before ++ [d]).map (·.event) := by
      rw [eventsOf_append, events, List.map_append]
      rfl
    have quiet : (earlier ++ [Step.event d.event]).filterMap Step.diagnostic? =
        earlier.filterMap Step.diagnostic? := by
      rw [List.filterMap_append]
      exact List.append_nil _
    -- What is reported up to there is a beginning of what is reported in the end.
    refine ⟨visits', earlier.filterMap Step.diagnostic?, ?_, ?_, ?_, during⟩
    · exact tally.visits_prefix first tally' first' (upTo.filterMap Step.event?)
    · exact (List.prefix_append earlier _).filterMap Step.diagnostic?
    · rw [← shown, ← quiet]
      exact tally'

end World

end

/-! ### A listener that gives up at a nested construct -/

namespace Quitting

def inner : Node := .node 0 ⟨7, 9⟩ (.unknown "Lambda" [])

def outer : Node := .node 1 ⟨5, 9⟩ (.unknown "Record" [inner])

def root : Node := .node 2 ⟨0, 10⟩ (.classDecl "C" [outer])

def listener : Handle := ⟨0, "quitter"⟩

/-- The listener fails when it is called with the inner construct. -/
def cast : Cast Unit where
  onEvent _ e _ := if e.node.id = 0 then .fail (.failed "enough") else .done ()
  onBoundary _ _ := .done ()

def earlier : Diagnostic := { kind := .block, span := .empty, message := "earlier" }

/-- A world in which the listener waits for unknown constructs, which are looked into. -/
def world : World Unit :=
  ⟨{ Engine.new { descendIntoUnknown := true } (.collect [earlier]) with
      registry := (Registry.empty.register listener (some .other)).2 },
    .empty, 3, #[], #[], ()⟩

theorem steps_root : (Target.declaration root []).steps true =
    [.event ⟨.enter, root, []⟩, .unrecognized .member outer [root],
      .event ⟨.enter, outer, [root]⟩, .unrecognized .loose inner [outer, root],
      .event ⟨.enter, inner, [outer, root]⟩, .event ⟨.exit, inner, [outer, root]⟩,
      .event ⟨.exit, outer, [root]⟩, .event ⟨.exit, root, []⟩] := by
  rw [Target.steps, Target.roots, List.flatMap_singleton, root, outer, inner]
  simp [tour_node, Shape.visits, Shape.slots, Shape.kind, Position.admits]

/-- Both constructs were reported when the listener gives up, and the second one was not left. -/
theorem traverse_root :
    (World.traverse cast (.declaration root []) world).1 = .error (.callback (.failed "enough")) ∧
    (World.traverse cast (.declaration root []) world).2.engine.sink = .collect [earlier,
      ⟨.other, some "Record", some .classDecl, ⟨5, 9⟩,
        "Unrecognized OTHER in class member position"⟩,
      ⟨.other, some "Lambda", some .other, ⟨7, 9⟩,
        "Unrecognized OTHER in unknown construct position"⟩] := by
  change (World.walk World.shut cast (.declaration root []) world).1 = _ ∧
    (World.walk World.shut cast (.declaration root []) world).2.engine.sink = _
  rw [World.walk_eq, show world.engine.settings.descendIntoUnknown = true from rfl, steps_root]
  exact ⟨rfl, rfl⟩

end Quitting

open Quitting in
/-- A listener that gives up on entering the inner construct: both constructs were reported by
then, behind the diagnostic that was there before. -/
theorem World.traverse_reports_quitting :
    world.engine.sink = .collect [earlier] ∧
    world.engine.settings.reportUnrecognized = true ∧
    (traverse cast (.declaration root []) world).1 = .error (.callback (.failed "enough")) ∧
    ∃ fired visits told,
      (traverse cast (.declaration root []) world).2.engine.sink = .collect ([earlier] ++ told) ∧
      told.map (·.label) = [some "Record", some "Lambda"] ∧
      visits <+: (Target.declaration root []).visits true ∧
      Tally visits fired told := by
  obtain ⟨fired, visits, told, -, sink, first, tally, -⟩ :=
    traverse_reports cast (.declaration root []) world rfl rfl
  refine ⟨rfl, rfl, traverse_root.1, fired, visits, told, sink, ?_, first, tally⟩
  obtain rfl :=
    List.append_cancel_left (DiagnosticSink.collect.inj (sink.symm.trans traverse_root.2))
  rfl

end SyntaxTour
