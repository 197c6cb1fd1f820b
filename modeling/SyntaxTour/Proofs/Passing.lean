import SyntaxTour.Proofs.Sharing

/-!
# Passing children on

A node can be made anew with each of its children passed through a function. The function may
do anything besides: it may remember what it was called for, answer differently the next time
and give up in the middle. Whoever calls it relies on being told about every child, once and in
order, and on getting back the same node with the answers in place.

* `Passing.Answers` says that a function was called along a row and answered every time.
* `Passing.noted` is a function that writes its calls down besides.
* `Passing.Course` is what happens along a row, up to the first call that fails;
  `Passing.course_mapM` proves it of a row, and `Passing.course_traverse` of the children of a
  node.
* `Node.mapChildren_calls` is what this means for `Node.mapChildren`.
-/

namespace SyntaxTour

namespace Passing

variable {ε σ α β γ : Type}

/-! ### Calls along a row -/

/-- **Calls along a row**, all of which succeed: the first one is made in the state `s`, each
other one in the state that the one before left, and the last one leaves the state `s'`. -/
inductive Answers (f : α → ExceptT ε (StateM σ) β) : List α → σ → List β → σ → Prop
  | nil {s} : Answers f [] s [] s
  | cons {a b l bs s s₁ s'} : (f a).run.run s = (.ok b, s₁) → Answers f l s₁ bs s' →
    Answers f (a :: l) s (b :: bs) s'

/-- The function that does the same and writes down what it is called for. -/
def noted (f : α → ExceptT ε (StateM σ) β) (a : α) : ExceptT ε (StateM (List α × σ)) β :=
  ExceptT.mk fun s => (((f a).run.run s.2).1, s.1 ++ [a], ((f a).run.run s.2).2)

/-- **What happens along a row.** Either every call succeeds, or there is a first one that
fails; then its error is the outcome, and there are no calls for what is left. -/
def Course (f : α → ExceptT ε (StateM σ) β) (l : List α) (s : σ) (called : List α) (s' : σ) :
    Except ε (List β) → Prop
  | .ok bs => called = l ∧ Answers f l s bs s'
  | .error e => ∃ done a left bs s₁, l = done ++ a :: left ∧ called = done ++ [a] ∧
      Answers f done s bs s₁ ∧ (f a).run.run s₁ = (.error e, s')

variable {f : α → ExceptT ε (StateM σ) β}

/-- A call that succeeds comes before the others. -/
theorem Course.cons {a : α} {b : β} {l called : List α} {s s₁ s' : σ} {outcome : Except ε (List β)}
    (first : (f a).run.run s = (.ok b, s₁)) (others : Course f l s₁ called s' outcome) :
    Course f (a :: l) s (a :: called) s' (outcome.map (b :: ·)) := by
  cases outcome with
  | ok bs =>
    obtain ⟨rfl, answers⟩ := others
    exact ⟨rfl, .cons first answers⟩
  | error e =>
    obtain ⟨done, a', left, bs, s₂, rfl, rfl, answers, failed⟩ := others
    exact ⟨a :: done, a', left, b :: bs, s₂, rfl, rfl, .cons first answers, failed⟩

/-- A computation that goes on where another one succeeded. -/
theorem run_bind_ok {x : ExceptT ε (StateM σ) β} {s s₁ : σ} {b : β} (h : x.run.run s = (.ok b, s₁))
    (k : β → ExceptT ε (StateM σ) γ) : (x >>= k).run.run s = (k b).run.run s₁ := by
  rw [ExceptT.run_bind, StateT.run_bind, h]
  rfl

/-- A computation that does not go on because another one failed. -/
theorem run_bind_error {x : ExceptT ε (StateM σ) β} {s s₁ : σ} {e : ε}
    (h : x.run.run s = (.error e, s₁)) (k : β → ExceptT ε (StateM σ) γ) :
    (x >>= k).run.run s = (.error e, s₁) := by
  rw [ExceptT.run_bind, StateT.run_bind, h]
  rfl

/-- Changing the result of a computation changes it where there is one. -/
theorem run_map (g : β → γ) (x : ExceptT ε (StateM σ) β) (s : σ) :
    (g <$> x).run.run s = ((x.run.run s).1.map g, (x.run.run s).2) := by
  rw [ExceptT.run_map, StateT.run_map]
  rfl

/-- **The course of a row**, with the calls written down behind what was written before. -/
theorem course_mapM (f : α → ExceptT ε (StateM σ) β) (l before : List α) (s : σ) :
    ∃ outcome called s', (l.mapM (noted f)).run.run (before, s) = (outcome, before ++ called, s') ∧
      Course f l s called s' outcome := by
  induction l generalizing before s with
  | nil => exact ⟨.ok [], [], s, by rw [List.append_nil]; rfl, rfl, .nil⟩
  | cons a l ih =>
    rw [List.mapM_cons]
    rcases first : (f a).run.run s with ⟨answer, s₁⟩
    -- The call is written down whether it succeeds or not.
    have here : (noted f a).run.run (before, s) = (answer, before ++ [a], s₁) := by
      change (((f a).run.run s).1, before ++ [a], ((f a).run.run s).2) = _
      rw [first]
    -- The call that fails is the last one, and the others are left.
    cases answer with
    | error e =>
      exact ⟨.error e, [a], s₁, run_bind_error here _, [], a, l, [], s, rfl, rfl, .nil, first⟩
    | ok b =>
      obtain ⟨outcome, called, s', run, course⟩ := ih (before ++ [a]) s₁
      refine ⟨outcome.map (b :: ·), a :: called, s', ?_, course.cons first⟩
      rw [run_bind_ok here, bind_pure_comp, run_map, run, List.append_assoc]
      rfl

/-! ### The children of a node -/

/-- Results that are related, or one failure. -/
inductive Related (R : β → γ → Prop) : Except ε β → Except ε γ → Prop
  | ok {b c} : R b c → Related R (.ok b) (.ok c)
  | error {e} : Related R (.error e) (.error e)

/-- Writing calls down, against not doing so: nothing else is different. -/
private def unnoted :
    Correspondence (ExceptT ε (StateM (List α × σ))) (ExceptT ε (StateM σ)) where
  Rel R x y := ∀ called s, Related R (x.run.run (called, s)).1 (y.run.run s).1 ∧
    (x.run.run (called, s)).2.2 = (y.run.run s).2
  pure related _ _ := ⟨.ok related, rfl⟩
  -- Both are run up to the first answer; if it is an error, neither goes on.
  bind {β γ β' γ' R S x y k l} first later called s := by
    obtain ⟨related, same⟩ := first called s
    rcases runx : x.run.run (called, s) with ⟨bx, called', s₁⟩
    rcases runy : y.run.run s with ⟨by_, s₂⟩
    rw [runx, runy] at related same
    obtain rfl : s₁ = s₂ := same
    cases related with
    | ok related =>
      rw [run_bind_ok runx, run_bind_ok runy]
      exact later _ _ related called' s₁
    | error =>
      rw [run_bind_error runx, run_bind_error runy]
      exact ⟨.error, rfl⟩

/-- Whatever comes back for the children takes their places. -/
theorem outline_of_traverse {g : α → ExceptT ε (StateM σ) β} {shape : Shape α} {shape' : Shape β}
    {s s' : σ} (run : (shape.traverse g).run.run s = (.ok shape', s')) :
    shape'.outline = shape.outline := by
  have asked := congrArg (fun x => (x.run.run s).1) (yields_traverse g shape).map_eq
  simp only [run_map, run] at asked
  exact of_eq_true (Except.ok.inj asked)

/-- **The course of the children of a node**: that of the row in which they stand. -/
theorem course_traverse (f : α → ExceptT ε (StateM σ) β) (shape : Shape α) (s : σ) :
    ∃ outcome called s',
      (shape.traverse (noted f)).run.run ([], s) = (outcome, called, s') ∧
      Course f shape.children s called s' (outcome.map Shape.children) := by
  obtain ⟨row, called, s', run, course⟩ := course_mapM f shape.children [] s
  rw [← Shape.children_traverse, run_map] at run
  rcases traversed : (shape.traverse (noted f)).run.run ([], s) with ⟨outcome, called', s''⟩
  rw [traversed] at run
  obtain ⟨rfl, written⟩ := Prod.mk.inj run
  obtain ⟨rfl, rfl⟩ := Prod.mk.inj written
  exact ⟨outcome, called', s'', rfl, course⟩

/-- Whether calls are written down makes no difference to a node. -/
theorem traverse_of_noted {f : α → ExceptT ε (StateM σ) β} {shape : Shape α} {s s' : σ}
    {called : List α} {outcome : Except ε (Shape β)}
    (run : (shape.traverse (noted f)).run.run ([], s) = (outcome, called, s')) :
    (shape.traverse f).run.run s = (outcome, s') := by
  -- The note is all in which a noted call differs from the call.
  have each (a : α) (before : List α) (s : σ) :
      Related (fun b c => id b = c) ((noted f a).run.run (before, s)).1 ((f a).run.run s).1 := by
    change Related _ ((f a).run.run s).1 ((f a).run.run s).1
    cases ((f a).run.run s).1 with
    | ok b => exact .ok rfl
    | error e => exact .error
  obtain ⟨related, same⟩ := unnoted.traverse (s := shape) (f := noted f) (k := f) (g := id)
    (fun a _ before s => ⟨each a before s, rfl⟩) [] s
  rw [run] at related same
  rcases plain : (shape.traverse f).run.run s with ⟨outcome', s''⟩
  rw [plain] at related same
  obtain rfl : s' = s'' := same
  cases related with
  -- The shapes have the same children, for they are related by the identity.
  | ok same => rw [← same, Shape.map_id]
  | error => rfl

end Passing

namespace Node

open Passing

/-- **A node made anew**: all but its identity and its children is that of the old one. -/
structure Remade (t copy : Node) (children : List Node) : Prop where
  span : copy.span = t.span
  kind : copy.kind = t.kind
  outline : copy.shape.outline = t.shape.outline
  children : copy.children = children

/-- **What the results for all children come to**: nothing, if each of them is the child itself,
and otherwise the content of the node made anew. -/
def Passed (t : Node) (results : List Node) : Option Content → Prop
  | none => results.map (·.id) = t.children.map (·.id)
  | some content => results.map (·.id) ≠ t.children.map (·.id) ∧
      ∀ id, Remade t (content.node id) results

/-- **Passing children on**, with a function that may change a state and may fail. It is called
for the children of the node, in their order and once each, up to the first call that fails. The
error of that call is the outcome; and if no call fails, then the results make the node anew,
unless each of them is the child it was for. -/
theorem mapChildren_calls {ε σ : Type} (f : Node → ExceptT ε (StateM σ) Node) (t : Node) (s : σ) :
    ∃ outcome called s',
      (t.mapChildren f).run.run s = (outcome, s') ∧
      (t.mapChildren (noted f)).run.run ([], s) = (outcome, called, s') ∧
      match outcome with
      | .error e => ∃ done n left results s₁, t.children = done ++ n :: left ∧
          called = done ++ [n] ∧ Answers f done s results s₁ ∧ (f n).run.run s₁ = (.error e, s')
      | .ok made => called = t.children ∧
          ∃ results, Answers f t.children s results s' ∧ t.Passed results made := by
  obtain ⟨outcome, called, s', run, course⟩ := course_traverse f t.shape s
  have plain := traverse_of_noted run
  rw [mapChildren_eq, mapChildren_eq]
  cases outcome with
  -- Failed: no node is made in either run, and the calls are those up to the failure.
  | error e =>
    exact ⟨.error e, called, s', run_bind_error plain _, run_bind_error run _, course⟩
  | ok shape =>
    obtain ⟨all, answers⟩ := course
    refine ⟨_, called, s', run_bind_ok plain _, run_bind_ok run _, all, shape.children, answers, ?_⟩
    have outline := outline_of_traverse plain
    -- Either all the results are the children themselves, or the node is made anew.
    split
    · next same => exact same
    · next changed =>
      refine ⟨changed, fun i => ⟨rfl, ?_, outline, rfl⟩⟩
      calc shape.kind = shape.outline.kind := (Shape.kind_map _ shape).symm
        _ = t.shape.outline.kind := by rw [outline]
        _ = t.kind := Shape.kind_map _ t.shape

end Node

end SyntaxTour
