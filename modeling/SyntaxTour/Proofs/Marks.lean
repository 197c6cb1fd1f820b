import SyntaxTour.Proofs.Correspondence
import SyntaxTour.Tree.Edit

/-!
# Marking changes

While the children of a node are passed through a function, a mark is carried along that tells in
the end whether any of them changed. It is set at single children, and each row of children begins
with a mark of its own. Nothing is lost on the way: the mark is set at the end exactly if one of
the results is another node than the child it is for.

* `Yields` says what all results of a computation satisfy, whatever its effects are.
* `paired` keeps every child with its result, and a mark can be read off such pairs: at a child
  (`Node.run_passOne`), along a row (`Node.run_passRow`), and for a node of every kind
  (`Node.run_traverseRows`).
* `Node.mapChildren_eq` compares the children with the results instead.
-/

namespace SyntaxTour

variable {m : Type → Type} [Monad m] [LawfulMonad m] {α β : Type}

/-! ### What computations come to -/

/-- **What all results of a computation satisfy.** Whoever goes on with them can rely on it. -/
def Yields (P : β → Prop) (x : m β) : Prop :=
  ∀ (γ : Type) (k l : β → m γ), (∀ b, P b → k b = l b) → x >>= k = x >>= l

/-- Asking whether a result satisfies what all of them do. -/
theorem Yields.map_eq {P : β → Prop} {x : m β} (h : Yields P x) :
    P <$> x = (fun _ => True) <$> x := by
  rw [map_eq_pure_bind, map_eq_pure_bind]
  exact h _ _ _ fun b satisfied => by rw [eq_true satisfied]

/-- A result that is given is all there is. -/
theorem Yields.pure {P : β → Prop} {b : β} (h : P b) : Yields P (Pure.pure b : m β) := by
  intro γ k l same
  rw [pure_bind, pure_bind]
  exact same b h

/-- What comes of going on can rely on what comes first. -/
theorem Yields.bind {P : α → Prop} {Q : β → Prop} {x : m α} {f : α → m β} (first : Yields P x)
    (later : ∀ a, P a → Yields Q (f a)) : Yields Q (x >>= f) := by
  intro γ k l same
  rw [bind_assoc, bind_assoc]
  exact first _ _ _ fun a satisfied => later a satisfied _ _ _ same

/-- A node that is made has the span and the shape that are asked for. -/
theorem yields_make [Supply m] (span : Span) (shape : Shape Node) :
    Yields (fun n => ∃ i, n = .node i span shape) (Node.make span shape : m Node) := by
  have any : Yields (fun _ => True) (Supply.fresh : m Nat) := fun _ _ _ same =>
    bind_congr fun i => same i trivial
  exact any.bind fun i _ => .pure ⟨i, rfl⟩

/-- Where identities are counted, there is always a result. -/
theorem Yields.run_fresh {P : β → Prop} {x : Fresh β} (h : Yields P x) (next : Nat) :
    P (x next).1 := by
  have asked : (P (x next).1, (x next).2) = (True, (x next).2) := congrFun h.map_eq next
  exact of_eq_true (Prod.mk.inj asked).1

/-- Computations that can be gone on with in the same way, given results that are related. -/
private def alike : Correspondence m m where
  Rel R x y := ∀ (γ : Type) (k l : _ → m γ), (∀ b c, R b c → k b = l c) → x >>= k = y >>= l
  pure related _ k l same := by
    rw [pure_bind, pure_bind]
    exact same _ _ related
  bind first later _ k l same := by
    rw [bind_assoc, bind_assoc]
    exact first _ _ _ fun b c related => later b c related _ k l same

/-- Any computation, against one without effects that says what it comes to. -/
private def yielding : Correspondence m Id where
  Rel R x c := Yields (fun b => R b c.run) x
  pure related := .pure related
  bind first later := first.bind fun b related => later b _ related

/-- Whatever comes back for the children takes their places. -/
theorem yields_traverse (f : α → m β) (s : Shape α) :
    Yields (fun s' => (s'.map fun _ => ()) = s.map fun _ => ()) (s.traverse f) := by
  have inside := yielding.traverse (s := s) (f := f) (k := fun _ => (pure () : Id Unit))
    (g := fun _ => ()) fun _ _ _ k l same => bind_congr fun b => same b rfl
  rw [Shape.traverse_pure fun _ => ()] at inside
  exact inside

/-- Keeping what is passed on together with the result. -/
def paired (f : α → m β) (a : α) : m (α × β) := do
  let b ← f a
  pure (a, b)

/-- The pairs hold the results. -/
theorem traverse_paired (f : α → m β) (s : Shape α) :
    (s.traverse (paired f) >>= fun pairs => pure (pairs.map Prod.snd)) = s.traverse f := by
  have same := alike.traverse (s := s) (f := paired f) (k := f) (g := Prod.snd)
    fun a _ _ k l same => by
      rw [paired, bind_assoc]
      exact bind_congr fun b => (pure_bind ..).trans (same (a, b) b rfl)
  rw [same _ _ pure fun pairs s' found => by rw [found], bind_pure]

/-- The pairs hold what was passed on, too. -/
theorem yields_paired (f : α → m β) (s : Shape α) :
    Yields (fun pairs => pairs.map Prod.fst = s) (s.traverse (paired f)) := by
  have inside := yielding.traverse (s := s) (f := paired f) (k := fun a => (pure a : Id α))
    (g := Prod.fst) fun a _ _ k l same => by
      rw [paired, bind_assoc, bind_assoc]
      exact bind_congr fun b => by rw [pure_bind, pure_bind, same (a, b) rfl]
  have same : s.map (fun a => a) = s := s.map_id
  rw [Shape.traverse_pure fun a => a, same] at inside
  exact inside

namespace Node

/-! ### The mark along the way -/

/-- Whether another node came back. -/
def differs (pair : Node × Node) : Bool := pair.2.id != pair.1.id

variable (f : Node → m Node)

/-- A change is marked where another node comes back. -/
theorem run_passOne (n : Node) (marked : Bool) :
    (passOne f n).run marked =
      paired f n >>= fun pair => pure (pair.2, marked || differs pair) := by
  unfold passOne paired
  simp only [StateT.run_bind, StateT.run_monadLift, bind_assoc, pure_bind]
  refine bind_congr fun result => ?_
  by_cases same : result.id = n.id
  · simp [differs, same]
  · have marks : (result.id != n.id) = true := bne_iff_ne.mpr same
    simp [differs, same, marks]

/-- Along a row, what is marked stays marked. -/
theorem run_passAll (row : List Node) (marked : Bool) :
    (row.mapM (passOne f)).run marked =
      row.mapM (paired f) >>= fun pairs =>
        pure (pairs.map Prod.snd, marked || pairs.any differs) := by
  induction row generalizing marked with
  | nil => simp
  | cons n row ih =>
    simp only [List.mapM_cons, StateT.run_bind, run_passOne, ih, bind_assoc, pure_bind,
      StateT.run_pure, List.map_cons, List.any_cons, Bool.or_assoc]

/-- A row with a mark of its own comes to the same. -/
theorem run_passRow (row : List Node) (marked : Bool) :
    (passRow f row).run marked =
      row.mapM (paired f) >>= fun pairs =>
        pure (pairs.map Prod.snd, marked || pairs.any differs) := by
  unfold passRow
  -- Within the row nothing is marked yet, and the mark from before is put behind.
  simp [run_passAll, Bool.or_comm]

/-- An optional child is a row of at most one. -/
theorem run_passOption (place : Option Node) (marked : Bool) :
    (place.mapM (passOne f)).run marked =
      place.mapM (paired f) >>= fun pairs =>
        pure (pairs.map Prod.snd, marked || pairs.toList.any differs) := by
  cases place with
  | none => simp
  | some n => simp [run_passOne]

/-- **The mark of a node**: whether another node came back for any of its children, wherever in the
node they stand. -/
theorem run_traverseRows (s : Shape Node) (marked : Bool) :
    (s.traverseRows (passOne f) (passRow f)).run marked =
      s.traverse (paired f) >>= fun pairs =>
        pure (pairs.map Prod.snd, marked || pairs.children.any differs) := by
  -- The places are passed in the order of the children, so the marks come in that order too.
  cases s <;>
    simp only [Shape.traverseRows, Shape.traverse, Shape.map, Shape.children, StateT.run_bind,
      StateT.run_pure, run_passOne, run_passRow, run_passOption, bind_assoc, pure_bind,
      List.any_append, List.any_cons, List.any_nil, Bool.or_assoc, Bool.or_false]

/-- A change is marked exactly if the identities are not all the same. -/
theorem any_differs_eq_false_iff (pairs : List (Node × Node)) :
    pairs.any differs = false ↔
      (pairs.map Prod.snd).map (·.id) = (pairs.map Prod.fst).map (·.id) := by
  rw [List.map_map, List.map_map, List.map_inj_left, List.any_eq_false]
  simp [differs]

/-- **Nothing marked is lost, and nothing else is marked**: comparing all results with the
children in the end comes to the same. -/
theorem mapChildren_eq (t : Node) :
    t.mapChildren f = (do
      let shape ← t.shape.traverse f
      pure (if shape.children.map (·.id) = t.children.map (·.id) then none
        else some ⟨t.span, shape⟩)) := by
  unfold mapChildren
  -- The rows are gone through as one traversal that hands the children on in pairs.
  rw [run_traverseRows, ← traverse_paired f, bind_assoc, bind_assoc]
  refine yields_paired f t.shape _ _ _ fun pairs passed => ?_
  -- The pairs tell the children from the results, so the two tests are of the same rows.
  have children : t.children = pairs.children.map Prod.fst := by
    rw [← Shape.children_map, passed]
    rfl
  have unchanged := any_differs_eq_false_iff pairs.children
  rw [← children, ← Shape.children_map] at unchanged
  rw [pure_bind, pure_bind, Bool.false_or]
  -- Some mark was set if, and only if, an identity has changed.
  cases marked : pairs.children.any differs with
  | false =>
    rw [if_pos (unchanged.mp marked)]
    rfl
  | true =>
    have changed := mt unchanged.mpr (by simp [marked])
    rw [if_neg changed]
    rfl

end Node

end SyntaxTour
