import SyntaxTour.Shape

/-!
# Corresponding computations

Two computations in different monads can do the same thing as far as some relation between
their results and their effects goes: one counts identities and the other has no effects at
all, or one keeps a stack that the other knows nothing of. A correspondence is such a
relation. It has to hold of results without effects and to pass through sequencing, and then
it passes through every row of children and every node:

* `Correspondence` is the relation, with the two laws it has to satisfy.
* `Correspondence.traverse` carries it from the children of a node to `Shape.traverse`.

The second computation may be the simpler one of the two, so its results are compared through
a function `g`: they are the images of the results of the first.
-/

namespace SyntaxTour

/-- **A relation between the computations of two monads.** `Rel R x y` says that `x` and `y`
correspond and that their results are related by `R`. -/
structure Correspondence (m m' : Type → Type) [Monad m] [Monad m'] where
  Rel : {β γ : Type} → (β → γ → Prop) → m β → m' γ → Prop
  /-- Related results without effects correspond. -/
  pure {β γ : Type} {R : β → γ → Prop} {b : β} {c : γ} : R b c → Rel R (pure b) (pure c)
  /-- Corresponding computations can be gone on with in corresponding ways. -/
  bind {β γ β' γ' : Type} {R : β → γ → Prop} {S : β' → γ' → Prop} {x : m β} {y : m' γ}
    {k : β → m β'} {l : γ → m' γ'} :
    Rel R x y → (∀ b c, R b c → Rel S (k b) (l c)) → Rel S (x >>= k) (y >>= l)

namespace Correspondence

variable {m m' : Type → Type} [Monad m] [Monad m'] [LawfulMonad m] [LawfulMonad m']
  (C : Correspondence m m') {α β γ : Type} {f : α → m β} {k : α → m' γ} {g : β → γ}

/-- Corresponding functions correspond along a row. -/
theorem mapM_list {l : List α} (h : ∀ a ∈ l, C.Rel (fun b c => g b = c) (f a) (k a)) :
    C.Rel (fun bs cs => bs.map g = cs) (l.mapM f) (l.mapM k) := by
  induction l with
  | nil =>
    rw [List.mapM_nil, List.mapM_nil]
    exact C.pure rfl
  | cons a l ih =>
    rw [List.mapM_cons, List.mapM_cons]
    -- Each of the two results on the right is the image of the one on the left.
    refine C.bind (h a List.mem_cons_self) ?_
    rintro b _ rfl
    refine C.bind (ih fun a mem => h a (List.mem_cons_of_mem _ mem)) ?_
    rintro bs _ rfl
    exact C.pure rfl

/-- Corresponding functions correspond at an optional child. -/
theorem mapM_option {o : Option α} (h : ∀ a ∈ o, C.Rel (fun b c => g b = c) (f a) (k a)) :
    C.Rel (fun b c => b.map g = c) (o.mapM f) (o.mapM k) := by
  cases o with
  | none =>
    rw [Option.mapM_none, Option.mapM_none]
    exact C.pure rfl
  | some a =>
    rw [Option.mapM_some, Option.mapM_some, map_eq_pure_bind, map_eq_pure_bind]
    refine C.bind (h a rfl) ?_
    rintro b _ rfl
    exact C.pure rfl

/-- Functions that correspond everywhere correspond at a node. The places of the node are
passed one after the other, each by the rule for its sort. -/
private theorem traverse_of_forall (h : ∀ a, C.Rel (fun b c => g b = c) (f a) (k a))
    (s : Shape α) :
    C.Rel (fun t t' => t.map g = t') (s.traverse f) (s.traverse k) := by
  cases s
  all_goals
    rw [Shape.traverse, Shape.traverseRows, Shape.traverse, Shape.traverseRows]
    repeat
      first
        | refine C.bind (C.mapM_list fun a _ => h a) ?_
        | refine C.bind (C.mapM_option fun a _ => h a) ?_
        | refine C.bind (h _) ?_
      rintro _ _ rfl
    exact C.pure rfl

/-- **A correspondence passes from the children of a node to the node.** -/
theorem traverse {s : Shape α}
    (h : ∀ a ∈ s.children, C.Rel (fun b c => g b = c) (f a) (k a)) :
    C.Rel (fun t t' => t.map g = t') (s.traverse f) (s.traverse k) := by
  -- Marked as children, all the values in the places satisfy the hypothesis.
  rw [← Shape.traverse_attach f, ← Shape.traverse_attach k]
  exact C.traverse_of_forall (fun a => h a.1 a.2) s.attach

end Correspondence

end SyntaxTour
