import Mathlib.Logic.Relation
import SyntaxTour.Tree.Signature

/-!
# Members in order

Two comparisons of members are made to sort by: one of variables and one of methods. Each of
them has to say something about any two nodes, and so it goes over from one rule to another
where a node is not what it was made for. Whoever sorts needs to know that the rules fit
together.

* `IsTotalPreorder` is what a comparison has to satisfy. A lexicographic comparison of keys
  does, and both comparisons are of this form: `variableOrder_eq`, `methodOrder_eq`.
* `Signature` is all that the second of them reads of a method. `Signature.Precedes` is the
  order of signatures, with the first difference between two rows of types written out.
* `Retouched` is a change to a declaration that leaves its signature alone.
* `memberOrders_sort` puts these together.
-/

namespace SyntaxTour

/-! ### Comparisons to sort by -/

/-- **A comparison to sort by**: everything ties with itself, the other way round is the
reverse, what is not greater is not greater along two steps, and what ties compares alike with
everything else. -/
structure IsTotalPreorder {α : Type} (cmp : α → α → Ordering) : Prop where
  self (a : α) : cmp a a = .eq
  swap (a b : α) : cmp b a = (cmp a b).swap
  trans (a b c : α) : cmp a b ≠ .gt → cmp b c ≠ .gt → cmp a c ≠ .gt
  congr (a b c : α) : cmp a b = .eq → cmp a c = cmp b c

/-- The comparisons that the core library calls transitive. -/
theorem IsTotalPreorder.of_transCmp {α : Type} (cmp : α → α → Ordering) [Std.TransCmp cmp] :
    IsTotalPreorder cmp where
  self _ := Std.ReflCmp.compare_self
  swap _ _ := Std.OrientedCmp.eq_swap
  trans a b c first second := by
    have first : (cmp a b).isLE := Ordering.ne_gt_iff_isLE.mp first
    have second : (cmp b c).isLE := Ordering.ne_gt_iff_isLE.mp second
    exact Ordering.ne_gt_iff_isLE.mpr (Std.TransCmp.isLE_trans first second)
  congr _ _ _ tie := Std.TransCmp.congr_left tie

instance : Std.TransOrd Kind :=
  inferInstanceAs (Std.TransCmp (compareOn Kind.index))

/-- Kinds tie only with themselves. -/
instance : Std.LawfulEqOrd Kind where
  eq_of_compare tie := Kind.index_inj.mp (Std.LawfulEqOrd.eq_of_compare tie)

/-! ### Signatures -/

/-- **What a method is compared by**: its name, and the simple names of the types of its
parameters. A parameter may have no type, or one that has no name. -/
structure Signature where
  name : String
  types : List (Option String)
  deriving DecidableEq

namespace Signature

/-- Signatures compare by name, then by the number of types, then by the types. -/
instance : Ord Signature where
  compare := compareLex (compareOn name) (compareLex (compareOn (·.types.length)) (compareOn types))

instance : Std.TransOrd Signature :=
  inferInstanceAs (Std.TransCmp (compareLex (compareOn name)
    (compareLex (compareOn (·.types.length)) (compareOn types))))

theorem compare_eq (s s' : Signature) :
    compare s s' = (compare s.name s'.name).then
      ((compare s.types.length s'.types.length).then (compare s.types s'.types)) := rfl

/-- Signatures tie only with themselves. -/
instance : Std.LawfulEqOrd Signature where
  compare_self := Std.ReflCmp.compare_self
  eq_of_compare {s s'} tie := by
    obtain ⟨name, types⟩ := s
    obtain ⟨name', types'⟩ := s'
    rw [compare_eq, Ordering.then_eq_eq, Ordering.then_eq_eq] at tie
    obtain ⟨sameName, -, sameTypes⟩ := tie
    obtain rfl := Std.LawfulEqOrd.eq_of_compare sameName
    obtain rfl := Std.LawfulEqOrd.eq_of_compare sameTypes
    rfl

/-- **The order of signatures.** The names decide, then the numbers of types, and then the
first place at which the types differ: a missing type comes before every other. -/
def Precedes (s s' : Signature) : Prop :=
  s.name < s'.name ∨ s.name = s'.name ∧
    (s.types.length < s'.types.length ∨ s.types.length = s'.types.length ∧
      List.Lex (Option.lt (· < ·)) s.types s'.types)

end Signature

theorem compare_string_eq_lt {a b : String} : compare a b = .lt ↔ a < b :=
  compareOfLessAndEq_eq_lt

theorem compare_option_eq_lt {a b : Option String} :
    compare a b = .lt ↔ Option.lt (· < ·) a b := by
  cases a with
  | none => cases b <;> simp [Option.lt, compare]
  | some a =>
    cases b with
    | none => simp [Option.lt, compare]
    | some b => exact compare_string_eq_lt

/-- A row of types comes before another one where the first difference says so. -/
theorem compare_types_eq_lt {types types' : List (Option String)} :
    compare types types' = .lt ↔ List.Lex (Option.lt (· < ·)) types types' := by
  -- By the first list: the shorter one comes first, else the first difference decides.
  induction types generalizing types' with
  | nil =>
    cases types' with
    | nil => simp
    | cons b types' => simp [List.compare_nil_cons]
  | cons a types ih =>
    cases types' with
    | nil => simp [List.compare_cons_nil]
    | cons b types' =>
      rw [List.compare_cons_cons, Ordering.then_eq_lt, ih, compare_option_eq_lt,
        Std.LawfulEqOrd.compare_eq_iff_eq]
      -- The heads are in order, or they are equal and the tails are in order.
      constructor
      · rintro (less | ⟨rfl, less⟩)
        · exact .rel less
        · exact .cons less
      · rintro (_ | less | less)
        · exact .inl less
        · exact .inr ⟨rfl, less⟩

theorem Signature.compare_eq_lt {s s' : Signature} : compare s s' = .lt ↔ s.Precedes s' := by
  rw [compare_eq, Ordering.then_eq_lt, Ordering.then_eq_lt, compare_string_eq_lt,
    compare_types_eq_lt, Nat.compare_eq_lt, Nat.compare_eq_eq, Std.LawfulEqOrd.compare_eq_iff_eq]
  exact Iff.rfl

namespace Tree

variable {ι : Type}

/-- The signature of a method. -/
def signature? (t : Tree ι) : Option Signature :=
  match t.shape with
  | .methodDecl name parameters _ _ => some ⟨name, parameters.map parameterType?⟩
  | _ => none

/-- Methods are the nodes with a signature. -/
theorem isSome_signature?_iff {t : Tree ι} : t.signature?.isSome ↔ t.kind = .methodDecl := by
  obtain ⟨i, span, shape⟩ := t
  cases shape <;> simp [signature?, kind, Shape.kind]

/-! ### Both comparisons as comparisons of keys -/

/-- Where the first comparison decides, the second one does not matter. -/
theorem then_of_ne_eq {o : Ordering} (decided : o ≠ .eq) (o' : Ordering) : o.then o' = o := by
  cases o with
  | eq => exact absurd rfl decided
  | lt => rfl
  | gt => rfl

theorem compareMissingFirst_eq (a b : Option String) :
    compareMissingFirst compare a b = compare a b := by
  cases a <;> cases b <;> rfl

/-- Of two rows of one length, the first difference tells which comes first. -/
theorem firstDifference_zipWith {α : Type} (cmp : α → α → Ordering) {l l' : List α}
    (same : l.length = l'.length) :
    firstDifference (List.zipWith cmp l l') = List.compareLex cmp l l' := by
  induction l generalizing l' with
  | nil =>
    obtain rfl : l' = [] := List.length_eq_zero_iff.mp same.symm
    rfl
  | cons a l ih =>
    obtain _ | ⟨b, l'⟩ := l'
    · cases same
    · rw [List.compareLex_cons_cons, ← ih (Nat.succ.inj same)]
      rfl

/-- Two methods compare as their signatures do. -/
theorem methodOrder_of_signatures {left right : Tree ι} {s s' : Signature}
    (hl : left.signature? = some s) (hr : right.signature? = some s') :
    methodOrder left right = compare s s' := by
  obtain ⟨i, span, shape⟩ := left
  obtain ⟨i', span', shape'⟩ := right
  cases shape with
  | methodDecl name parameters result body =>
    cases shape' with
    | methodDecl name' parameters' result' body' =>
      obtain rfl := Option.some.inj hl
      obtain rfl := Option.some.inj hr
      rw [Signature.compare_eq, List.length_map, List.length_map]
      unfold methodOrder
      -- The names are compared in the same way; what is left are the parameters.
      dsimp only [shape_node]
      congr 1
      by_cases same : parameters.length = parameters'.length
      · rw [List.compare_eq_compareLex, ← firstDifference_zipWith _ (by simpa using same),
          List.zipWith_map]
        simp only [compareMissingFirst_eq]
      · -- With different numbers of parameters, the types are not looked at.
        have decided : compare parameters.length parameters'.length ≠ .eq :=
          fun tie => same (Nat.compare_eq_eq.mp tie)
        rw [then_of_ne_eq decided, then_of_ne_eq decided]
    | _ => cases hr
  | _ => cases hl

/-- Nodes that are not both methods compare as their kinds do. -/
theorem methodOrder_of_none {left right : Tree ι}
    (h : left.signature? = none ∨ right.signature? = none) :
    methodOrder left right = compare left.kind right.kind := by
  obtain ⟨i, span, shape⟩ := left
  obtain ⟨i', span', shape'⟩ := right
  cases shape with
  | methodDecl name parameters result body =>
    cases shape' with
    | methodDecl name' parameters' result' body' => rcases h with h | h <;> cases h
    | _ => rfl
  | _ => rfl

/-- **The comparison of methods is one of keys**: the kind first, and then the signature. -/
theorem methodOrder_eq :
    methodOrder (ι := ι) = compareLex (compareOn kind) (compareOn signature?) := by
  funext left right
  change _ = (compare left.kind right.kind).then (compare left.signature? right.signature?)
  by_cases same : left.kind = right.kind
  · have kinds : compare left.kind right.kind = .eq := Std.LawfulEqOrd.compare_eq_iff_eq.mpr same
    rw [kinds, Ordering.eq_then]
    -- Of two nodes of one kind, both are methods or neither is.
    have both : left.signature?.isSome = right.signature?.isSome := by
      rw [Bool.eq_iff_iff, isSome_signature?_iff, isSome_signature?_iff, same]
    cases hl : left.signature? with
    | none =>
      cases hr : right.signature? with
      | none => exact (methodOrder_of_none (.inl hl)).trans kinds
      | some s' => simp [hl, hr] at both
    | some s =>
      cases hr : right.signature? with
      | none => simp [hl, hr] at both
      | some s' => exact methodOrder_of_signatures hl hr
  · -- The kinds differ and decide; two methods would be of one kind.
    have decided : compare left.kind right.kind ≠ .eq :=
      fun tie => same (Std.LawfulEqOrd.eq_of_compare tie)
    rw [then_of_ne_eq decided]
    apply methodOrder_of_none
    cases hl : left.signature? with
    | none => exact .inl rfl
    | some s =>
      cases hr : right.signature? with
      | none => exact .inr rfl
      | some s' =>
        have methodLeft : left.kind = .methodDecl := isSome_signature?_iff.mp (by rw [hl]; rfl)
        have methodRight : right.kind = .methodDecl := isSome_signature?_iff.mp (by rw [hr]; rfl)
        exact absurd (methodLeft.trans methodRight.symm) same

instance : Std.TransCmp (methodOrder (ι := ι)) := by
  rw [methodOrder_eq]
  infer_instance

/-- **The comparison of variables is one of keys**: variables before other nodes, then the
simple name of the type, then the name. -/
theorem variableOrder_eq :
    variableOrder (ι := ι) = compareLex (compareOn (·.variableKey?.isNone))
      (compareLex (compareOn (·.variableKey?.map (·.1))) (compareOn (·.variableKey?.map (·.2)))) := by
  funext left right
  change variableOrder left right =
    (compare left.variableKey?.isNone right.variableKey?.isNone).then
      ((compare (left.variableKey?.map (·.1)) (right.variableKey?.map (·.1))).then
        (compare (left.variableKey?.map (·.2)) (right.variableKey?.map (·.2))))
  -- Missing keys come first; of two keys, the names and then the types decide.
  unfold variableOrder
  cases left.variableKey? with
  | none => cases right.variableKey? <;> rfl
  | some l =>
    cases right.variableKey? with
    | none => rfl
    | some r =>
      dsimp only
      rw [compareMissingFirst_eq]
      rfl

instance : Std.TransCmp (variableOrder (ι := ι)) := by
  rw [variableOrder_eq]
  infer_instance

/-! ### What a signature does not depend on -/

/-- **Another spelling of a type**: with other spans or identities, with or without an owner,
with or without type arguments, and the same about what is in brackets. -/
inductive Respelled : Tree ι → Tree ι → Prop
  | place {i i' span span' shape} : Respelled (.node i span shape) (.node i' span' shape)
  | owner {i span owner owner' member} :
    Respelled (.node i span (.select owner member)) (.node i span (.select owner' member))
  | qualified {i span owner name} :
    Respelled (.node i span (.ident name)) (.node i span (.select owner name))
  | arguments {i span base arguments arguments'} :
    Respelled (.node i span (.genericType base arguments))
      (.node i span (.genericType base arguments'))
  | applied {i span base arguments} : Respelled base (.node i span (.genericType base arguments))
  | base {i span base base' arguments} : Respelled base base' →
    Respelled (.node i span (.genericType base arguments))
      (.node i span (.genericType base' arguments))
  | element {i span element element'} : Respelled element element' →
    Respelled (.node i span (.arrayType element)) (.node i span (.arrayType element'))

/-- **A change to a declaration that its signature does not show**: to spans and identities, to
the name and the initializer of a parameter and the spelling of its type, and to the result type
and the body of a method. -/
inductive Retouched : Tree ι → Tree ι → Prop
  | place {i i' span span' shape} : Retouched (.node i span shape) (.node i' span' shape)
  | variable {i span name name' type initializer initializer'} :
    Retouched (.node i span (.variableDecl name type initializer))
      (.node i span (.variableDecl name' type initializer'))
  | type {i span name type type' initializer} : Respelled type type' →
    Retouched (.node i span (.variableDecl name (some type) initializer))
      (.node i span (.variableDecl name (some type') initializer))
  | method {i span name parameters result result' body body'} :
    Retouched (.node i span (.methodDecl name parameters result body))
      (.node i span (.methodDecl name parameters result' body'))
  | parameter {i span name before parameter parameter' after result body} :
    Retouched parameter parameter' →
    Retouched (.node i span (.methodDecl name (before ++ parameter :: after) result body))
      (.node i span (.methodDecl name (before ++ parameter' :: after) result body))

variable {t t' : Tree ι}

theorem Respelled.typeName?_eq (h : Respelled t t') : t.typeName? = t'.typeName? := by
  induction h with
  | @place _ _ _ _ shape => cases shape <;> simp [typeName?]
  | owner => rfl
  | qualified => rfl
  | arguments => rfl
  | applied => rfl
  | base _ ih => exact ih
  | element _ ih => exact ih

theorem Retouched.kind_eq (h : Retouched t t') : t.kind = t'.kind := by
  cases h <;> rfl

theorem Retouched.parameterType?_eq (h : Retouched t t') :
    t.parameterType? = t'.parameterType? := by
  cases h with
  | type respelled => exact respelled.typeName?_eq
  | _ => rfl

theorem Retouched.signature?_eq (h : Retouched t t') : t.signature? = t'.signature? := by
  cases h with
  | parameter parameter =>
    unfold signature?
    dsimp only [shape_node]
    rw [List.map_append, List.map_append, List.map_cons, List.map_cons, parameter.parameterType?_eq]
  | _ => rfl

/-- Changes one after the other keep what each of them keeps. -/
theorem eq_of_eqvGen {α β : Type} {r : α → α → Prop} {f : α → β} (kept : ∀ a b, r a b → f a = f b)
    {a b : α} (h : Relation.EqvGen r a b) : f a = f b := by
  have same : Equivalence fun a b => f a = f b := ⟨fun _ => rfl, Eq.symm, Eq.trans⟩
  exact same.eqvGen_iff.mp (h.mono kept)

/-- Methods compare by kind and signature, and by nothing else. -/
theorem methodOrder_congr {l l' r r' : Tree ι} (leftKind : l.kind = l'.kind)
    (leftSignature : l.signature? = l'.signature?) (rightKind : r.kind = r'.kind)
    (rightSignature : r.signature? = r'.signature?) : methodOrder l r = methodOrder l' r' := by
  rw [methodOrder_eq]
  unfold compareLex compareOn
  rw [leftKind, leftSignature, rightKind, rightSignature]

/-- **Members can be sorted.** Both comparisons are total preorders on all nodes. That of methods
compares signatures, and kinds where one of the nodes is not a method; so it does not change with
anything that signatures do not show. -/
theorem memberOrders_sort (ι : Type) :
    IsTotalPreorder (variableOrder (ι := ι)) ∧ IsTotalPreorder (methodOrder (ι := ι)) ∧
      (∀ left right : Tree ι,
        match left.signature?, right.signature? with
        | some s, some s' =>
          (methodOrder left right = .lt ↔ s.Precedes s') ∧ (methodOrder left right = .eq ↔ s = s')
        | _, _ => methodOrder left right = compare left.kind right.kind) ∧
      ∀ l l' r r' : Tree ι, Relation.EqvGen Retouched l l' → Relation.EqvGen Retouched r r' →
        methodOrder l r = methodOrder l' r' := by
  refine ⟨.of_transCmp _, .of_transCmp _, fun left right => ?_, fun l l' r r' hl hr => ?_⟩
  · -- Two methods are compared by their signatures, and anything else by its kind.
    cases hl : left.signature? with
    | none => exact methodOrder_of_none (.inl hl)
    | some s =>
      cases hr : right.signature? with
      | none => exact methodOrder_of_none (.inr hr)
      | some s' =>
        dsimp only
        rw [methodOrder_of_signatures hl hr]
        exact ⟨Signature.compare_eq_lt, Std.LawfulEqOrd.compare_eq_iff_eq⟩
  · -- Retouching changes neither the kind nor the signature, however often it is done.
    have kinds {t t' : Tree ι} (h : Relation.EqvGen Retouched t t') : t.kind = t'.kind :=
      eq_of_eqvGen (fun _ _ h => h.kind_eq) h
    have signatures {t t' : Tree ι} (h : Relation.EqvGen Retouched t t') :
        t.signature? = t'.signature? := eq_of_eqvGen (fun _ _ h => h.signature?_eq) h
    exact methodOrder_congr (kinds hl) (signatures hl) (kinds hr) (signatures hr)

/-! ### A method before and after -/

namespace Log

/-- `log(String message)`, without a body. -/
def declared : Node :=
  .node 2 .empty (.methodDecl "log"
    [.node 1 .empty (.variableDecl "message" (some (.node 0 .empty (.ident "String"))) none)]
    none none)

/-- `log(lang.String text) {}`, and nothing in it is the same node. -/
def defined : Node :=
  .node 8 .empty (.methodDecl "log"
    [.node 5 .empty (.variableDecl "text"
      (some (.node 4 .empty (.select (.node 3 .empty (.ident "lang")) "String"))) none)]
    none (some (.node 7 .empty (.block false []))))

/-- A method that comes after both of them. -/
def other : Node := .node 9 .empty (.methodDecl "warn" [] none none)

/-- `log` with a given parameter, under the identity it ends with. -/
def method (parameter : Node) : Node :=
  .node 8 .empty (.methodDecl "log" [parameter] none none)

theorem eqvGen_method {q q' : Node} (h : Retouched q q') :
    Relation.EqvGen Retouched (method q) (method q') :=
  .rel _ _ (show Retouched (.node 8 .empty (.methodDecl "log" ([] ++ q :: []) none none))
    (.node 8 .empty (.methodDecl "log" ([] ++ q' :: []) none none)) from .parameter h)

/-- The identity of the method changes, then the name, the identity and the type of its
parameter, and at last the body. -/
theorem eqvGen_declared : Relation.EqvGen Retouched declared defined := by
  let named (name : String) : Node :=
    .node 1 .empty (.variableDecl name (some (.node 0 .empty (.ident "String"))) none)
  let typed (type : Node) : Node := .node 5 .empty (.variableDecl "text" (some type) none)
  let qualified : Node := .node 4 .empty (.select (.node 3 .empty (.ident "lang")) "String")
  -- From the declaration to the definition, one thing that may differ at a time.
  have identity : Relation.EqvGen Retouched declared (method (named "message")) :=
    .rel _ _ .place
  have name : Relation.EqvGen Retouched (method (named "message")) (method (named "text")) :=
    eqvGen_method .variable
  have parameter : Relation.EqvGen Retouched (method (named "text"))
      (method (typed (.node 0 .empty (.ident "String")))) := eqvGen_method .place
  have spelling : Relation.EqvGen Retouched (method (typed (.node 0 .empty (.ident "String"))))
      (method (typed (.node 4 .empty (.ident "String")))) := eqvGen_method (.type .place)
  have owner : Relation.EqvGen Retouched (method (typed (.node 4 .empty (.ident "String"))))
      (method (typed qualified)) := eqvGen_method (.type .qualified)
  have body : Relation.EqvGen Retouched (method (typed qualified)) defined := .rel _ _ .method
  exact .trans _ _ _ identity (.trans _ _ _ name (.trans _ _ _ parameter
    (.trans _ _ _ spelling (.trans _ _ _ owner body))))

end Log

open Log in
/-- The two spellings of one method tie, and both come before a third one. -/
theorem memberOrders_sort_log :
    Relation.EqvGen Retouched declared defined ∧ methodOrder declared defined = .eq ∧
      methodOrder declared other = methodOrder defined other ∧ methodOrder declared other = .lt := by
  obtain ⟨-, -, signatures, unchanged⟩ := memberOrders_sort Nat
  obtain ⟨-, tie⟩ := signatures declared defined
  obtain ⟨before, -⟩ := signatures declared other
  exact ⟨eqvGen_declared, tie.mpr rfl,
    unchanged _ _ _ _ eqvGen_declared (.refl other), before.mpr (.inl (by decide))⟩

end Tree

end SyntaxTour
