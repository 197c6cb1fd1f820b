import SyntaxTour.Import
import SyntaxTour.Proofs.Dotted
import SyntaxTour.Proofs.Marks

/-!
# Names spelled out by nodes

A chain of member selections that ends in an identifier spells out a dotted name, one word at
each of its nodes. Making such a chain for a name and reading a name from a chain undo each
other: for every name, and for every chain whose words have no dots.

* `Tree.Spells` says what a chain is and which words stand along it. Only chains have dotted
  names (`Tree.dottedName?_eq_some_iff`).
* `Tree.bare` leaves out identities and spans; of a chain, only its words remain
  (`Tree.Spells.bare`).
* `Node.yields_ofDotted` says which chain is made for a name, and `Node.ofDotted_round_trip`
  is the statement about both directions.
-/

namespace SyntaxTour

namespace Tree

variable {ι : Type}

/-! ### Chains -/

/-- **A tree that spells out words**, the first one at the identifier, and each of the others
where it is selected. -/
inductive Spells : Tree ι → String → List String → Prop where
  | ident (i : ι) (p : Span) (name : String) : Spells (.node i p (.ident name)) name []
  | select (i : ι) (p : Span) (member : String) {expression : Tree ι} {first : String}
    {others : List String} : Spells expression first others →
      Spells (.node i p (.select expression member)) first (others ++ [member])

/-- The words of a chain are joined by dots in its dotted name. -/
theorem Spells.dottedName? {t : Tree ι} {first : String} {others : List String}
    (spells : t.Spells first others) : t.dottedName? = some (Dotted.join first others) := by
  induction spells with
  | ident i p name => rw [Tree.dottedName?, Dotted.join, List.foldl_nil]
  | select i p member _ ih => rw [Tree.dottedName?, ih, Dotted.join_concat, Option.map_some]

/-- **Only chains have dotted names.** -/
theorem dottedName?_eq_some_iff (t : Tree ι) (name : String) :
    t.dottedName? = some name ↔
      ∃ first others, t.Spells first others ∧ Dotted.join first others = name := by
  constructor
  · intro found
    fun_induction Tree.dottedName? t generalizing name with
    | case1 i p word => exact ⟨word, [], .ident i p word, Option.some.inj found⟩
    | case2 i p expression member ih =>
      obtain ⟨owner, inside, rfl⟩ := Option.map_eq_some_iff.mp found
      obtain ⟨first, others, spells, rfl⟩ := ih owner inside
      exact ⟨first, others ++ [member], .select i p member spells, Dotted.join_concat ..⟩
    | case3 => exact nomatch found
  · rintro ⟨first, others, spells, rfl⟩
    exact spells.dottedName?

/-- A chain is named by its last word, as a name and as a type. -/
theorem Spells.name?_typeName? {t : Tree ι} {first : String} {others : List String}
    (spells : t.Spells first others) :
    t.name? = (first :: others).getLast? ∧ t.typeName? = (first :: others).getLast? := by
  cases spells with
  | ident i p name => exact ⟨rfl, by rw [typeName?]; rfl⟩
  | select i p member _ =>
    rw [← List.cons_append, List.getLast?_concat, typeName?]
    exact ⟨rfl, rfl⟩

/-! ### Trees without identities and spans -/

/-- **The tree itself**, without identities and spans. -/
def bare : Tree ι → Tree Unit := fold fun _ _ s => .node () .empty s

@[simp] theorem bare_node (i : ι) (p : Span) (s : Shape (Tree ι)) :
    (node i p s).bare = .node () .empty (s.map bare) := fold_node ..

/-- The chain for given words. -/
def spelled (first : String) (others : List String) : Tree Unit :=
  others.foldl (fun owner word => .node () .empty (.select owner word))
    (.node () .empty (.ident first))

/-- **Of a chain, only its words remain.** -/
theorem Spells.bare {t : Tree ι} {first : String} {others : List String}
    (spells : t.Spells first others) : t.bare = spelled first others := by
  induction spells with
  | ident i p name =>
    rw [bare_node]
    rfl
  | select i p member _ ih =>
    rw [bare_node, spelled, List.foldl_append, List.foldl_cons, List.foldl_nil, ← spelled, ← ih]
    rfl

end Tree

namespace Node

/-! ### Making chains -/

section

variable {m : Type → Type} [Monad m] [LawfulMonad m] [Supply m]

/-- Selecting one word after the other makes a chain longer by these words. -/
theorem yields_foldlM_select (words : List String) {owner : Node} {first : String}
    {others : List String} (spells : owner.Spells first others) :
    Yields (fun n => n.Spells first (others ++ words))
      (words.foldlM (fun owner word => Node.make .empty (.select owner word)) owner : m Node) := by
  induction words generalizing owner others with
  | nil =>
    rw [List.append_nil, List.foldlM_nil]
    exact .pure spells
  | cons word words ih =>
    -- The chain that is made first has one word more, and the others are put behind it.
    rw [List.foldlM_cons, List.append_cons]
    refine (yields_make _ _).bind fun selected made => ?_
    obtain ⟨i, rfl⟩ := made
    exact ih (.select i .empty word spells)

/-- **The chain for a name spells out its segments.** -/
theorem yields_ofDotted (name : String) :
    Yields (fun n => n.Spells (Dotted.segments name).1 (Dotted.segments name).2)
      (Node.ofDotted name : m Node) := by
  refine (yields_make _ _).bind fun root made => ?_
  obtain ⟨i, rfl⟩ := made
  exact yields_foldlM_select _ (.ident i .empty _)

end

/-! ### Back and forth -/

/-- **Names and chains.** The chain that is made for a name, whatever dots the name has and
wherever they are, has this dotted name; the chain, the type it refers to and an import of the name
are all called by the last segment. The other way round, the nodes that have a dotted name are
the chains, and from the name of a chain without dots in its words the same chain is made, up to
identities and spans. -/
theorem ofDotted_round_trip :
    (∀ (name : String) (next : Nat),
      let n := ((Node.ofDotted name : Fresh Node) next).1
      n.dottedName? = some name ∧
        ∃ last, (name.toList.splitOn '.').getLast? = some last.toList ∧
          n.name? = some last ∧ n.typeName? = some last ∧
          ∀ isStatic, (Import.mk name isStatic).simpleName = last) ∧
    ∀ n : Node,
      (n.dottedName?.isSome ↔ ∃ first others, n.Spells first others) ∧
      ∀ name first others, n.dottedName? = some name → n.Spells first others →
        (∀ word ∈ first :: others, '.' ∉ word.toList) →
          ∀ next, ((Node.ofDotted name : Fresh Node) next).1.bare = n.bare := by
  refine ⟨fun name next => ?_, fun n => ⟨?_, fun name first others named spells plain next => ?_⟩⟩
  · -- The node that is made spells the segments of the name.
    have spells := (yields_ofDotted name).run_fresh next
    obtain ⟨called, calledAsType⟩ := spells.name?_typeName?
    rw [Dotted.getLast?_segments] at called calledAsType
    refine ⟨?_, Dotted.simple name, Dotted.getLast?_splitOn name, called, calledAsType,
      fun _ => rfl⟩
    rw [spells.dottedName?, Dotted.join_segments]
  · -- A node has a dotted name exactly if it spells some words.
    rw [Option.isSome_iff_exists]
    constructor
    · rintro ⟨name, named⟩
      obtain ⟨first, others, spells, -⟩ := (n.dottedName?_eq_some_iff name).mp named
      exact ⟨first, others, spells⟩
    · rintro ⟨first, others, spells⟩
      exact ⟨_, spells.dottedName?⟩
  · -- The name is that of the words, and its segments are the words again.
    obtain rfl : Dotted.join first others = name :=
      Option.some.inj (spells.dottedName?.symm.trans named)
    have made := (yields_ofDotted (Dotted.join first others)).run_fresh next
    rw [Dotted.segments_join plain] at made
    rw [made.bare, spells.bare]

/-- A chain with an empty word between two dots. -/
theorem ofDotted_round_trip_gap :
    let chain : Node := .node 7 ⟨0, 4⟩ (.select (.node 5 ⟨0, 2⟩ (.select
      (.node 9 ⟨0, 1⟩ (.ident "a")) "")) "b")
    let made := ((Node.ofDotted "a..b" : Fresh Node) 0).1
    chain.dottedName? = some "a..b" ∧ chain.Spells "a" ["", "b"] ∧
      (∀ word ∈ ["a", "", "b"], '.' ∉ word.toList) ∧ made.bare = chain.bare ∧
      made.dottedName? = some "a..b" ∧ made.name? = some "b" := by
  intro chain made
  have spells : chain.Spells "a" ([] ++ [""] ++ ["b"]) :=
    .select 7 _ "b" (.select 5 _ "" (.ident 9 _ "a"))
  have named : chain.dottedName? = some "a..b" := spells.dottedName?
  have plain : ∀ word ∈ ["a", "", "b"], '.' ∉ word.toList := by decide
  have back := (ofDotted_round_trip.2 chain).2 "a..b" "a" ["", "b"] named spells plain 0
  exact ⟨named, spells, plain, back, (ofDotted_round_trip.1 "a..b" 0).1, rfl⟩

end Node

end SyntaxTour
