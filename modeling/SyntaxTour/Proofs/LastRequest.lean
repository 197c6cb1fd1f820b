import SyntaxTour.Proofs.Version

/-!
# The last request for each node

The replacement of a node can be looked for among the requests, from the last one backwards, or
in the table that a patch makes of its requests when it is applied. Both find the same, and
applying a patch asks for nothing else. So patches in which the last request is the same for
each node make the same versions, whatever else they contain and in whatever order.

* `Patch.about` lists the requests about one node, and `Patch.get?_eq_getLast?` says that the
  replacement is that of the last of them.
* `Patch.SameVersions` says that two patches make the same versions of all trees;
  `Patch.sameVersions_of_get?` shows it from the replacements.
* `Patch.sameVersions_of_last` is the law, with what it says of requests that change places and
  of requests that were overtaken by a later one.
-/

namespace SyntaxTour

namespace Patch

/-- The requests about the node of an identity, oldest first. -/
def about (p : Patch) (key : Nat) : List Request := p.requests.filter fun r => r.old.id == key

/-- **Two patches make the same versions**: applied to the same tree, with the same identities
left to give, they return the same tree and take the same identities. -/
def SameVersions (p p' : Patch) : Prop :=
  ∀ root next, (p.apply (m := Fresh) root next).1.1 = (p'.apply (m := Fresh) root next).1.1 ∧
    (p.apply (m := Fresh) root next).2 = (p'.apply (m := Fresh) root next).2

variable {p p' : Patch}

/-! ### Looking a replacement up -/

/-- The two ways of looking a replacement up find the same. -/
theorem replacementFor?_eq (p : Patch) (n : Node) :
    p.replacementFor? n = p.replacements.get? n.id :=
  (get?_replacements p n.id).symm

/-- Either way it is the last request about the node that is found. -/
theorem get?_eq_getLast? (p : Patch) (key : Nat) :
    p.replacements.get? key = (p.about key).getLast?.map (·.new) := by
  rw [get?_replacements, List.findRev?_eq_find?_reverse, ← List.head?_filter, List.filter_reverse,
    List.head?_reverse, about]

/-- Applying a patch asks for replacements and for nothing else. -/
theorem sameVersions_of_get?
    (same : ∀ key, p.replacements.get? key = p'.replacements.get? key) : p.SameVersions p' := by
  intro root next
  have pending (n : Node) :
      pending? p.replacements [] n = pending? p'.replacements [] n := by
    rw [pending?, pending?, same]
  have draft : rebuild p.replacements [] root = rebuild p'.replacements [] root :=
    rebuild_congr pending root
  rw [run_apply, run_apply, draft]
  exact ⟨rfl, rfl⟩

/-! ### Replacements by identity -/

variable {a : Arena}

/-- A replacement in one patch is the replacement in another, if they are the same by their
identities wherever a node of the arena is asked about. -/
theorem get?_eq_some_of_id (hp : a.HoldsPatch p) (hp' : a.HoldsPatch p')
    (same : ∀ n, a.Holds n → (p.replacementFor? n).map (·.id) = (p'.replacementFor? n).map (·.id))
    {key : Nat} {new : Node} (found : p.replacements.get? key = some new) :
    p'.replacements.get? key = some new := by
  obtain ⟨r, mem, rfl, rfl⟩ := exists_request_of_get? found
  have here := same r.old (hp r mem).1
  rw [replacementFor?_eq, replacementFor?_eq, found, Option.map_some, eq_comm,
    Option.map_eq_some_iff] at here
  obtain ⟨new, found', id⟩ := here
  -- Both are nodes of the arena, where an identity stands for one node.
  have held : a.Holds new := holds_replacement hp' _ _ found'
  rw [found', a.eq_of_id held (hp r mem).2 id]

theorem get?_eq_of_id (hp : a.HoldsPatch p) (hp' : a.HoldsPatch p')
    (same : ∀ n, a.Holds n → (p.replacementFor? n).map (·.id) = (p'.replacementFor? n).map (·.id))
    (key : Nat) : p.replacements.get? key = p'.replacements.get? key := by
  cases found : p.replacements.get? key with
  | some new => exact (get?_eq_some_of_id hp hp' same found).symm
  | none =>
    cases found' : p'.replacements.get? key with
    | none => rfl
    | some new =>
      have back := get?_eq_some_of_id hp' hp (fun n hn => (same n hn).symm) found'
      exact absurd (found.symm.trans back) (Option.some_ne_none new).symm

/-! ### Requests that make no difference -/

/-- A request that a later one about the same node has overtaken is not found any more. -/
theorem get?_eq_of_overtaken {earlier later : List Request} {r : Request}
    (overtaken : ∃ r' ∈ later, r'.old.id = r.old.id) (key : Nat) :
    (Patch.mk (earlier ++ r :: later)).replacements.get? key =
      (Patch.mk (earlier ++ later)).replacements.get? key := by
  rw [get?_eq_getLast?, get?_eq_getLast?, about, about, List.filter_append, List.filter_append]
  by_cases here : r.old.id = key
  · obtain ⟨r', mem, same⟩ := overtaken
    have left : (later.filter fun r => r.old.id == key) ≠ [] :=
      List.ne_nil_of_mem (List.mem_filter.mpr ⟨mem, by simpa using same.trans here⟩)
    -- What comes last comes after the request that was overtaken, and stays there without it.
    rw [List.filter_cons_of_pos (by simpa using here), List.getLast?_append, List.getLast?_append,
      List.getLast?_cons, List.getLast?_eq_some_getLast left]
    rfl
  · rw [List.filter_cons_of_neg (by simpa using here)]

/-- **Versions are determined by the last request for each node.** In every arena, the two ways of
looking a replacement up agree, and patches with the same replacements, by identity, make the
same versions. So do patches that have the same requests about each node in the same order, even
if requests about different nodes have changed places; and so does a patch without a request that
is followed by another one about the same node. -/
theorem sameVersions_of_last (a : Arena) (p : Patch) (hp : a.HoldsPatch p) :
    (∀ n, p.replacementFor? n = p.replacements.get? n.id) ∧
    (∀ p', a.HoldsPatch p' →
      (∀ n, a.Holds n →
        (p.replacementFor? n).map (·.id) = (p'.replacementFor? n).map (·.id)) →
      p.SameVersions p') ∧
    (∀ p', (∀ key, p.about key = p'.about key) → p.SameVersions p') ∧
    ∀ earlier r later, p.requests = earlier ++ r :: later →
      (∃ r' ∈ later, r'.old.id = r.old.id) → p.SameVersions ⟨earlier ++ later⟩ := by
  -- Only the replacement that each node ends up with decides about the versions.
  refine ⟨replacementFor?_eq p, fun p' hp' same => ?_, fun p' same => ?_, ?_⟩
  · exact sameVersions_of_get? (get?_eq_of_id hp hp' same)
  · refine sameVersions_of_get? fun key => ?_
    -- The requests about the other nodes may have been made in any order.
    rw [get?_eq_getLast?, get?_eq_getLast?, same key]
  · intro earlier r later split overtaken
    obtain ⟨requests⟩ := p
    obtain rfl : requests = earlier ++ r :: later := split
    exact sameVersions_of_get? (get?_eq_of_overtaken overtaken)

/-! ### A request that is overtaken -/

namespace Overtaken

open Looping (first second around)

/-- The first request is overtaken by the last one. -/
def patch : Patch := ⟨[⟨first, around⟩, ⟨second, around⟩, ⟨first, second⟩]⟩

/-- The requests about the two statements have changed places. -/
def exchanged : Patch := ⟨[⟨second, around⟩, ⟨first, around⟩, ⟨first, second⟩]⟩

theorem holdsPatch_arena : Looping.arena.HoldsPatch patch := by
  obtain ⟨first, second, around, -⟩ := Looping.holds_arena
  simp [Arena.HoldsPatch, patch, first, second, around]

theorem replacementFor?_patch (n : Node) :
    patch.replacementFor? n = Looping.patch.replacementFor? n := by
  by_cases one : n.id = 0
  · simp [replacementFor?, patch, Looping.patch, first, second, one]
  · by_cases two : n.id = 1
    · simp [replacementFor?, patch, Looping.patch, first, second, two]
    · simp [replacementFor?, patch, Looping.patch, first, second, Ne.symm one,
        Ne.symm two]

theorem about_patch (key : Nat) : patch.about key = exchanged.about key := by
  by_cases one : key = 0
  · simp [about, patch, exchanged, first, second, one]
  · simp [about, patch, exchanged, List.filter_cons, first, second, Ne.symm one]

end Overtaken

open Overtaken in
open Looping (first second around) in
/-- The first of three requests is overtaken by the last. Leaving it out, or exchanging the requests
about the two statements, makes no other versions. -/
theorem sameVersions_of_last_overtaken :
    Looping.arena.HoldsPatch patch ∧ Looping.arena.HoldsPatch Looping.patch ∧
      (∀ n, Looping.arena.Holds n → (patch.replacementFor? n).map (·.id) =
        (Looping.patch.replacementFor? n).map (·.id)) ∧
      (∀ key, patch.about key = exchanged.about key) ∧
      patch.replacementFor? first = patch.replacements.get? first.id ∧
      patch.SameVersions Looping.patch ∧ patch.SameVersions exchanged ∧
      patch.SameVersions ⟨[⟨second, around⟩, ⟨first, second⟩]⟩ := by
  have same (n : Node) (_ : Looping.arena.Holds n) : (patch.replacementFor? n).map (·.id) =
      (Looping.patch.replacementFor? n).map (·.id) := by rw [replacementFor?_patch]
  obtain ⟨paths, identity, order, overtaken⟩ :=
    sameVersions_of_last Looping.arena patch holdsPatch_arena
  refine ⟨holdsPatch_arena, Looping.holdsPatch_arena, same, about_patch, paths first,
    identity _ Looping.holdsPatch_arena same, order _ about_patch,
    overtaken [] ⟨first, around⟩ [⟨second, around⟩, ⟨first, second⟩] rfl ?_⟩
  exact ⟨⟨first, second⟩, by simp, rfl⟩

end Patch

end SyntaxTour
