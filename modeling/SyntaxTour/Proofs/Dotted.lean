import SyntaxTour.Text.Dotted

/-!
# Segments, owners and last words

A dotted name is cut in two ways: from the left, at every dot, and from the right, at the last
one. Both are read here against lists of characters, where cutting at every dot is
`List.splitOn '.'`.

* `Dotted.join_segments` and `Dotted.segments_join`: cutting and joining undo each other, for all
  names and for all segments without dots.
* `Dotted.qualify` puts an owner in front of a word. `Dotted.owner?` and `Dotted.simple` take it
  off again (`Dotted.qualify_owner?_simple`, `Dotted.owner?_qualify`, `Dotted.simple_qualify`), and
  no dot is left in the word (`Dotted.not_mem_simple`).
* `Dotted.getLast?_segments`: both ways of cutting find the same last word.
-/

namespace SyntaxTour.Dotted

/-! ### Cutting at every dot -/

theorem cut_cons (c : Char) (rest : List Char) :
    cut (c :: rest) =
      if c = '.' then ([], (cut rest).1 :: (cut rest).2)
      else (c :: (cut rest).1, (cut rest).2) := rfl

/-- The pieces are those that the library cuts a list into. -/
theorem cons_cut (cs : List Char) : (cut cs).1 :: (cut cs).2 = cs.splitOn '.' := by
  induction cs with
  | nil => rfl
  | cons c rest ih =>
    rw [cut_cons, List.splitOn_cons_eq_if_modifyHead, ← ih]
    -- A dot begins a new piece, and any other character joins the first one.
    by_cases dot : c = '.'
    · rw [if_pos dot, if_pos (beq_iff_eq.mpr dot)]
    · rw [if_neg dot, if_neg (by simpa using dot)]
      rfl

/-- No piece has a dot in it. -/
theorem not_mem_of_mem_cut {cs piece : List Char} (member : piece ∈ (cut cs).1 :: (cut cs).2) :
    '.' ∉ piece := by
  induction cs generalizing piece with
  | nil =>
    obtain rfl := List.mem_singleton.mp member
    exact List.not_mem_nil
  | cons c rest ih =>
    rw [cut_cons] at member
    by_cases dot : c = '.'
    · -- At a dot a new piece begins, with nothing in it yet.
      rw [if_pos dot] at member
      rcases List.mem_cons.mp member with rfl | member
      · exact List.not_mem_nil
      · exact ih member
    · -- Any other character goes to the front of the first piece.
      rw [if_neg dot] at member
      rcases List.mem_cons.mp member with rfl | member
      · rw [List.mem_cons, not_or]
        exact ⟨Ne.symm dot, ih List.mem_cons_self⟩
      · exact ih (List.mem_cons_of_mem _ member)

/-- The characters of the segments are the pieces that the characters of the name are cut into. -/
theorem map_toList_segments (name : String) :
    ((segments name).1 :: (segments name).2).map String.toList = name.toList.splitOn '.' := by
  rw [← cons_cut]
  simp [segments, Function.comp_def]

/-- No segment has a dot in it. -/
theorem not_mem_of_mem_segments {name segment : String}
    (member : segment ∈ (segments name).1 :: (segments name).2) : '.' ∉ segment.toList := by
  have piece := List.mem_map_of_mem (f := String.toList) member
  rw [map_toList_segments, ← cons_cut] at piece
  exact not_mem_of_mem_cut piece

/-! ### Joining -/

/-- One more segment is put behind a dot. -/
theorem join_concat (first : String) (others : List String) (segment : String) :
    join first (others ++ [segment]) = join first others ++ "." ++ segment := by
  rw [join, List.foldl_append]
  rfl

/-- Joining puts a dot between any two neighbours. -/
theorem toList_join (first : String) (others : List String) :
    (join first others).toList = ['.'].intercalate ((first :: others).map String.toList) := by
  induction others generalizing first with
  | nil => exact List.intercalate_singleton.symm
  | cons segment others ih =>
    -- The first two segments are put together before the others follow.
    have further : join first (segment :: others) = join (first ++ "." ++ segment) others := rfl
    rw [further, ih, List.map_cons, List.map_cons, List.map_cons, List.intercalate_cons_cons]
    cases others with
    | nil => simp
    | cons next others =>
      rw [List.map_cons, List.intercalate_cons_cons, List.intercalate_cons_cons]
      simp

/-- **Every name is its segments joined by dots.** -/
theorem join_segments (name : String) : join (segments name).1 (segments name).2 = name := by
  rw [← String.toList_inj, toList_join, map_toList_segments, List.intercalate_splitOn]

/-- **Segments without dots are found again** in what they are joined to. -/
theorem segments_join {first : String} {others : List String}
    (plain : ∀ segment ∈ first :: others, '.' ∉ segment.toList) :
    segments (join first others) = (first, others) := by
  have pieces := map_toList_segments (join first others)
  rw [toList_join, List.splitOn_intercalate '.' (by simpa using plain) (by simp)] at pieces
  have same := (List.map_inj_right fun _ _ => String.toList_inj.mp).mp pieces
  obtain ⟨head, tail⟩ := List.cons.inj same
  exact Prod.ext head tail

/-! ### Cutting at the last dot -/

/-- Only what has no dot cannot be cut. -/
theorem cutLast?_eq_none_iff (cs : List Char) : cutLast? cs = none ↔ '.' ∉ cs := by
  induction cs with
  | nil => simp [cutLast?]
  | cons c rest ih =>
    rw [cutLast?, List.mem_cons, not_or, ← ih]
    cases cutLast? rest with
    | some parts => simp
    | none =>
      by_cases dot : c = '.'
      · simp [dot]
      · simp [dot, Ne.symm dot]

/-- What a list is cut into makes it up, and there is no dot in what follows the last one. -/
theorem eq_of_cutLast? {cs owner last : List Char} (found : cutLast? cs = some (owner, last)) :
    cs = owner ++ '.' :: last ∧ '.' ∉ last := by
  induction cs generalizing owner with
  | nil => exact nomatch found
  | cons c rest ih =>
    rw [cutLast?] at found
    split at found
    · -- The last dot is in the rest, and the character stays in front of all.
      next owner' last' found' =>
      obtain ⟨rfl, rfl⟩ := Prod.mk.inj (Option.some.inj found)
      obtain ⟨rfl, plain⟩ := ih found'
      exact ⟨rfl, plain⟩
    · next none' =>
      -- No dot follows, so only the first character can be the last one.
      split at found
      · next dot =>
        obtain ⟨rfl, rfl⟩ := Prod.mk.inj (Option.some.inj found)
        exact ⟨dot ▸ rfl, (cutLast?_eq_none_iff rest).mp none'⟩
      · exact nomatch found

/-- What is put together around a dot is cut there, if no dot follows. -/
theorem cutLast?_append (owner : List Char) {last : List Char} (plain : '.' ∉ last) :
    cutLast? (owner ++ '.' :: last) = some (owner, last) := by
  induction owner with
  | nil =>
    rw [List.nil_append, cutLast?, (cutLast?_eq_none_iff last).mpr plain]
    rfl
  | cons c owner ih => rw [List.cons_append, cutLast?, ih]

/-! ### Owners -/

/-- **A word with an owner in front of it**, or alone. -/
def qualify (owner : Option String) (word : String) : String :=
  match owner with
  | none => word
  | some owner => owner ++ "." ++ word

/-- A word without a dot is a name without an owner. -/
theorem owner?_simple_of_plain {word : String} (plain : '.' ∉ word.toList) :
    owner? word = none ∧ simple word = word := by
  rw [owner?, simple, (cutLast?_eq_none_iff _).mpr plain]
  exact ⟨rfl, rfl⟩

/-- A word with an owner is cut between the two. -/
theorem cutLast?_qualify (owner : String) {word : String} (plain : '.' ∉ word.toList) :
    cutLast? (qualify (some owner) word).toList = some (owner.toList, word.toList) := by
  rw [← cutLast?_append owner.toList plain]
  simp [qualify]

/-- **The owner in front of a word** is what it is qualified by. -/
theorem owner?_qualify (owner : Option String) {word : String} (plain : '.' ∉ word.toList) :
    owner? (qualify owner word) = owner := by
  cases owner with
  | none => exact (owner?_simple_of_plain plain).1
  | some owner =>
    rw [owner?, cutLast?_qualify owner plain]
    exact congrArg some String.ofList_toList

/-- **The word behind an owner** is the simple name. -/
theorem simple_qualify (owner : Option String) {word : String} (plain : '.' ∉ word.toList) :
    simple (qualify owner word) = word := by
  cases owner with
  | none => exact (owner?_simple_of_plain plain).2
  | some owner =>
    rw [simple, cutLast?_qualify owner plain]
    exact String.ofList_toList

/-- **Every name is its last word behind its owner.** -/
theorem qualify_owner?_simple (name : String) : qualify (owner? name) (simple name) = name := by
  rw [owner?, simple]
  cases found : cutLast? name.toList with
  | none => rfl
  | some parts =>
    obtain ⟨whole, -⟩ := eq_of_cutLast? found
    rw [← String.toList_inj, whole]
    simp [qualify]

/-- There is no dot in a last word. -/
theorem not_mem_simple (name : String) : '.' ∉ (simple name).toList := by
  rw [simple]
  cases found : cutLast? name.toList with
  | none => exact (cutLast?_eq_none_iff _).mp found
  | some parts =>
    rw [String.toList_ofList]
    exact (eq_of_cutLast? found).2

/-- **Both ways of cutting a name find the same last word.** -/
theorem getLast?_segments (name : String) :
    ((segments name).1 :: (segments name).2).getLast? = some (simple name) := by
  have whole := join_segments name
  have plain : ∀ segment ∈ (segments name).1 :: (segments name).2, '.' ∉ segment.toList :=
    fun segment => not_mem_of_mem_segments
  generalize (segments name).1 = first at *
  -- The only segment of a name has no dot; the last of several stands behind one.
  rcases List.eq_nil_or_concat (segments name).2 with none' | ⟨others, last, rest⟩
  · rw [none'] at whole plain ⊢
    obtain rfl : first = name := whole
    rw [(owner?_simple_of_plain (plain first List.mem_cons_self)).2]
    rfl
  · rw [rest, List.concat_eq_append] at whole plain ⊢
    have behind : qualify (some (join first others)) last = name := by
      rw [← whole, join_concat]
      rfl
    have isPlain : '.' ∉ last.toList := plain last (by simp)
    rw [← behind, simple_qualify _ isPlain, ← List.cons_append, List.getLast?_concat]

/-- The last word has the characters behind the last dot. -/
theorem getLast?_splitOn (name : String) :
    (name.toList.splitOn '.').getLast? = some (simple name).toList := by
  rw [← map_toList_segments, List.getLast?_map, getLast?_segments]
  rfl

end SyntaxTour.Dotted
