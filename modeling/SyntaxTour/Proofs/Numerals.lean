import Mathlib
import SyntaxTour.Json

/-!
# The texts of numbers

A number is written without quotes, and so nothing but its characters says where it ends and what
it is. Integers are digits, perhaps behind a sign. Doubles are never written that way: there is a
point in each of their texts, or an exponent. Neither has any character that may follow a number in
the text of a larger value.

* `IsNumeral` says of a text that it can be that of a number, and `IsNumeral.append_inj` that such a
  text can be told from what is behind it.
* `IsFraction` says in addition that it is not that of an integer (`IsFraction.ne_toString`).
* `isFraction_write` says so of decimals in any layout, and `isFraction_writeDouble` of doubles.
-/

namespace SyntaxTour.Json

/-! ### Numerals -/

/-- Characters that numbers are written with. -/
def isNumeral (c : Char) : Bool := c.isDigit || c == '-' || c == '+' || c == '.' || c == 'e'

/-- Characters that numbers begin with. -/
def beginsNumeral (c : Char) : Bool := c.isDigit || c == '-'

/-- **A text of a number.** -/
structure IsNumeral (l : List Char) : Prop where
  all : ∀ c ∈ l, isNumeral c = true
  begins : ∃ c rest, l = c :: rest ∧ beginsNumeral c = true

/-- A text of a number that no integer has. -/
structure IsFraction (l : List Char) : Prop extends IsNumeral l where
  marked : ∃ c ∈ l, c = '.' ∨ c = 'e'

/-- Where a text of a number ends for sure. -/
def Ends (rest : List Char) : Prop := ∀ c ∈ rest.head?, isNumeral c = false

/-- **A number can be told from what is behind it.** -/
theorem IsNumeral.append_inj {l l' rest rest' : List Char} (h : IsNumeral l) (h' : IsNumeral l')
    (ends : Ends rest) (ends' : Ends rest') (same : l ++ rest = l' ++ rest') :
    l = l' ∧ rest = rest' := by
  have whole {l rest : List Char} (all : ∀ c ∈ l, isNumeral c = true) (ends : Ends rest) :
      (l ++ rest).takeWhile isNumeral = l := by
    rw [List.takeWhile_append_of_pos all]
    cases rest with
    | nil => exact List.append_nil l
    | cons c rest =>
      rw [List.takeWhile_cons_of_neg (by rw [ends c rfl]; decide), List.append_nil]
  have first : l = l' := by rw [← whole h.all ends, same, whole h'.all ends']
  subst first
  exact ⟨rfl, List.append_cancel_left same⟩

/-! ### Integers -/

theorem isDigit_of_mem_repr {n : Nat} {c : Char} (mem : c ∈ n.repr.toList) :
    c.isDigit = true := by
  rw [Nat.repr_eq_ofList_toDigits, String.toList_ofList] at mem
  exact Nat.isDigit_of_mem_toDigits (by decide) (by decide) mem

theorem exists_repr_eq_cons (n : Nat) :
    ∃ c rest, n.repr.toList = c :: rest ∧ c.isDigit = true := by
  cases digits : n.repr.toList with
  | nil => exact absurd (String.toList_eq_nil_iff.1 digits) Nat.repr_ne_empty
  | cons c rest =>
    exact ⟨c, rest, rfl, isDigit_of_mem_repr (digits ▸ List.mem_cons_self)⟩

theorem eq_minus_or_isDigit {value : Int} {c : Char} (mem : c ∈ (toString value).toList) :
    c = '-' ∨ c.isDigit = true := by
  rw [Int.toString_eq_repr, Int.repr_eq_if] at mem
  split at mem
  · exact .inr (isDigit_of_mem_repr mem)
  · rw [String.toList_append] at mem
    rcases List.mem_append.1 mem with sign | digit
    · exact .inl (List.mem_singleton.1 sign)
    · exact .inr (isDigit_of_mem_repr digit)

theorem isNumeral_toString (value : Int) : IsNumeral (toString value).toList where
  all c mem := by
    rcases eq_minus_or_isDigit mem with rfl | digit
    · rfl
    · simp [isNumeral, digit]
  begins := by
    rw [Int.toString_eq_repr, Int.repr_eq_if]
    split
    · obtain ⟨c, rest, digits, digit⟩ := exists_repr_eq_cons value.toNat
      exact ⟨c, rest, digits, by simp [beginsNumeral, digit]⟩
    · exact ⟨'-', _, String.toList_append, rfl⟩

/-- Integers are written without a point and without an exponent. -/
theorem IsFraction.ne_toString {l : List Char} (h : IsFraction l) (value : Int) :
    l ≠ (toString value).toList := by
  rintro rfl
  obtain ⟨c, mem, mark⟩ := h.marked
  rcases eq_minus_or_isDigit mem with rfl | digit
  · rcases mark with mark | mark <;> exact absurd mark (by decide)
  · rcases mark with rfl | rfl <;> exact absurd digit (by decide)

theorem toString_inj {a b : Int} (same : (toString a).toList = (toString b).toList) : a = b :=
  Int.repr_injective (String.toList_injective same)

/-! ### Doubles -/

/-- A text of digits only, and of at least one. -/
def IsDigits (l : List Char) : Prop := (∀ c ∈ l, c.isDigit = true) ∧ l ≠ []

theorem isNumeral_of_isDigit {c : Char} (digit : c.isDigit = true) : isNumeral c = true := by
  simp [isNumeral, digit]

theorem isDigits_repr (n : Nat) : IsDigits n.repr.toList := by
  obtain ⟨c, rest, text, -⟩ := exists_repr_eq_cons n
  exact ⟨fun c mem => isDigit_of_mem_repr mem,
    fun none => List.cons_ne_nil c rest (text.symm.trans none)⟩

theorem isDigits_zero : IsDigits ['0'] :=
  ⟨List.forall_mem_singleton.2 rfl, List.cons_ne_nil _ _⟩

theorem isDigit_of_mem_zeros {k : Nat} {c : Char} (mem : c ∈ List.replicate k '0') :
    c.isDigit = true := List.eq_of_mem_replicate mem ▸ rfl

theorem IsDigits.append {l l' : List Char} (h : IsDigits l)
    (digits : ∀ c ∈ l', c.isDigit = true) : IsDigits (l ++ l') :=
  ⟨List.forall_mem_append.2 ⟨h.1, digits⟩, List.append_ne_nil_of_left_ne_nil h.2 l'⟩

theorem IsDigits.take {l : List Char} (h : IsDigits l) {k : Nat} (positive : k ≠ 0) :
    IsDigits (l.take k) := by
  refine ⟨fun c mem => h.1 c (List.mem_of_mem_take mem), ?_⟩
  rw [Ne, List.take_eq_nil_iff, not_or]
  exact ⟨positive, h.2⟩

/-- A number goes on after its first digits, and with a point or an exponent it is no integer. -/
theorem IsDigits.append_marked {l l' : List Char} (h : IsDigits l)
    (all : ∀ c ∈ l', isNumeral c = true) (marked : ∃ c ∈ l', c = '.' ∨ c = 'e') :
    IsFraction (l ++ l') where
  all := List.forall_mem_append.2 ⟨fun c mem => isNumeral_of_isDigit (h.1 c mem), all⟩
  begins := by
    obtain ⟨digits, nonempty⟩ := h
    obtain ⟨c, rest, rfl⟩ := List.exists_cons_of_ne_nil nonempty
    exact ⟨c, rest ++ l', rfl, by simp [beginsNumeral, digits c List.mem_cons_self]⟩
  marked := by
    obtain ⟨c, mem, mark⟩ := marked
    exact ⟨c, List.mem_append_right l mem, mark⟩

/-- A point between digits. -/
theorem IsDigits.point {l l' : List Char} (h : IsDigits l)
    (digits : ∀ c ∈ l', c.isDigit = true) : IsFraction (l ++ '.' :: l') := by
  refine h.append_marked (List.forall_mem_cons.2 ⟨rfl, fun c mem => ?_⟩)
    ⟨'.', List.mem_cons_self, .inl rfl⟩
  exact isNumeral_of_isDigit (digits c mem)

/-- An exponent behind digits, perhaps with something in between. -/
theorem IsDigits.exponent {l between sign : List Char} (h : IsDigits l)
    (all : ∀ c ∈ between, isNumeral c = true) (all' : ∀ c ∈ sign, isNumeral c = true)
    (exponent : Int) :
    IsFraction (l ++ (between ++ 'e' :: (sign ++ (toString exponent).toList))) := by
  have further : ∀ c ∈ 'e' :: (sign ++ (toString exponent).toList), isNumeral c = true :=
    List.forall_mem_cons.2
      ⟨rfl, List.forall_mem_append.2 ⟨all', (isNumeral_toString exponent).all⟩⟩
  exact h.append_marked (List.forall_mem_append.2 ⟨all, further⟩)
    ⟨'e', List.mem_append_right _ List.mem_cons_self, .inr rfl⟩

theorem IsFraction.minus {l : List Char} (h : IsFraction l) : IsFraction ('-' :: l) where
  all := List.forall_mem_cons.2 ⟨rfl, h.all⟩
  begins := ⟨'-', l, rfl, rfl⟩
  marked := by
    obtain ⟨c, mem, mark⟩ := h.marked
    exact ⟨c, List.mem_cons_of_mem _ mem, mark⟩

/-- **A decimal is not written like an integer**, in any layout. -/
theorem isFraction_write (layout : DecimalLayout) (d : Decimal) :
    IsFraction (layout.write d).toList := by
  unfold DecimalLayout.write
  generalize d.trim 400 = d
  have digits : IsDigits (toString d.digits).toList := isDigits_repr d.digits
  dsimp only
  generalize toString d.digits = text at digits ⊢
  split
  · exact isDigits_zero.point isDigits_zero.1
  split
  · -- All the digits are before the point.
    simp only [String.toList_append, String.toList_ofList]
    exact (digits.append fun c => isDigit_of_mem_zeros).point isDigits_zero.1
  split
  · -- The point is among the digits.
    next among =>
    simp only [String.toList_append, String.toList_ofList, List.append_assoc]
    exact (digits.take (by omega)).point fun c mem => digits.1 c (List.mem_of_mem_drop mem)
  split
  · -- All the digits are behind the point.
    simp only [String.toList_append, String.toList_ofList, List.append_assoc]
    have behind : ∀ c ∈ List.replicate (-(text.length + d.exponent)).toNat '0' ++ text.toList,
        c.isDigit = true := List.forall_mem_append.2 ⟨fun c => isDigit_of_mem_zeros, digits.1⟩
    exact isDigits_zero.point behind
  · -- There is an exponent.
    simp only [String.toList_append, String.toList_ofList, List.append_assoc]
    have behind : ∀ c ∈ (if text.length = 1 then ""
        else "." ++ String.ofList (text.toList.drop 1)).toList, isNumeral c = true := by
      split
      · exact fun c mem => nomatch mem
      · simp only [String.toList_append, String.toList_ofList]
        refine List.forall_mem_cons.2 ⟨rfl, fun c mem => ?_⟩
        exact isNumeral_of_isDigit (digits.1 c (List.mem_of_mem_drop mem))
    have sign : ∀ c ∈ (if 0 < text.length + d.exponent then "+" else "").toList,
        isNumeral c = true := by
      split
      · exact List.forall_mem_singleton.2 rfl
      · exact fun c mem => nomatch mem
    exact (digits.take Nat.one_ne_zero).exponent behind sign _

/-- **A finite double is not written like an integer.** -/
theorem isFraction_writeDouble {bits : UInt64} (finite : (Binary.ofBits bits).isSome) :
    IsFraction (writeDouble bits).toList := by
  obtain ⟨b, reads⟩ := Option.isSome_iff_exists.1 finite
  have fraction := isFraction_write decimalLayout b.shortest
  unfold writeDouble
  rw [reads]
  dsimp only
  rw [String.toList_append]
  split
  · exact fraction.minus
  · exact fraction

end SyntaxTour.Json
