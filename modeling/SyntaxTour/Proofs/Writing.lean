import SyntaxTour.Json.Reader
import SyntaxTour.Proofs.Numerals

/-!
# JSON text determines its value

No two values have the same compact text, and that is so because no text can be continued in two
ways: while a value is read from the left, its first character tells of what sort it is, a string
ends at the first quote that is not escaped, a number at the first character that no number has,
and a row of items or fields at the bracket that stands where a comma might. The doubles are left
out of this: how they are written is a parameter, and they have to be told apart.

* `text` is the text of a value as a list of characters, and `toList_write` says so.
* `escaped_inj` is the case of strings. The reader of settings reads back what is written here.
* `Alike` says that two values are of one sort, and `alike_of_text` finds that out from their texts.
* `Decodes` says that a value can be told from what is behind its text; `decodes_of_parts` goes from
  the parts of a value to the value, and `decodes` all the way.
* `write_inj` and `compact_inj` draw the conclusions.
-/

namespace SyntaxTour.Json

/-! ### Quoted strings -/

/-- The characters of a string as they stand between the quotes. -/
def escaped (text : List Char) : List Char := text.flatMap fun c => (writeChar c).toList

theorem hexValue?_hexDigit {n : Nat} (h : n < 16) : hexValue? (hexDigit n) = some n := by
  have all : ∀ n < 16, hexValue? (hexDigit n) = some n := by decide
  exact all n h

/-- A character that stands for itself is read as itself. -/
theorem stringRest?_cons {c : Char} (quote : c ≠ '"') (backslash : c ≠ '\\')
    (printed : ¬c.toNat < 32) (seen : List Char) (fuel : Nat) (rest : List Char) :
    stringRest? seen (fuel + 1) (c :: rest) = stringRest? (c :: seen) fuel rest := by
  have plain : ¬(c == '\\' || decide (c.toNat < 32)) = true := by
    rw [beq_eq_false_iff_ne.2 backslash, decide_eq_false printed]
    decide
  rw [stringRest?.eq_def]
  dsimp only
  split <;> first | exact if_neg plain | simp_all

/-- A character that is written by its number is read by its number. -/
theorem stringRest?_units {c : Char} {cs rest : List Char}
    (unit : escapedUnits? cs = some (c, rest)) (seen : List Char) (fuel : Nat) :
    stringRest? seen (fuel + 1) ('\\' :: 'u' :: cs) = stringRest? (c :: seen) fuel rest := by
  rw [stringRest?.eq_def]
  simp only [unit]

/-- The reader understands each character as the writer writes it. -/
theorem stringRest?_writeChar (c : Char) (seen : List Char) (fuel : Nat) (rest : List Char) :
    stringRest? seen (fuel + 1) ((writeChar c).toList ++ rest) =
      stringRest? (c :: seen) fuel rest := by
  unfold writeChar
  -- Seven characters have an escape of their own; the default case is the one with an argument.
  split
  case h_8 _ quote backslash _ _ _ _ _ =>
    split
    · next control =>
      -- A control character is written by its number.
      have high := hexValue?_hexDigit (show c.toNat / 16 < 16 by omega)
      have low := hexValue?_hexDigit (show c.toNat % 16 < 16 by omega)
      have zero : hexValue? '0' = some 0 := by decide
      have value : ((0 * 16 + 0) * 16 + c.toNat / 16) * 16 + c.toNat % 16 = c.toNat := by omega
      have unit : escapedUnits? ('0' :: '0' :: hexDigit (c.toNat / 16) ::
          hexDigit (c.toNat % 16) :: rest) = some (c, rest) := by
        unfold escapedUnits? unit?
        simp only [high, low, zero, Option.bind_eq_bind, Option.bind_some, value]
        rw [if_neg (by omega), if_neg (by omega), Char.ofNat_toNat]
      have written : ("\\u00" ++ String.ofList [hexDigit (c.toNat / 16),
          hexDigit (c.toNat % 16)]).toList ++ rest = '\\' :: 'u' :: '0' :: '0' ::
          hexDigit (c.toNat / 16) :: hexDigit (c.toNat % 16) :: rest := by
        rw [String.toList_append, String.toList_ofList (l := [_, _])]
        rfl
      rw [written]
      exact stringRest?_units unit seen fuel
    · next printed =>
      change stringRest? seen (fuel + 1) ((String.singleton c).toList ++ rest) = _
      rw [String.toList_singleton]
      exact stringRest?_cons quote backslash printed seen fuel rest
  all_goals rfl

/-- **The reader reads back what was written between quotes.** -/
theorem stringRest?_escaped (text seen : List Char) {fuel : Nat} (enough : text.length < fuel)
    (rest : List Char) :
    stringRest? seen fuel (escaped text ++ '"' :: rest) =
      some (String.ofList (seen.reverse ++ text), rest) := by
  induction text generalizing seen fuel with
  | nil =>
    obtain ⟨fuel, rfl⟩ := Nat.exists_eq_succ_of_ne_zero (Nat.ne_of_gt enough)
    rw [List.append_nil]
    rfl
  | cons c text ih =>
    obtain ⟨fuel, rfl⟩ := Nat.exists_eq_succ_of_ne_zero (Nat.ne_of_gt (Nat.zero_lt_of_lt enough))
    rw [escaped, List.flatMap_cons, List.append_assoc, stringRest?_writeChar, ← escaped,
      ih _ (Nat.lt_of_succ_lt_succ enough), List.reverse_cons, List.append_assoc]
    rfl

/-- **Strings end where they end**: no other string has a text that begins with the same. -/
theorem escaped_inj {text text' rest rest' : List Char}
    (same : escaped text ++ '"' :: rest = escaped text' ++ '"' :: rest') :
    text = text' ∧ rest = rest' := by
  have read := stringRest?_escaped text [] (Nat.lt_succ_of_le (Nat.le_max_left _ text'.length)) rest
  have read' :=
    stringRest?_escaped text' [] (Nat.lt_succ_of_le (Nat.le_max_right text.length _)) rest'
  rw [same, read'] at read
  obtain ⟨texts, rests⟩ := Prod.mk.inj (Option.some.inj read)
  exact ⟨(String.ofList_injective texts).symm, rests.symm⟩

/-! ### The text of a value -/

variable (number : UInt64 → String)

theorem writeString_eq (out text : String) :
    (writeString out text).toList = out.toList ++ '"' :: (escaped text.toList ++ ['"']) := by
  have body (l : List Char) (out : String) :
      (l.foldl (fun out c => out ++ writeChar c) out).toList = out.toList ++ escaped l := by
    induction l generalizing out with
    | nil => exact (List.append_nil _).symm
    | cons c l ih =>
      rw [List.foldl_cons, ih, String.toList_append, List.append_assoc]
      rfl
  unfold writeString
  rw [String.toList_append, String.foldl_eq_foldl_toList, body, String.toList_append,
    List.append_assoc, List.append_assoc]
  rfl

mutual

/-- The characters of a value. -/
def text : Json → List Char
  | .null => "null".toList
  | .bool true => "true".toList
  | .bool false => "false".toList
  | .int value => (toString value).toList
  | .float bits => (number bits).toList
  | .string text => '"' :: (escaped text.toList ++ ['"'])
  | .array items => '[' :: (textItems true items ++ [']'])
  | .fields entries => '\x7b' :: (textFields true entries ++ ['\x7d'])

def textItems (first : Bool) : List Json → List Char
  | [] => []
  | item :: rest => (if first then [] else [',']) ++ (text item ++ textItems false rest)

def textFields (first : Bool) : List (String × Json) → List Char
  | [] => []
  | (key, value) :: rest =>
    (if first then [] else [',']) ++
      ('"' :: (escaped key.toList ++ '"' :: ':' :: (text value ++ textFields false rest)))

end

mutual

theorem toList_append (out : String) : (value : Json) →
    (append number out value).toList = out.toList ++ text number value
  | .null => String.toList_append
  | .bool true => String.toList_append
  | .bool false => String.toList_append
  | .int value => String.toList_append
  | .float bits => String.toList_append
  | .string text => writeString_eq out text
  | .array items => by
    rw [append, text, String.toList_append, toList_appendItems]
    simp
  | .fields entries => by
    rw [append, text, String.toList_append, toList_appendFields]
    simp

theorem toList_appendItems (out : String) (first : Bool) : (items : List Json) →
    (appendItems number out first items).toList = out.toList ++ textItems number first items
  | [] => (List.append_nil _).symm
  | item :: rest => by
    rw [appendItems, textItems, toList_appendItems, toList_append]
    cases first <;> simp

theorem toList_appendFields (out : String) (first : Bool) : (entries : List (String × Json)) →
    (appendFields number out first entries).toList =
      out.toList ++ textFields number first entries
  | [] => (List.append_nil _).symm
  | (key, value) :: rest => by
    rw [appendFields, textFields, toList_appendFields, toList_append, String.toList_append,
      writeString_eq]
    cases first <;> simp

end

theorem toList_write (value : Json) : (write number value).toList = text number value :=
  toList_append number "" value

/-! ### The doubles in a value -/

/-- **A double occurs in a value.** -/
inductive Holds (bits : UInt64) : Json → Prop where
  | float : Holds bits (.float bits)
  | item {item : Json} {items : List Json} : item ∈ items → Holds bits item →
    Holds bits (.array items)
  | field {key : String} {value : Json} {entries : List (String × Json)} :
    (key, value) ∈ entries → Holds bits value → Holds bits (.fields entries)

/-- All doubles that occur in a value are of some sort. -/
def All (D : UInt64 → Prop) (value : Json) : Prop := ∀ bits, value.Holds bits → D bits

section

variable {D D' : UInt64 → Prop} {value : Json}

theorem All.imp (all : All D value) (weaker : ∀ bits, D bits → D' bits) : All D' value :=
  fun bits holds => weaker bits (all bits holds)

theorem All.item {items : List Json} (all : All D (.array items)) {item : Json}
    (mem : item ∈ items) : All D item :=
  fun bits holds => all bits (.item mem holds)

theorem All.entry {entries : List (String × Json)} (all : All D (.fields entries))
    {entry : String × Json} (mem : entry ∈ entries) : All D entry.2 :=
  fun bits holds => all bits (.field mem holds)

end

/-! ### What a text begins with -/

/-- The character that the text of a value begins with, unless the value is a number. -/
def lead : Json → Option Char
  | .null => some 'n'
  | .bool true => some 't'
  | .bool false => some 'f'
  | .int _ | .float _ => none
  | .string _ => some '"'
  | .array _ => some '['
  | .fields _ => some '\x7b'

/-- **Two values of one sort.** Numbers are all of the same sort, truth and falsehood are not. -/
inductive Alike : Json → Json → Prop where
  | null : Alike .null .null
  | bool (b : Bool) : Alike (.bool b) (.bool b)
  | ints (a b : Int) : Alike (.int a) (.int b)
  | intFloat (a : Int) (bits : UInt64) : Alike (.int a) (.float bits)
  | floatInt (bits : UInt64) (b : Int) : Alike (.float bits) (.int b)
  | floats (bits bits' : UInt64) : Alike (.float bits) (.float bits')
  | strings (text text' : String) : Alike (.string text) (.string text')
  | arrays (items items' : List Json) : Alike (.array items) (.array items')
  | fields (entries entries' : List (String × Json)) : Alike (.fields entries) (.fields entries')

theorem alike_of_lead_eq {value value' : Json} (same : lead value = lead value') :
    Alike value value' := by
  rcases value with _ | (_ | _) | _ | _ | _ | _ | _ <;>
    rcases value' with _ | (_ | _) | _ | _ | _ | _ | _ <;>
    first | constructor | (simp [lead] at same)

section

variable {number} {value value' : Json} {rest rest' : List Char}

theorem exists_text_eq_cons (written : value.All fun bits => IsNumeral (number bits).toList) :
    ∃ c further, text number value = c :: further ∧
      lead value = if beginsNumeral c then none else some c := by
  cases value with
  | bool b => cases b <;> exact ⟨_, _, rfl, rfl⟩
  | int value =>
    obtain ⟨c, further, begins, numeral⟩ := (isNumeral_toString value).begins
    exact ⟨c, further, begins, (if_pos numeral).symm⟩
  | float bits =>
    obtain ⟨c, further, begins, numeral⟩ := (written bits .float).begins
    exact ⟨c, further, begins, (if_pos numeral).symm⟩
  | _ => exact ⟨_, _, rfl, rfl⟩

/-- Values whose texts begin alike are alike. -/
theorem alike_of_text (written : value.All fun bits => IsNumeral (number bits).toList)
    (written' : value'.All fun bits => IsNumeral (number bits).toList)
    (same : text number value ++ rest = text number value' ++ rest') : Alike value value' := by
  obtain ⟨c, further, begins, leads⟩ := exists_text_eq_cons written
  obtain ⟨c', further', begins', leads'⟩ := exists_text_eq_cons written'
  rw [begins, begins', List.cons_append, List.cons_append] at same
  refine alike_of_lead_eq ?_
  rw [leads, leads', (List.cons.inj same).1]

/-- The end of an array is not the beginning of an item. -/
theorem text_append_ne_cons (written : value.All fun bits => IsNumeral (number bits).toList) :
    text number value ++ rest ≠ ']' :: rest' := by
  obtain ⟨c, further, begins, leads⟩ := exists_text_eq_cons written
  intro same
  rw [begins, List.cons_append] at same
  rw [(List.cons.inj same).1, if_neg (by decide)] at leads
  rcases value with _ | (_ | _) | _ | _ | _ | _ | _ <;> simp [lead] at leads

end

/-! ### Rows -/

section

variable {number} {rest rest' : List Char}

theorem textItems_cons_append (first : Bool) (item : Json) (items : List Json)
    (rest : List Char) :
    textItems number first (item :: items) ++ rest =
      (if first then [] else [',']) ++
        (text number item ++ (textItems number false items ++ rest)) := by
  rw [textItems, List.append_assoc, List.append_assoc]

theorem textFields_cons_append (first : Bool) (key : String) (value : Json)
    (entries : List (String × Json)) (rest : List Char) :
    textFields number first ((key, value) :: entries) ++ rest =
      (if first then [] else [',']) ++
        ('"' :: (escaped key.toList ++
          '"' :: ':' :: (text number value ++ (textFields number false entries ++ rest)))) := by
  rw [textFields]
  simp only [List.append_assoc, List.cons_append]

/-- Behind an item there is a comma or the end of the array. -/
theorem ends_textItems (items : List Json) (rest : List Char) :
    Ends (textItems number false items ++ ']' :: rest) := by
  cases items <;> exact fun c mem => Option.mem_some_iff.1 mem ▸ rfl

theorem ends_textFields (entries : List (String × Json)) (rest : List Char) :
    Ends (textFields number false entries ++ '\x7d' :: rest) := by
  rcases entries with _ | ⟨⟨key, value⟩, entries⟩ <;>
    exact fun c mem => Option.mem_some_iff.1 mem ▸ rfl

/-- A row that is not empty does not begin with the end. -/
theorem textItems_cons_ne {first : Bool} {item : Json} {items : List Json}
    (written : item.All fun bits => IsNumeral (number bits).toList) :
    textItems number first (item :: items) ++ rest ≠ ']' :: rest' := by
  rw [textItems_cons_append]
  cases first with
  | false => exact fun same => absurd (List.cons.inj same).1 (by decide)
  | true => exact text_append_ne_cons written

theorem textFields_cons_ne {first : Bool} {entry : String × Json}
    {entries : List (String × Json)} :
    textFields number first (entry :: entries) ++ rest ≠ '\x7d' :: rest' := by
  obtain ⟨key, value⟩ := entry
  rw [textFields_cons_append]
  cases first <;> exact fun same => absurd (List.cons.inj same).1 (by decide)

end

/-! ### Texts with something behind them -/

/-- **Doubles that are told apart**: they are not written like integers, and one of the first sort
is not written like a different one of the second. -/
structure Apart (number : UInt64 → String) (D D' : UInt64 → Prop) : Prop where
  fraction (bits : UInt64) : D bits → IsFraction (number bits).toList
  fraction' (bits : UInt64) : D' bits → IsFraction (number bits).toList
  inj (bits bits' : UInt64) : D bits → D' bits' → number bits = number bits' → bits = bits'

/-- **A value can be told from what is behind its text**: no other value with doubles of a given
sort begins in the same way. -/
def Decodes (number : UInt64 → String) (D' : UInt64 → Prop) (value : Json) : Prop :=
  ∀ ⦃value' : Json⦄ ⦃rest rest' : List Char⦄, value'.All D' → Ends rest → Ends rest' →
    text number value ++ rest = text number value' ++ rest' → value = value' ∧ rest = rest'

section

variable {number} {D D' : UInt64 → Prop} (apart : Apart number D D')

include apart in
theorem Apart.written {value : Json} (all : value.All D) :
    value.All fun bits => IsNumeral (number bits).toList :=
  all.imp fun bits d => (apart.fraction bits d).toIsNumeral

include apart in
theorem Apart.written' {value : Json} (all : value.All D') :
    value.All fun bits => IsNumeral (number bits).toList :=
  all.imp fun bits d => (apart.fraction' bits d).toIsNumeral

include apart in
/-- **A row of items ends where it ends.** -/
theorem textItems_inj {items : List Json} (decode : ∀ item ∈ items, Decodes number D' item)
    (all : ∀ item ∈ items, item.All D) {first : Bool} {items' : List Json}
    {rest rest' : List Char} (all' : ∀ item ∈ items', item.All D')
    (same : textItems number first items ++ ']' :: rest =
      textItems number first items' ++ ']' :: rest') : items = items' ∧ rest = rest' := by
  induction items generalizing first items' with
  | nil =>
    -- One row ends where the other goes on: a bracket is the beginning of no item.
    cases items' with
    | nil => exact ⟨rfl, (List.cons.inj same).2⟩
    | cons item' items' =>
      have written := apart.written' (all' item' List.mem_cons_self)
      exact absurd same.symm (textItems_cons_ne written)
  | cons item items ih =>
    cases items' with
    | nil =>
      have written := apart.written (all item List.mem_cons_self)
      exact absurd same (textItems_cons_ne written)
    -- The first items are read off the text, and the commas in front of the others are alike.
    | cons item' items' =>
      obtain ⟨decodeFirst, decodeOthers⟩ := List.forall_mem_cons.1 decode
      obtain ⟨allFirst, allOthers⟩ := List.forall_mem_cons.1 all
      obtain ⟨allFirst', allOthers'⟩ := List.forall_mem_cons.1 all'
      rw [textItems_cons_append, textItems_cons_append] at same
      obtain ⟨rfl, further⟩ := decodeFirst allFirst' (ends_textItems items rest)
        (ends_textItems items' rest') (List.append_cancel_left same)
      obtain ⟨rfl, rests⟩ := ih decodeOthers allOthers allOthers' further
      exact ⟨rfl, rests⟩

/-- **A row of fields ends where it ends.** Each of them begins with its key in quotes. -/
theorem textFields_inj {entries : List (String × Json)}
    (decode : ∀ entry ∈ entries, Decodes number D' entry.2) {first : Bool}
    {entries' : List (String × Json)} {rest rest' : List Char}
    (all' : ∀ entry ∈ entries', entry.2.All D')
    (same : textFields number first entries ++ '\x7d' :: rest =
      textFields number first entries' ++ '\x7d' :: rest') :
    entries = entries' ∧ rest = rest' := by
  induction entries generalizing first entries' with
  | nil =>
    -- A brace begins no field.
    cases entries' with
    | nil => exact ⟨rfl, (List.cons.inj same).2⟩
    | cons entry' entries' => exact absurd same.symm textFields_cons_ne
  | cons entry entries ih =>
    cases entries' with
    | nil => exact absurd same textFields_cons_ne
    -- The key is read up to its closing quote, then the value, then the other fields.
    | cons entry' entries' =>
      obtain ⟨key, value⟩ := entry
      obtain ⟨key', value'⟩ := entry'
      obtain ⟨decodeFirst, decodeOthers⟩ := List.forall_mem_cons.1 decode
      obtain ⟨allFirst', allOthers'⟩ := List.forall_mem_cons.1 all'
      rw [textFields_cons_append, textFields_cons_append] at same
      obtain ⟨keys, values⟩ := escaped_inj (List.cons.inj (List.append_cancel_left same)).2
      obtain rfl := String.toList_injective keys
      obtain ⟨rfl, further⟩ := decodeFirst allFirst' (ends_textFields entries rest)
        (ends_textFields entries' rest') (List.cons.inj values).2
      obtain ⟨rfl, rests⟩ := ih decodeOthers allOthers' further
      exact ⟨rfl, rests⟩

include apart

/-- Values of all sorts can be told from what is behind their texts, if those in them can. -/
theorem decodes_of_parts {value : Json} (all : value.All D)
    (inItems : ∀ items, value = .array items → ∀ item ∈ items, Decodes number D' item)
    (inFields : ∀ entries, value = .fields entries →
      ∀ entry ∈ entries, Decodes number D' entry.2) : Decodes number D' value := by
  intro value' rest rest' all' ends ends' same
  -- What stands first in the text tells the sort of value.
  have alike := alike_of_text (apart.written all) (apart.written' all') same
  cases alike with
  | null => exact ⟨rfl, List.append_cancel_left same⟩
  | bool b => exact ⟨rfl, List.append_cancel_left same⟩
  | ints a b =>
    obtain ⟨texts, rests⟩ :=
      (isNumeral_toString a).append_inj (isNumeral_toString b) ends ends' same
    exact ⟨congrArg Json.int (toString_inj texts), rests⟩
  -- An integer and a double differ in their texts, however the rows go on.
  | intFloat a bits =>
    have fraction := apart.fraction' bits (all' bits .float)
    obtain ⟨texts, -⟩ :=
      (isNumeral_toString a).append_inj fraction.toIsNumeral ends ends' same
    exact absurd texts.symm (fraction.ne_toString a)
  | floatInt bits b =>
    have fraction := apart.fraction bits (all bits .float)
    obtain ⟨texts, -⟩ :=
      fraction.toIsNumeral.append_inj (isNumeral_toString b) ends ends' same
    exact absurd texts (fraction.ne_toString b)
  | floats bits bits' =>
    have fraction := apart.fraction bits (all bits .float)
    have fraction' := apart.fraction' bits' (all' bits' .float)
    obtain ⟨texts, rests⟩ :=
      fraction.toIsNumeral.append_inj fraction'.toIsNumeral ends ends' same
    have doubles := apart.inj bits bits' (all bits .float) (all' bits' .float)
      (String.toList_injective texts)
    exact ⟨congrArg Json.float doubles, rests⟩
  | strings text text' =>
    simp only [Json.text, List.cons_append, List.append_assoc, List.nil_append] at same
    obtain ⟨texts, rests⟩ := escaped_inj (List.cons.inj same).2
    exact ⟨congrArg Json.string (String.toList_injective texts), rests⟩
  -- The items and the fields are read by the two lemmas above, each item in its turn.
  | arrays items items' =>
    simp only [Json.text, List.cons_append, List.append_assoc, List.nil_append] at same
    obtain ⟨rfl, rests⟩ := textItems_inj apart (inItems items rfl)
      (fun item => all.item) (fun item => all'.item) (List.cons.inj same).2
    exact ⟨rfl, rests⟩
  | fields entries entries' =>
    simp only [Json.text, List.cons_append, List.append_assoc, List.nil_append] at same
    obtain ⟨rfl, rests⟩ := textFields_inj (inFields entries rfl)
      (fun entry => all'.entry) (List.cons.inj same).2
    exact ⟨rfl, rests⟩

/-- **Every value can be told from what is behind its text.** -/
theorem decodes (value : Json) (all : value.All D) : Decodes number D' value := by
  refine decodes_of_parts apart all (fun items same item mem => ?_)
    (fun entries same entry mem => ?_)
  · have allItems : (Json.array items).All D := same ▸ all
    exact decodes item (allItems.item mem)
  · have allEntries : (Json.fields entries).All D := same ▸ all
    exact decodes entry.2 (allEntries.entry mem)
termination_by sizeOf value
decreasing_by
  · have smaller := List.sizeOf_lt_of_mem mem
    simp only [same, Json.array.sizeOf_spec]
    omega
  · obtain ⟨key, value⟩ := entry
    have smaller := List.sizeOf_lt_of_mem mem
    simp only [same, Json.fields.sizeOf_spec, Prod.mk.sizeOf_spec] at smaller ⊢
    omega

/-- **The text of a value determines the value**, if the doubles in it are told apart. -/
theorem write_inj {value value' : Json} (all : value.All D) (all' : value'.All D')
    (same : value.write number = value'.write number) : value = value' := by
  have ends : Ends [] := fun c mem => nomatch mem
  refine (decodes apart value all all' ends ends ?_).1
  rw [← toList_write, ← toList_write, same]

end

/-- **The compact text of a value determines the value**, if its doubles are finite and two of them
that differ are written differently. -/
theorem compact_inj {value value' : Json}
    (finite : value.All fun bits => (Binary.ofBits bits).isSome)
    (finite' : value'.All fun bits => (Binary.ofBits bits).isSome)
    (inj : ∀ bits bits', value.Holds bits → value'.Holds bits' →
      writeDouble bits = writeDouble bits' → bits = bits')
    (same : value.compact = value'.compact) : value = value' := by
  have apart : Apart writeDouble (value.Holds ·) (value'.Holds ·) :=
    ⟨fun bits holds => isFraction_writeDouble (finite bits holds),
      fun bits holds => isFraction_writeDouble (finite' bits holds), inj⟩
  exact write_inj apart (fun _ holds => holds) (fun _ holds => holds) same

end SyntaxTour.Json
