import SyntaxTour.Json

/-!
# Reading JSON

The reader accepts exactly the texts of RFC 8259: four blank characters, no comments, no
trailing commas, no leading zeros, no raw control characters in strings, and escapes of
surrogates only in pairs. Beyond that

* arrays and objects may be nested to a given depth and no further;
* an integer of 64 bits is kept as it is, and every other number is a double; a number
  beyond the largest double is an error;
* a key that is repeated keeps its last value.

`Json.read?` reads a whole text. The functions below it take the characters still unread and
give back those they left; `fuel` starts at twice the length of the text, and no call spends
more than two of it on a character.
-/

namespace SyntaxTour.Json

/-- Characters without meaning between tokens. -/
def isBlank (c : Char) : Bool :=
  c == ' ' || c == '\t' || c == '\n' || c == '\r'

/-- The text without blanks in front. -/
def skipBlanks (cs : List Char) : List Char :=
  cs.dropWhile isBlank

/-- A word that is expected next. -/
def word? (w : String) (cs : List Char) : Option (List Char) :=
  if w.toList.isPrefixOf cs then some (cs.drop w.length) else none

/-! ### Strings -/

/-- The value of a hexadecimal digit. -/
def hexValue? (c : Char) : Option Nat :=
  if '0' ≤ c ∧ c ≤ '9' then some (c.toNat - 48)
  else if 'a' ≤ c ∧ c ≤ 'f' then some (c.toNat - 87)
  else if 'A' ≤ c ∧ c ≤ 'F' then some (c.toNat - 55)
  else none

/-- The 16-bit unit written by four hexadecimal digits. -/
def unit? : List Char → Option (Nat × List Char)
  | a :: b :: c :: d :: rest => do
    let a ← hexValue? a
    let b ← hexValue? b
    let c ← hexValue? c
    let d ← hexValue? d
    some (((a * 16 + b) * 16 + c) * 16 + d, rest)
  | _ => none

/-- The character of an escape by units: one unit outside the surrogates, or a high
surrogate and the escape of a low one. -/
def escapedUnits? (cs : List Char) : Option (Char × List Char) := do
  let (high, rest) ← unit? cs
  if 0xdc00 ≤ high ∧ high ≤ 0xdfff then none
  else if 0xd800 ≤ high ∧ high ≤ 0xdbff then
    match rest with
    | '\\' :: 'u' :: rest =>
      let (low, rest) ← unit? rest
      if 0xdc00 ≤ low ∧ low ≤ 0xdfff then
        some (Char.ofNat (0x10000 + (high - 0xd800) * 0x400 + (low - 0xdc00)), rest)
      else none
    | _ => none
  else some (Char.ofNat high, rest)

/-- The rest of a string after its opening quote; `seen` holds its characters so far, the
last one first. -/
def stringRest? (seen : List Char) : Nat → List Char → Option (String × List Char)
  | 0, _ => none
  | fuel + 1, cs =>
    match cs with
    | [] => none
    | '"' :: rest => some (String.ofList seen.reverse, rest)
    | '\\' :: 'u' :: rest =>
      match escapedUnits? rest with
      | some (c, rest) => stringRest? (c :: seen) fuel rest
      | none => none
    | '\\' :: '"' :: rest => stringRest? ('"' :: seen) fuel rest
    | '\\' :: '\\' :: rest => stringRest? ('\\' :: seen) fuel rest
    | '\\' :: '/' :: rest => stringRest? ('/' :: seen) fuel rest
    | '\\' :: 'b' :: rest => stringRest? ('\x08' :: seen) fuel rest
    | '\\' :: 'f' :: rest => stringRest? ('\x0c' :: seen) fuel rest
    | '\\' :: 'n' :: rest => stringRest? ('\n' :: seen) fuel rest
    | '\\' :: 'r' :: rest => stringRest? ('\r' :: seen) fuel rest
    | '\\' :: 't' :: rest => stringRest? ('\t' :: seen) fuel rest
    | c :: rest =>
      if c == '\\' || c.toNat < 32 then none else stringRest? (c :: seen) fuel rest

/-! ### Numbers -/

/-- A number while it is read: the digits that fit 64 bits, and the power of ten that the
digits beyond them and the digits after the point amount to. -/
structure Digits where
  significand : Nat
  exponent : Int

/-- Whether a further digit still fits 64 bits. -/
def Digits.fits (d : Digits) (digit : Nat) : Bool :=
  d.significand * 10 + digit < Nat.pow 2 64

/-- The value of a decimal digit. -/
def digitValue (c : Char) : Nat := c.toNat - 48

/-- The longest run of digits in front, and the rest. -/
def digitRun (cs : List Char) : List Char × List Char :=
  (cs.takeWhile Char.isDigit, cs.dropWhile Char.isDigit)

/-- Digits before the point: as soon as one does not fit, it and all after it only raise
the exponent. -/
def wholeDigits (d : Digits) : List Char → Digits
  | [] => d
  | c :: rest =>
    if d.fits (digitValue c) then
      wholeDigits { d with significand := d.significand * 10 + digitValue c } rest
    else { d with exponent := d.exponent + rest.length + 1 }

/-- Digits after the point: as soon as one does not fit, it and all after it are dropped. -/
def fractionDigits (d : Digits) : List Char → Digits
  | [] => d
  | c :: rest =>
    if d.fits (digitValue c) then
      fractionDigits ⟨d.significand * 10 + digitValue c, d.exponent - 1⟩ rest
    else d

/-- The largest power of ten a single step multiplies or divides by. -/
def powerLimit : Nat := 308

/-- `10 ^ k` as a double. -/
def power (k : Nat) : Float :=
  Float.ofScientific 1 false k

/-- **The double nearest to what the digits say, in steps of at most `10 ^ 308`.** Small
numbers are divided step by step and may end at zero; a number too large for a double has
no value. `fuel` bounds the steps. -/
def scale? (x : Float) (exponent : Int) : Nat → Option Float
  | 0 => some x
  | fuel + 1 =>
    if exponent.natAbs ≤ powerLimit then
      if 0 ≤ exponent then
        let y := x * power exponent.natAbs
        if y.isInf then none else some y
      else some (x / power exponent.natAbs)
    else if x == 0 then some x
    else if 0 ≤ exponent then none
    else scale? (x / power powerLimit) (exponent + powerLimit) fuel

/-- The number of the given sign and digits as a double. -/
def double? (negative : Bool) (d : Digits) : Option Json := do
  let x ← scale? (UInt64.ofNat d.significand).toFloat d.exponent
    (d.exponent.natAbs / powerLimit + 2)
  some (.float (if negative then -x else x).toBits)

/-- The value of a run of decimal digits. -/
def natOfDigits (cs : List Char) : Nat :=
  cs.foldl (fun n c => n * 10 + digitValue c) 0

/-- A number whose digits before the exponent are `d`; an exponent that does not fit 32 bits
makes zero or no number. -/
def exponentPart? (negative : Bool) (d : Digits) (cs : List Char) :
    Option (Json × List Char) := do
  let (down, cs) := match cs with
    | '+' :: rest => (false, rest)
    | '-' :: rest => (true, rest)
    | cs => (false, cs)
  let (run, rest) := digitRun cs
  if run.isEmpty then none
  else
    let k := natOfDigits run
    if k < Nat.pow 2 31 then
      let value ← double? negative { d with exponent := if down then d.exponent - k else d.exponent + k }
      some (value, rest)
    else if d.significand ≠ 0 ∧ !down then none
    else some (.float (if negative then -0.0 else 0.0 : Float).toBits, rest)

/-- A number whose digits before the point are `d`: the fraction and the exponent may
follow. `exact` tells that no digit was dropped, so that without either the number is an
integer if it fits 64 bits. -/
def numberRest? (negative exact : Bool) (d : Digits) (cs : List Char) :
    Option (Json × List Char) :=
  match cs with
  | '.' :: rest =>
    let (run, rest) := digitRun rest
    if run.isEmpty then none
    else
      let d := fractionDigits d run
      match rest with
      | 'e' :: rest => exponentPart? negative d rest
      | 'E' :: rest => exponentPart? negative d rest
      | rest => (double? negative d).map fun value => (value, rest)
  | 'e' :: rest => exponentPart? negative d rest
  | 'E' :: rest => exponentPart? negative d rest
  | rest =>
    if !exact then (double? negative d).map fun value => (value, rest)
    else if !negative then some (.int d.significand, rest)
    else if d.significand = 0 ∨ Nat.pow 2 63 < d.significand then
      (double? negative d).map fun value => (value, rest)
    else some (.int (-(d.significand : Int)), rest)

/-- A number without its sign. -/
def unsigned? (negative : Bool) (cs : List Char) : Option (Json × List Char) :=
  let (run, rest) := digitRun cs
  match run with
  | [] => none
  | ['0'] => numberRest? negative true ⟨0, 0⟩ rest
  | '0' :: _ => none
  | run =>
    let d := wholeDigits ⟨0, 0⟩ run
    numberRest? negative (d.exponent == 0) d rest

/-! ### Values -/

/-- A string, a number or a word, which hold no further values. -/
def scalar? (fuel : Nat) (cs : List Char) : Option (Json × List Char) :=
  match cs with
  | '"' :: rest => (stringRest? [] fuel rest).map fun (s, rest) => (.string s, rest)
  | 'n' :: _ => (word? "null" cs).map fun rest => (.null, rest)
  | 't' :: _ => (word? "true" cs).map fun rest => (.bool true, rest)
  | 'f' :: _ => (word? "false" cs).map fun rest => (.bool false, rest)
  | '-' :: rest => unsigned? true rest
  | cs => unsigned? false cs

mutual

/-- A value, with `depth` levels of nesting left. -/
def value? (fuel depth : Nat) (cs : List Char) : Option (Json × List Char) :=
  match fuel with
  | 0 => none
  | fuel + 1 =>
    match skipBlanks cs with
    | '[' :: rest =>
      match depth with
      | 0 => none
      | depth + 1 =>
        match skipBlanks rest with
        | ']' :: rest => some (.array [], rest)
        | rest => items? fuel depth [] rest
    | '\x7b' :: rest =>
      match depth with
      | 0 => none
      | depth + 1 =>
        match skipBlanks rest with
        | '\x7d' :: rest => some (.object [], rest)
        | rest => (fields? fuel depth [] rest).map fun (entries, rest) => (.object entries, rest)
    | cs => scalar? fuel cs

/-- The items of an array, one at least; `seen` holds those before, the last one first. -/
def items? (fuel depth : Nat) (seen : List Json) (cs : List Char) :
    Option (Json × List Char) :=
  match fuel with
  | 0 => none
  | fuel + 1 =>
    match value? fuel depth cs with
    | none => none
    | some (item, rest) =>
      match skipBlanks rest with
      | ',' :: rest => items? fuel depth (item :: seen) rest
      | ']' :: rest => some (.array (item :: seen).reverse, rest)
      | _ => none

/-- The fields of an object, one at least, as they stand in the text; `seen` holds those
before, the last one first. -/
def fields? (fuel depth : Nat) (seen : List (String × Json)) (cs : List Char) :
    Option (List (String × Json) × List Char) :=
  match fuel with
  | 0 => none
  | fuel + 1 =>
    match skipBlanks cs with
    | '"' :: rest =>
      match stringRest? [] fuel rest with
      | none => none
      | some (key, rest) =>
        match skipBlanks rest with
        | ':' :: rest =>
          match value? fuel depth rest with
          | none => none
          | some (value, rest) =>
            match skipBlanks rest with
            | ',' :: rest => fields? fuel depth ((key, value) :: seen) rest
            | '\x7d' :: rest => some (((key, value) :: seen).reverse, rest)
            | _ => none
        | _ => none
    | _ => none

end

/-- **Reading a text** that is one value with blanks around it, nested at most `depth`
deep. -/
def read? (depth : Nat) (text : String) : Option Json :=
  let cs := text.toList
  match value? (2 * cs.length + 2) depth cs with
  | some (value, rest) => if (skipBlanks rest).isEmpty then some value else none
  | none => none

end SyntaxTour.Json
