/-!
# The shortest decimal of a double

A double stands for every real number that rounds to it. Among the decimals in that
interval this module chooses one with the fewest digits, and among those the one nearest to
the double itself.

* `Binary.ofBits` reads the 64 bits of a finite double as `mantissa · 2 ^ exponent`.
* `Binary.shortest` is the chosen decimal, as `digits · 10 ^ exponent`.

All of it is arithmetic on natural numbers: a fraction `num / den` stands for a real.
-/

namespace SyntaxTour

/-- A finite double without its sign: `mantissa · 2 ^ exponent`. `narrow` tells that the
double below is only half as far away as the double above. -/
structure Binary where
  mantissa : Nat
  exponent : Int
  narrow : Bool
  deriving DecidableEq, Repr

/-- A decimal `digits · 10 ^ exponent`. -/
structure Decimal where
  digits : Nat
  exponent : Int
  deriving DecidableEq, Repr

namespace Binary

/-- Whether the sign bit is set. -/
def isNegative (bits : UInt64) : Bool :=
  bits >>> 63 != 0

/-- The double with the given bits, without its sign; infinities and values that are not
numbers have no reading. -/
def ofBits (bits : UInt64) : Option Binary :=
  let fraction := (bits &&& 0xfffffffffffff).toNat
  let field := ((bits >>> 52) &&& 0x7ff).toNat
  if field = 0x7ff then none
  else if field = 0 then some ⟨fraction, -1074, false⟩
  else some ⟨fraction + Nat.pow 2 52, (field : Int) - 1075, fraction == 0 && 1 < field⟩

/-- `x · 2 ^ e` as a fraction. -/
def scaled (x : Nat) (e : Int) : Nat × Nat :=
  if 0 ≤ e then (x * Nat.pow 2 e.toNat, 1) else (x, Nat.pow 2 (-e).toNat)

/-- The number of digits before the point of `num / den`, counted negatively for zeros after
the point: the least `k` with `num / den < 10 ^ k`. `fuel` bounds the search. -/
def magnitude (num den : Nat) : Nat → Int
  | 0 => 0
  | fuel + 1 =>
    if den ≤ num then magnitude num (den * 10) fuel + 1
    else if den ≤ num * 10 then 0
    else magnitude (num * 10) den fuel - 1

/-- The decimal with `count` digits next to `b` that reads back as `b`, if there is one: of
the two neighbours of `b` on the grid of such decimals, those inside the interval of `b`,
and of two the nearer. -/
def onGrid (b : Binary) (top : Int) (count : Nat) : Option Decimal :=
  let step := top - count
  let (value, den) := scaled (4 * b.mantissa) (b.exponent - 2)
  let (low, _) := scaled (4 * b.mantissa - if b.narrow then 1 else 2) (b.exponent - 2)
  let (high, _) := scaled (4 * b.mantissa + 2) (b.exponent - 2)
  let up := if 0 ≤ step then Nat.pow 10 step.toNat else 1
  let down := if 0 ≤ step then 1 else Nat.pow 10 (-step).toNat
  let closed := b.mantissa % 2 == 0
  let reads (c : Nat) : Bool :=
    let c := c * up * den
    if closed then low * down ≤ c && c ≤ high * down else low * down < c && c < high * down
  let below := value * down / (up * den)
  let above := below + 1
  let gapBelow := value * down - below * up * den
  let gapAbove := above * up * den - value * down
  let nearer := if gapBelow < gapAbove then below
    else if gapAbove < gapBelow then above
    else if below % 2 == 0 then below else above
  if reads below && reads above then some ⟨nearer, step⟩
  else if reads below then some ⟨below, step⟩
  else if reads above then some ⟨above, step⟩
  else none

/-- The first of the given digit counts that has a decimal. -/
def firstOnGrid (b : Binary) (top : Int) : List Nat → Decimal
  | [] => ⟨0, 0⟩
  | count :: rest => (b.onGrid top count).getD (firstOnGrid b top rest)

/-- **The shortest decimal that reads back as `b`**; seventeen digits always suffice. -/
def shortest (b : Binary) : Decimal :=
  if b.mantissa = 0 then ⟨0, 0⟩
  else
    let (num, den) := scaled b.mantissa b.exponent
    b.firstOnGrid (magnitude num den 2000) ((List.range 17).map (· + 1))

end Binary

namespace Decimal

/-- Dropping zeros at the end of the digits; `fuel` bounds their number. -/
def trim (d : Decimal) : Nat → Decimal
  | 0 => d
  | fuel + 1 =>
    if d.digits ≠ 0 ∧ d.digits % 10 = 0 then trim ⟨d.digits / 10, d.exponent + 1⟩ fuel else d

end Decimal

/-- How far a decimal is written out before it is written with an exponent: at most `most`
digits before the point, at most `least` zeros after it. -/
structure DecimalLayout where
  most : Nat
  least : Nat
  deriving DecidableEq, Repr

namespace DecimalLayout

/-- A decimal in positional notation with at least one digit after the point, or as a digit,
further digits after a point if there are any, and an exponent with its sign. -/
def write (layout : DecimalLayout) (d : Decimal) : String :=
  let d := d.trim 400
  if d.digits = 0 then "0.0"
  else
    let digits := toString d.digits
    let length := digits.length
    let point := (length : Int) + d.exponent
    let zeros (k : Int) := String.ofList (List.replicate k.toNat '0')
    let part (l : List Char) := String.ofList l
    if 0 ≤ d.exponent ∧ point ≤ layout.most then digits ++ zeros d.exponent ++ ".0"
    else if 0 < point ∧ point ≤ layout.most then
      part (digits.toList.take point.toNat) ++ "." ++ part (digits.toList.drop point.toNat)
    else if -(layout.least : Int) < point ∧ point ≤ 0 then "0." ++ zeros (-point) ++ digits
    else
      let lead := part (digits.toList.take 1)
      let tail := if length = 1 then "" else "." ++ part (digits.toList.drop 1)
      let sign := if 0 < point then "+" else ""
      lead ++ tail ++ "e" ++ sign ++ toString (point - 1)

end DecimalLayout

end SyntaxTour
