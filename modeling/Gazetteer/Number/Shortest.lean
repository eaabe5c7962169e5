import Gazetteer.Number.Binary64

/-!
# Shortest decimal texts

The decimal text of a binary number has the fewest digits that read back as the number, and of the
decimals with so many digits it is the nearest one. Numbers from `10 ^ -5` up to `10 ^ 16` are
written positionally and keep a fractional part, others with an exponent and its sign.
-/

namespace Gazetteer.Binary64

/-- `digits · 10 ^ exponent`. -/
structure Decimal where
  digits : Nat
  exponent : Int
deriving DecidableEq, Repr

/-- `num / den` after multiplication by `10 ^ shift`. -/
def scaledByTen (num den : Nat) (shift : Int) : Nat × Nat :=
  if 0 ≤ shift then (num * Nat.pow 10 shift.toNat, den) else (num, den * Nat.pow 10 (-shift).toNat)

/-- The exponent `e` with `10 ^ e ≤ num / den < 10 ^ (e + 1)`, for a positive quotient: `low` is a
lower bound of it, and `fuel` steps above `low` are tried. -/
def decimalOrder (num den : Nat) (low : Int) : Nat → Int
  | 0 => low
  | fuel + 1 =>
    let (n, d) := scaledByTen num den (-(low + 1))
    if n < d then low else decimalOrder num den (low + 1) fuel

/-- The quarter of the distance from a number to its neighbour above, as a quotient. -/
def quarterGap (x : Binary64) : Nat × Nat := scaled 1 1 (x.exponent - 2)

/-- How many quarter gaps below the number the texts begin that read back as it. The neighbour below
a power of two is nearer than the neighbour above. -/
def quartersBelow (x : Binary64) : Nat :=
  if x.significand = Nat.pow 2 52 ∧ x.exponent ≠ -1074 then 1 else 2

/-- Whether `n / d` reads back as the number: it lies between the midpoints to the neighbours, or on
one of them if the significand is even. -/
def readsBack (x : Binary64) (n d : Nat) : Bool :=
  let (gapNum, gapDen) := x.quarterGap
  let low := (4 * x.significand - x.quartersBelow) * gapNum * d
  let high := (4 * x.significand + 2) * gapNum * d
  let here := n * gapDen
  if x.significand % 2 = 0 then low ≤ here ∧ here ≤ high else low < here ∧ here < high

/-- The nearest decimal on the grid of step `10 ^ exponent` that reads back, of the two neighbours
of the number on that grid. -/
def onGrid? (x : Binary64) (exponent : Int) : Option Decimal :=
  let (num, den) := x.quotient
  let (n, d) := scaledByTen num den (-exponent)
  let below := n / d
  let fits (digits : Nat) : Bool :=
    let (p, q) := scaledByTen digits 1 exponent
    readsBack x p q
  let nearer := roundDiv n d
  let farther := if nearer = below then below + 1 else below
  if fits nearer then some ⟨nearer, exponent⟩
  else if fits farther then some ⟨farther, exponent⟩
  else none

/-- Tries 1, 2, … digits; seventeen always suffice. -/
def shortestFrom (x : Binary64) (order : Int) (count : Nat) : Nat → Decimal
  | 0 => ⟨0, 0⟩
  | fuel + 1 =>
    match x.onGrid? (order - count + 1) with
    | some decimal => decimal
    | none => shortestFrom x order (count + 1) fuel

/-- The shortest decimal that reads back as a number other than zero. -/
def shortest (x : Binary64) : Decimal :=
  let (num, den) := x.quotient
  shortestFrom x (decimalOrder num den (-324) 633) 1 17

/-- Digits and exponent without trailing zeros in the digits; `fuel` bounds the digits taken off. -/
def Decimal.withoutZeros (x : Decimal) : Nat → Decimal
  | 0 => x
  | fuel + 1 =>
    if x.digits ≠ 0 ∧ x.digits % 10 = 0 then
      Decimal.withoutZeros ⟨x.digits / 10, x.exponent + 1⟩ fuel
    else x

/-- The text of digits and an exponent. -/
def Decimal.text (x : Decimal) : List Char :=
  let ds := Nat.toDigits 10 x.digits
  let point : Int := ds.length + x.exponent
  let zeros (n : Int) : List Char := List.replicate n.toNat '0'
  if 0 ≤ x.exponent ∧ point ≤ 16 then ds ++ zeros x.exponent ++ ['.', '0']
  else if 0 < point ∧ point ≤ 16 then ds.take point.toNat ++ '.' :: ds.drop point.toNat
  else if -5 < point ∧ point ≤ 0 then '0' :: '.' :: zeros (-point) ++ ds
  else
    let mantissa := match ds with
      | [d] => [d]
      | d :: rest => d :: '.' :: rest
      | [] => []
    let power := point - 1
    mantissa ++ 'e' :: (if power < 0 then '-' else '+') :: Nat.toDigits 10 power.natAbs

/-- The decimal text of a number. -/
def text (x : Binary64) : List Char :=
  let magnitude :=
    if x.significand = 0 then ['0', '.', '0']
    else (x.shortest.withoutZeros 20).text
  if x.negative then '-' :: magnitude else magnitude

example : (nearest? false 1 10).map text = some "0.1".toList := by decide +kernel

example : (nearest? false 1000000000000000 1).map text = some "1000000000000000.0".toList := by
  decide +kernel

example : (nearest? false 10000000000000000 1).map text = some "1e+16".toList := by decide +kernel

example : (nearest? true 1 100000).map text = some "-0.00001".toList := by decide +kernel

example : (nearest? true 1 1000000).map text = some "-1e-6".toList := by decide +kernel

end Gazetteer.Binary64
