/-!
# Binary floating point

Finite numbers of 53 binary digits, held exactly. Rounding goes to the nearest number, ties to the
even significand. Nothing here computes with machine floats.
-/

namespace Gazetteer

/-- The number `± significand · 2 ^ exponent`. The significand has at most 53 binary digits, exactly
53 unless the exponent is the least one, `-1074`. -/
structure Binary64 where
  negative : Bool
  significand : Nat
  exponent : Int
deriving DecidableEq, Repr

namespace Binary64

def zero (negative : Bool) : Binary64 := ⟨negative, 0, -1074⟩

/-- `num / den` rounded to a whole number, a half to the even neighbour. -/
def roundDiv (num den : Nat) : Nat :=
  let q := num / den
  let r := num % den
  if 2 * r < den ∨ (2 * r = den ∧ q % 2 = 0) then q else q + 1

/-- `num / den` as a quotient of natural numbers after multiplication by `2 ^ shift`. -/
def scaled (num den : Nat) (shift : Int) : Nat × Nat :=
  if 0 ≤ shift then (num * Nat.pow 2 shift.toNat, den) else (num, den * Nat.pow 2 (-shift).toNat)

/-- The exponent `e` with `2 ^ e ≤ num / den < 2 ^ (e + 1)`, for a positive quotient. -/
def binaryOrder (num den : Nat) : Int :=
  let guess : Int := (num.log2 : Int) - den.log2
  let (n, d) := scaled num den (-guess)
  if d ≤ n then guess else guess - 1

/-- The number nearest to `num / den`; `none` if that quotient is too large to be represented. -/
def nearest? (negative : Bool) (num den : Nat) : Option Binary64 :=
  if num = 0 then some (zero negative)
  else
    let exponent := max (binaryOrder num den - 52) (-1074)
    let (n, d) := scaled num den (-exponent)
    let significand := roundDiv n d
    let (significand, exponent) :=
      if significand = Nat.pow 2 53 then (Nat.pow 2 52, exponent + 1) else (significand, exponent)
    if 971 < exponent then none else some ⟨negative, significand, exponent⟩

/-- The magnitude of a number as a quotient. -/
def quotient (x : Binary64) : Nat × Nat := scaled x.significand 1 x.exponent

/-- The number multiplied by `num / den` and rounded. -/
def times? (x : Binary64) (num den : Nat) : Option Binary64 :=
  let (n, d) := x.quotient
  nearest? x.negative (n * num) (d * den)

end Binary64
end Gazetteer
