import Gazetteer.Number.Binary64

/-!
# Reading decimals

A decimal is read by rounding its digits to a binary number and then multiplying by the rounded
power of ten, or dividing by it. Each step rounds to the nearest number, so the result may miss the
nearest one by its last binary digit.
-/

namespace Gazetteer.Binary64

/-- A number multiplied by `10 ^ power`, for a `power` up to 308. -/
def timesTen? (x : Binary64) (power : Nat) : Option Binary64 := do
  let ten ← nearest? false (Nat.pow 10 power) 1
  let (n, d) := ten.quotient
  x.times? n d

/-- A number divided by `10 ^ power`, for a `power` up to 308. -/
def overTen? (x : Binary64) (power : Nat) : Option Binary64 := do
  let ten ← nearest? false (Nat.pow 10 power) 1
  let (n, d) := ten.quotient
  x.times? d n

/-- A number divided by `10 ^ power`, 308 powers at a time. `fuel` counts these divisions: after
three of them the digits of a 64-bit word have vanished. -/
def sunk? (x : Binary64) (power : Nat) : Nat → Option Binary64
  | 0 => some (zero x.negative)
  | fuel + 1 =>
    if power ≤ 308 then x.overTen? power
    else (x.overTen? 308).bind fun y => sunk? y (power - 308) fuel

/-- The number for `digits · 10 ^ exponent`, below `2 ^ 64` in its digits; `none` if it is too large
to be represented. -/
def ofDecimal? (negative : Bool) (digits : Nat) (exponent : Int) : Option Binary64 := do
  let x ← nearest? negative digits 1
  if digits = 0 then some x
  else if 0 ≤ exponent then if exponent ≤ 308 then x.timesTen? exponent.toNat else none
  else x.sunk? (-exponent).toNat 4

example : ofDecimal? false 5 (-324) = some ⟨false, 1, -1074⟩ := by decide +kernel

example : ofDecimal? false 1 309 = none := by decide

end Gazetteer.Binary64
