/-!
# Numerals

Whole numbers as digits of a base. `Nat.toDigits` writes them; here they are read back. A word
numeral may carry a plus sign and must denote a number below `2 ^ 64`.
-/

namespace Gazetteer.Numeral

/-- The value of a digit; letters of either case count on from ten. -/
def digitValue (c : Char) : Nat :=
  if '0' ≤ c ∧ c ≤ '9' then c.toNat - '0'.toNat
  else if 'a' ≤ c ∧ c ≤ 'z' then c.toNat - 'a'.toNat + 10
  else if 'A' ≤ c ∧ c ≤ 'Z' then c.toNat - 'A'.toNat + 10
  else 36

/-- The number that a run of digits denotes. -/
def value (base : Nat) (digits : List Char) : Nat :=
  digits.foldl (fun n c => base * n + digitValue c) 0

/-- Reads an unsigned number: at least one digit and nothing else. -/
def read? (base : Nat) (cs : List Char) : Option Nat :=
  if cs ≠ [] ∧ cs.all (fun c => digitValue c < base) then some (value base cs) else none

/-- Reads a 64-bit word: an unsigned number in range, with a plus sign or without. -/
def readWord? (base : Nat) (cs : List Char) : Option UInt64 :=
  let digits := match cs with
    | '+' :: rest => rest
    | _ => cs
  (read? base digits).bind fun n => if n < UInt64.size then some (UInt64.ofNat n) else none

/-- The decimal text of a number. -/
def decimal (n : Nat) : List Char := Nat.toDigits 10 n

end Gazetteer.Numeral
