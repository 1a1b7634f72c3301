import Governance.Number.Binary64

/-!
# Decimals and rounding

A decimal is a digit sequence times a power of ten. It rounds to the nearest double-precision
number, ties to the even neighbour. A number that already fits is its own rounding.
-/

namespace Governance.Number

/-- The value `digits · 10^exponent`. -/
structure Decimal where
  digits : Nat
  exponent : Int
deriving DecidableEq, Repr

/-- The multiple of `den`-ths nearest to `num / den` that 53 bits can hold, ties to even. -/
def nearestUnits (num den : Nat) : Nat :=
  let step := Nat.pow 2 ((num / den).log2 - 52)
  let quotient := num / (den * step)
  let twiceRest := 2 * (num % (den * step))
  if twiceRest < den * step then quotient * step
  else if den * step < twiceRest then (quotient + 1) * step
  else if quotient % 2 = 0 then quotient * step
  else (quotient + 1) * step

/-- A `Representable` count of units is its own nearest neighbour. -/
theorem nearestUnits_of_representable {units den : Nat} (hd : 0 < den) (h : Representable units) :
    nearestUnits (units * den) den = units := by
  have hdiv : units * den / den = units := Nat.mul_div_cancel _ hd
  obtain ⟨_, hmod⟩ := h
  obtain ⟨k, hk⟩ := Nat.dvd_of_mod_eq_zero hmod
  have hstep : 0 < Nat.pow 2 (units.log2 - 52) := twoPower_pos _
  have hpos : 0 < den * Nat.pow 2 (units.log2 - 52) := Nat.mul_pos hd hstep
  have hnum : units * den = k * (den * Nat.pow 2 (units.log2 - 52)) := by
    calc units * den = Nat.pow 2 (units.log2 - 52) * k * den := by rw [← hk]
      _ = k * (den * Nat.pow 2 (units.log2 - 52)) := by
        rw [Nat.mul_comm (Nat.pow 2 _) k, Nat.mul_assoc, Nat.mul_comm (Nat.pow 2 _) den]
  unfold nearestUnits
  simp only [hdiv]
  rw [hnum, Nat.mul_div_cancel _ hpos, Nat.mul_mod_left]
  simp only [Nat.mul_zero]
  rw [if_pos hpos, Nat.mul_comm, ← hk]

/-- How many decimal digits `n` has; zero has one. -/
def decimalLength (n : Nat) : Nat :=
  let k := n.log2 * 1233 / 4096
  if Nat.pow 10 (k + 1) ≤ n then k + 2 else k + 1

namespace Decimal

/-- The units nearest to the decimal `d`, however many. -/
def units (d : Decimal) : Nat :=
  match d.exponent with
  | .ofNat e => nearestUnits (d.digits * Nat.pow 10 e * unitsPerOne) 1
  | .negSucc e => nearestUnits (d.digits * unitsPerOne) (Nat.pow 10 (e + 1))

/-- The number nearest to `d` with a sign. Ten is more than two cubed, so the `exponent` and the
length of the `digits` in bits tell the powers of ten that lead outside the range of numbers; those
are not computed. -/
def toBinary64 (d : Decimal) (negative : Bool) : Binary64 :=
  let size := (d.digits.log2 : Int) + 3 * d.exponent
  if d.digits = 0 ∨ size ≤ -1076 then .ofUnits negative 0
  else if 0 ≤ d.exponent ∧ 1024 ≤ size then .infinite negative
  else .ofUnits negative d.units

/-- The same value with no zero at the end of its `digits`; `fuel` bounds how many are taken off. -/
def normalize : Nat → Decimal → Decimal
  | 0, d => d
  | fuel + 1, d =>
    if d.digits ≠ 0 ∧ d.digits % 10 = 0 then normalize fuel ⟨d.digits / 10, d.exponent + 1⟩ else d

end Decimal

/-- The number nearest to the integer `n`. -/
def Binary64.ofInt (n : Int) : Binary64 :=
  Decimal.toBinary64 ⟨n.natAbs, 0⟩ (decide (n < 0))

end Governance.Number
