import Governance.Number.Decimal

/-!
# The shortest decimal that reads back

Of all decimals that round to a number, the one with the fewest digits, and of several the nearest.
On the grid of decimals with a given digit count only the two neighbours of the number matter. The
number's exact expansion closes the search, so the result always reads back.
-/

namespace Governance.Number

/-- Which neighbour stands for a number halfway between two: the one with an even last digit, or the
greater one. -/
inductive Tie
  | toEven
  | up
deriving DecidableEq, Repr

/-- The digits of `units` in the exact decimal expansion, 1074 of them behind the point. -/
def exactDigits (units : Nat) : Nat := units * Nat.pow 5 1074

/-- The exact decimal value of a count of `units`. -/
def exactDecimal (units : Nat) : Decimal := ⟨exactDigits units, -1074⟩

/-- Whether the decimal `d` rounds to so many `units`. -/
def readsBack (units : Nat) (d : Decimal) : Bool := d.units == units

/-- The decimal with `count` digits nearest to `units` among those that read back (`readsBack`). -/
def onGrid (tie : Tie) (units count : Nat) : Option Decimal :=
  let all := exactDigits units
  let length := decimalLength all
  let spacing := Nat.pow 10 (length - count)
  let exponent : Int := (length - count : Nat) - 1074
  let low := all / spacing
  let rest := all % spacing
  let below : Decimal := ⟨low, exponent⟩
  let above : Decimal := ⟨low + 1, exponent⟩
  let lowFits := readsBack units below
  let highFits := readsBack units above
  if rest = 0 then if lowFits then some below else none
  else if lowFits && highFits then
    if 2 * rest < spacing then some below
    else if spacing < 2 * rest then some above
    else match tie with
      | .up => some above
      | .toEven => if low % 2 = 0 then some below else some above
  else if lowFits then some below
  else if highFits then some above
  else none

theorem readsBack_of_onGrid {tie : Tie} {units count : Nat} {d : Decimal}
    (h : onGrid tie units count = some d) : readsBack units d = true := by
  unfold onGrid at h
  simp only at h
  repeat' split at h
  all_goals first
    | (simp at h; done)
    | (simp only [Option.some.injEq] at h; subst h; simp_all)

/-- The decimal of the first grid, from one digit to seventeen, that holds one which reads back
(`onGrid`). -/
def shortest (tie : Tie) (units : Nat) : Decimal :=
  ((List.range 17).findSome? fun n => onGrid tie units (n + 1)).elim (exactDecimal units)
    (Decimal.normalize 20)

end Governance.Number
