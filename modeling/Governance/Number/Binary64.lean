/-!
# Double-precision numbers

The numbers of documents and contexts: signed multiples of 2^-1074 that fit in 53 significant
bits and stay below 2^1024, two infinities, and one value that is no number. Only reading,
comparison and printing are needed, so a finite number is held as its count of units, and every
comparison is a comparison of integers. Zero has two signs with one place in the order.
-/

namespace Governance.Number

/-- A unit is one halved `unitExponent` times. -/
def unitExponent : Nat := 1074

/-- A finite number is below two to the power `topExponent`, counted in units. -/
def topExponent : Nat := 2098

/-- The units in the whole number one. -/
def unitsPerOne : Nat := Nat.pow 2 unitExponent

/-- Every finite number lies below `unitBound` units. -/
def unitBound : Nat := Nat.pow 2 topExponent

theorem twoPower_pos (n : Nat) : 0 < Nat.pow 2 n := Nat.two_pow_pos n

theorem unitsPerOne_pos : 0 < unitsPerOne := by unfold unitsPerOne; exact twoPower_pos _

theorem unitBound_pos : 0 < unitBound := by unfold unitBound; exact twoPower_pos _

/-- Whether 53 significant bits can hold the count `units`. -/
def Representable (units : Nat) : Prop :=
  units < unitBound ∧ units % Nat.pow 2 (units.log2 - 52) = 0

instance (units : Nat) : Decidable (Representable units) :=
  inferInstanceAs (Decidable (_ ∧ _))

/-- A double-precision number; a `finite` one is so many `units` with a sign. -/
inductive Binary64
  | finite (negative : Bool) (units : Nat) (fits : Representable units)
  | infinite (negative : Bool)
  | nan

namespace Binary64

theorem representable_zero : Representable 0 := ⟨unitBound_pos, by simp⟩

def zero : Binary64 := finite false 0 representable_zero

instance : Inhabited Binary64 := ⟨zero⟩

/-- The number with so many `units`; too many give an infinity. -/
def ofUnits (negative : Bool) (units : Nat) : Binary64 :=
  if h : Representable units then finite negative units h else infinite negative

theorem ofUnits_of_representable {negative : Bool} {units : Nat} (h : Representable units) :
    ofUnits negative units = finite negative units h := by
  simp [ofUnits, h]

/-- The place of a number in the order; infinities lie past every `finite` number, and `nan` has
none. -/
def place? : Binary64 → Option Int
  | finite negative units _ => some (if negative then -(units : Int) else units)
  | infinite negative => some (if negative then -(unitBound : Int) else unitBound)
  | nan => none

/-- Compares the places of `x` and `y` with `r`; `nan` compares with nothing. -/
def relates (r : Int → Int → Bool) (x y : Binary64) : Bool :=
  match x.place?, y.place? with
  | some a, some b => r a b
  | _, _ => false

/-- Equality of value: both zeros are equal, and `nan` equals nothing. -/
def equal (x y : Binary64) : Bool := relates (· == ·) x y

def less (x y : Binary64) : Bool := relates (fun a b => decide (a < b)) x y

def atMost (x y : Binary64) : Bool := relates (fun a b => decide (a ≤ b)) x y

instance : BEq Binary64 := ⟨equal⟩

def isFinite : Binary64 → Bool
  | finite .. => true
  | _ => false

theorem place?_isSome_of_isFinite {x : Binary64} (h : x.isFinite = true) :
    x.place?.isSome = true := by
  cases x <;> simp_all [isFinite, place?]

theorem equal_comm (x y : Binary64) : x.equal y = y.equal x := by
  unfold equal relates
  cases x.place? <;> cases y.place? <;> simp [Bool.beq_comm]

theorem equal_self {x : Binary64} (h : x.isFinite = true) : x.equal x = true := by
  cases x <;> simp_all [isFinite, equal, relates, place?]

theorem equal_iff {x y : Binary64} :
    x.equal y = true ↔ x.place?.isSome = true ∧ x.place? = y.place? := by
  unfold equal relates
  cases x.place? <;> cases y.place? <;> simp

/-- Whether the number is whole, a multiple of `unitsPerOne`. -/
def isWhole : Binary64 → Bool
  | finite _ units _ => units % unitsPerOne == 0
  | _ => false

/-- The whole part of a `finite` number, toward zero. -/
def wholePart : Binary64 → Int
  | finite negative units _ =>
    let n : Int := (units / unitsPerOne : Nat)
    if negative then -n else n
  | _ => 0

end Binary64

end Governance.Number
