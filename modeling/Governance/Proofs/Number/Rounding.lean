import Mathlib.Algebra.Group.Nat.Defs
import Governance.Number.Decimal

/-!
# Rounding to 53 significant bits

A quotient lies between two neighbours on the grid of numbers that 53 bits hold around it, and
rounding takes the nearer one. So no number of 53 bits lies nearer, rounding keeps the order, and
what 53 bits hold is its own rounding. The cut-offs on powers of ten change no answer.

* `nearestUnits_cases`: the grid around a quotient, and the neighbour that is taken.
* `nearestUnits_nearest`, `isNearest_nearestWhole`: nothing that 53 bits hold lies nearer.
* `IsNearest.mono`: rounding keeps the order.
* `nearestWhole_mul_twoPower`: a power of two may be taken out of a whole number.
* `Decimal.toBinary64_eq`: every decimal is read as the number of its units.
-/

namespace Governance.Number

/-! ### Significant bits -/

/-- Whether `n` needs no more significant bits than `bits`, from its first to its last that is
set. -/
def FitsBits (bits n : Nat) : Prop := n % Nat.pow 2 (n.log2 + 1 - bits) = 0

instance (bits n : Nat) : Decidable (FitsBits bits n) := inferInstanceAs (Decidable (_ = _))

variable {bits m n : Nat}

theorem fitsBits_of_lt {k : Nat} (j : Nat) (hk : k < 2 ^ bits) : FitsBits bits (k * 2 ^ j) := by
  unfold FitsBits
  by_cases hzero : k * 2 ^ j = 0
  · rw [hzero, Nat.zero_mod]
  · have hbelow : k * 2 ^ j < 2 ^ (bits + j) := by
      rw [Nat.pow_add]
      exact Nat.mul_lt_mul_of_pos_right hk (Nat.two_pow_pos j)
    have hlog : (k * 2 ^ j).log2 < bits + j := (Nat.log2_lt hzero).2 hbelow
    have hdvd : 2 ^ ((k * 2 ^ j).log2 + 1 - bits) ∣ 2 ^ j := Nat.pow_dvd_pow 2 (by omega)
    exact Nat.mod_eq_zero_of_dvd (Nat.dvd_mul_left_of_dvd hdvd k)

/-- A number fits if it is a number `k` of so many bits, moved up by `j`. -/
theorem fitsBits_iff : FitsBits bits n ↔ ∃ k j, k < 2 ^ bits ∧ n = k * 2 ^ j := by
  constructor
  · intro h
    obtain ⟨k, hk⟩ := Nat.dvd_of_mod_eq_zero h
    refine ⟨k, n.log2 + 1 - bits, ?_, hk.trans (Nat.mul_comm _ k)⟩
    have htop : n < 2 ^ (n.log2 + 1) := Nat.lt_log2_self
    have hsum : 2 ^ (n.log2 + 1) ≤ 2 ^ (n.log2 + 1 - bits) * 2 ^ bits := by
      rw [← Nat.pow_add]
      exact Nat.pow_le_pow_right Nat.two_pos (by omega)
    have hless : 2 ^ (n.log2 + 1 - bits) * k < 2 ^ (n.log2 + 1 - bits) * 2 ^ bits := by
      calc 2 ^ (n.log2 + 1 - bits) * k = n := hk.symm
        _ < 2 ^ (n.log2 + 1) := htop
        _ ≤ 2 ^ (n.log2 + 1 - bits) * 2 ^ bits := hsum
    exact Nat.lt_of_mul_lt_mul_left hless
  · rintro ⟨k, j, hk, rfl⟩
    exact fitsBits_of_lt j hk

theorem fitsBits_of_le (hbits : 0 < bits) {k : Nat} (j : Nat) (hk : k ≤ 2 ^ bits) :
    FitsBits bits (k * 2 ^ j) := by
  rcases Nat.lt_or_eq_of_le hk with hlt | rfl
  · exact fitsBits_of_lt j hlt
  · have hone : FitsBits bits (1 * 2 ^ (bits + j)) :=
      fitsBits_of_lt (bits + j) (Nat.one_lt_two_pow (Nat.pos_iff_ne_zero.1 hbits))
    rwa [Nat.one_mul, Nat.pow_add] at hone

theorem FitsBits.mul_twoPower (h : FitsBits bits n) (j : Nat) : FitsBits bits (n * 2 ^ j) := by
  obtain ⟨k, i, hk, rfl⟩ := fitsBits_iff.1 h
  rw [Nat.mul_assoc, ← Nat.pow_add]
  exact fitsBits_of_lt (i + j) hk

theorem representable_iff : Representable n ↔ n < unitBound ∧ FitsBits 53 n := by
  rw [Representable, FitsBits, Nat.add_sub_add_right n.log2 1 52]

/-! ### The neighbours of a quotient -/

variable {num den : Nat}

/-- **The grid around a quotient, and the neighbour that rounding takes**: the nearer one, and the
even one of two that are equally near. The grid is as fine as 53 bits allow. -/
theorem nearestUnits_cases (num : Nat) (hden : 0 < den) : ∃ low rest j : Nat,
    num = low * (den * 2 ^ j) + rest ∧ rest < den * 2 ^ j ∧ low < 2 ^ 53 ∧ (j = 0 ∨ 2 ^ 52 ≤ low)
      ∧ (nearestUnits num den = low * 2 ^ j ∧ 2 * rest ≤ den * 2 ^ j
            ∧ (2 * rest = den * 2 ^ j → low % 2 = 0)
          ∨ nearestUnits num den = (low + 1) * 2 ^ j ∧ den * 2 ^ j ≤ 2 * rest
            ∧ (2 * rest = den * 2 ^ j → (low + 1) % 2 = 0)) := by
  have hstep : 0 < den * 2 ^ ((num / den).log2 - 52) := Nat.mul_pos hden (Nat.two_pow_pos _)
  refine ⟨num / (den * 2 ^ ((num / den).log2 - 52)), num % (den * 2 ^ ((num / den).log2 - 52)),
    (num / den).log2 - 52, ?_, Nat.mod_lt _ hstep, ?_, ?_, ?_⟩
  · rw [Nat.mul_comm]
    exact (Nat.div_add_mod _ _).symm
  · rw [← Nat.div_div_eq_div_mul, Nat.div_lt_iff_lt_mul (Nat.two_pow_pos _), ← Nat.pow_add]
    exact Nat.lt_of_lt_of_le Nat.lt_log2_self (Nat.pow_le_pow_right Nat.two_pos (by omega))
  · by_cases hlog : (num / den).log2 ≤ 52
    · exact .inl (Nat.sub_eq_zero_of_le hlog)
    · have hne : num / den ≠ 0 := fun hzero => by simp [hzero] at hlog
      right
      rw [← Nat.div_div_eq_div_mul, Nat.le_div_iff_mul_le (Nat.two_pow_pos _), ← Nat.pow_add]
      exact Nat.le_trans (Nat.pow_le_pow_right Nat.two_pos (by omega)) (Nat.log2_self_le hne)
  · unfold nearestUnits
    simp only [Nat.pow_eq]
    generalize den * 2 ^ ((num / den).log2 - 52) = step
    split
    · exact .inl ⟨rfl, by omega, by omega⟩
    · split
      · exact .inr ⟨rfl, by omega, by omega⟩
      · split
        · exact .inl ⟨rfl, by omega, by omega⟩
        · exact .inr ⟨rfl, by omega, by omega⟩

/-- No number `v` of 53 bits lies strictly between two neighbours on the grid. -/
theorem beside_of_fitsBits {low j v : Nat} (hfine : j = 0 ∨ 2 ^ 52 ≤ low) (hv : FitsBits 53 v) :
    v ≤ low * 2 ^ j ∨ (low + 1) * 2 ^ j ≤ v := by
  obtain ⟨k, i, hk, rfl⟩ := fitsBits_iff.1 hv
  by_cases hij : j ≤ i
  · -- a multiple of the spacing
    have hmultiple : k * 2 ^ i = k * 2 ^ (i - j) * 2 ^ j := by
      rw [Nat.mul_assoc, ← Nat.pow_add, Nat.sub_add_cancel hij]
    rw [hmultiple]
    rcases Nat.lt_or_ge low (k * 2 ^ (i - j)) with hlt | hle
    · exact .inr (Nat.mul_le_mul_right _ hlt)
    · exact .inl (Nat.mul_le_mul_right _ hle)
  · -- a number of a finer grid, so below this one
    left
    have hlow : 2 ^ 52 ≤ low := hfine.resolve_left (by omega)
    calc k * 2 ^ i ≤ 2 ^ 53 * 2 ^ i := Nat.mul_le_mul_right _ (Nat.le_of_lt hk)
      _ = 2 ^ 52 * 2 ^ (i + 1) := by rw [Nat.pow_succ, Nat.pow_succ]; omega
      _ ≤ 2 ^ 52 * 2 ^ j :=
        Nat.mul_le_mul_left _ (Nat.pow_le_pow_right Nat.two_pos (by omega))
      _ ≤ low * 2 ^ j := Nat.mul_le_mul_right _ hlow

theorem fitsBits_nearestUnits (num : Nat) (hden : 0 < den) :
    FitsBits 53 (nearestUnits num den) := by
  obtain ⟨low, rest, j, -, -, hlow, -, ⟨heq, -⟩ | ⟨heq, -⟩⟩ := nearestUnits_cases num hden
  · exact heq ▸ fitsBits_of_lt j hlow
  · exact heq ▸ fitsBits_of_le (by decide) j hlow

/-- How far apart `m` and `n` are. -/
def apart (m n : Nat) : Nat := m - n + (n - m)

/-- **Nothing that 53 bits hold lies nearer to a quotient than its rounding** by `nearestUnits`.
What lies as near is the other neighbour, and then the rounding does with 52 bits. -/
theorem nearestUnits_nearest (num : Nat) (hden : 0 < den) {v : Nat} (hv : FitsBits 53 v) :
    apart num (nearestUnits num den * den) ≤ apart num (v * den)
      ∧ (v ≠ nearestUnits num den → apart num (nearestUnits num den * den) = apart num (v * den) →
          FitsBits 52 (nearestUnits num den)) := by
  obtain ⟨low, rest, j, hnum, hrest, hlow, hfine, hcases⟩ := nearestUnits_cases num hden
  have hscale (k : Nat) : k * 2 ^ j * den = k * (den * 2 ^ j) := by
    rw [Nat.mul_assoc, Nat.mul_comm (2 ^ j)]
  have hsucc : (low + 1) * (den * 2 ^ j) = low * (den * 2 ^ j) + den * 2 ^ j := Nat.succ_mul _ _
  have hside : v * den ≤ low * (den * 2 ^ j) ∨ (low + 1) * (den * 2 ^ j) ≤ v * den := by
    rw [← hscale, ← hscale]
    exact (beside_of_fitsBits hfine hv).imp (Nat.mul_le_mul_right den) (Nat.mul_le_mul_right den)
  have hhalf {k : Nat} (hk : k ≤ 2 ^ 53) (heven : k % 2 = 0) : FitsBits 52 (k * 2 ^ j) := by
    have hpair : k * 2 ^ j = k / 2 * 2 ^ (j + 1) := by
      rw [Nat.pow_succ, Nat.mul_comm (2 ^ j) 2, ← Nat.mul_assoc,
        Nat.div_mul_cancel (Nat.dvd_of_mod_eq_zero heven)]
    rw [hpair]
    exact fitsBits_of_le (by decide) _ (by omega)
  rcases hcases with ⟨heq, hle, htie⟩ | ⟨heq, hle, htie⟩
  · rw [heq]
    refine ⟨by rw [hscale, apart, apart]; omega, fun hne has => hhalf (by omega) (htie ?_)⟩
    have hvne : v * den ≠ low * (den * 2 ^ j) := fun h =>
      hne (Nat.eq_of_mul_eq_mul_right hden (h.trans (hscale low).symm))
    rw [hscale, apart, apart] at has
    omega
  · rw [heq]
    refine ⟨by rw [hscale, apart, apart]; omega, fun hne has => hhalf (by omega) (htie ?_)⟩
    have hvne : v * den ≠ (low + 1) * (den * 2 ^ j) := fun h =>
      hne (Nat.eq_of_mul_eq_mul_right hden (h.trans (hscale (low + 1)).symm))
    rw [hscale, apart, apart] at has
    omega

/-! ### Whole numbers -/

/-- The whole number that 53 bits hold nearest to `n`. -/
def nearestWhole (n : Nat) : Nat := nearestUnits n 1

/-- A number `r` of 53 bits that is nearest to `n`, the one that does with 52 bits if two are
equally near. -/
structure IsNearest (n r : Nat) : Prop where
  fits : FitsBits 53 r
  nearest : ∀ v, FitsBits 53 v → apart n r ≤ apart n v
  even : ∀ v, FitsBits 53 v → v ≠ r → apart n r = apart n v → FitsBits 52 r

theorem isNearest_nearestWhole (n : Nat) : IsNearest n (nearestWhole n) where
  fits := fitsBits_nearestUnits n Nat.one_pos
  nearest v hv := by
    have h := (nearestUnits_nearest n Nat.one_pos hv).1
    rwa [Nat.mul_one, Nat.mul_one] at h
  even v hv := by
    have h := (nearestUnits_nearest n Nat.one_pos hv).2
    rwa [Nat.mul_one, Nat.mul_one] at h

/-- What 53 bits hold is its own rounding, the only one that `IsNearest`. -/
theorem IsNearest.eq_of_fitsBits {r : Nat} (h : IsNearest n r) (hn : FitsBits 53 n) : r = n := by
  have hnear := h.nearest n hn
  unfold apart at hnear
  omega

/-- **Rounding keeps the order**: what is nearest to `m` is at most what is nearest to a greater
`n`. -/
theorem IsNearest.mono {a b : Nat} (ha : IsNearest m a) (hb : IsNearest n b) (hmn : m < n) :
    a ≤ b := by
  have hnear := ha.nearest b hb.fits
  have hnear' := hb.nearest a ha.fits
  unfold apart at hnear hnear'
  omega

theorem nearestWhole_of_fitsBits (h : FitsBits 53 n) : nearestWhole n = n :=
  (isNearest_nearestWhole n).eq_of_fitsBits h

theorem nearestWhole_mono (h : m ≤ n) : nearestWhole m ≤ nearestWhole n := by
  rcases Nat.lt_or_eq_of_le h with hlt | rfl
  · exact (isNearest_nearestWhole m).mono (isNearest_nearestWhole n) hlt
  · exact Nat.le_refl _

/-- A power of two, `2 ^ k`, may be taken out before rounding. -/
theorem nearestWhole_mul_twoPower (n k : Nat) :
    nearestWhole (n * 2 ^ k) = nearestWhole n * 2 ^ k := by
  by_cases hfits : FitsBits 53 n
  · rw [nearestWhole_of_fitsBits hfits, nearestWhole_of_fitsBits (hfits.mul_twoPower k)]
  · have hlarge : 2 ^ 53 ≤ n := Nat.le_of_not_lt fun hlt => hfits (by
      have h := fitsBits_of_lt 0 hlt
      rwa [Nat.pow_zero, Nat.mul_one] at h)
    have hne : n ≠ 0 := by omega
    have hlog : (n * 2 ^ k).log2 = n.log2 + k := by
      rw [Nat.log2_eq_iff (Nat.mul_ne_zero hne (Nat.ne_of_gt (Nat.two_pow_pos k))),
        Nat.add_right_comm, Nat.pow_add, Nat.pow_add]
      exact ⟨Nat.mul_le_mul_right _ (Nat.log2_self_le hne),
        Nat.mul_lt_mul_of_pos_right Nat.lt_log2_self (Nat.two_pow_pos k)⟩
    have hlow : 52 ≤ n.log2 := (Nat.le_log2 hne).2 (by omega)
    have hstep : 2 ^ ((n * 2 ^ k).log2 - 52) = 2 ^ (n.log2 - 52) * 2 ^ k := by
      rw [hlog, ← Nat.pow_add, Nat.sub_add_comm hlow]
    have hless (a b : Nat) : a * 2 ^ k < b * 2 ^ k ↔ a < b :=
      Nat.mul_lt_mul_right (Nat.two_pow_pos k)
    unfold nearestWhole nearestUnits
    simp only [Nat.pow_eq, Nat.div_one, Nat.one_mul, hstep,
      Nat.mul_div_mul_right _ _ (Nat.two_pow_pos k), Nat.mul_mod_mul_right, ← Nat.mul_assoc, hless]
    generalize 2 ^ (n.log2 - 52) = step
    split
    · rfl
    · split
      · rfl
      · split <;> rfl

/-! ### The range of finite numbers -/

/-- Half a spacing below a power of two, numbers round up to it by `nearestWhole`. -/
theorem nearestWhole_lt_iff (n k : Nat) :
    nearestWhole n < 2 ^ 54 * 2 ^ k ↔ n < (2 ^ 54 - 1) * 2 ^ k := by
  constructor
  · intro h
    have hround : nearestWhole (2 ^ 54 - 1) = 2 ^ 54 := by decide +kernel
    refine Nat.lt_of_not_le fun hle => Nat.not_le.2 h ?_
    rw [← hround, ← nearestWhole_mul_twoPower]
    exact nearestWhole_mono hle
  · intro h
    -- the greatest number of 53 bits below the power of two
    have hfits : FitsBits 53 ((2 ^ 53 - 1) * 2 ^ (k + 1)) := fitsBits_of_lt (k + 1) (by decide)
    rcases Nat.le_total n ((2 ^ 53 - 1) * 2 ^ (k + 1)) with hle | hle
    · have hmono := nearestWhole_mono hle
      rw [nearestWhole_of_fitsBits hfits, Nat.pow_succ] at hmono
      have hpos := Nat.two_pow_pos k
      omega
    · have hnear := (isNearest_nearestWhole n).nearest _ hfits
      rw [Nat.pow_succ] at hnear hle
      unfold apart at hnear
      omega

/-- Every finite number lies below this whole number. -/
def wholeTop : Nat := 2 ^ 1024

/-- Whole numbers from here on round past every finite number. -/
def wholeBound : Nat := 2 ^ 1024 - 2 ^ 970

/-! The exponents are variables on the way, for the powers are too large to be computed. -/

theorem wholeTop_eq : wholeTop = 2 ^ 54 * 2 ^ 970 := by
  have hsum (i j k : Nat) (hk : k = i + j) : 2 ^ k = 2 ^ i * 2 ^ j := by rw [hk, Nat.pow_add]
  unfold wholeTop
  exact hsum 54 970 1024 rfl

theorem wholeBound_eq : wholeBound = (2 ^ 54 - 1) * 2 ^ 970 := by
  have hdifference (i j k : Nat) (hk : k = i + j) : 2 ^ k - 2 ^ j = (2 ^ i - 1) * 2 ^ j := by
    rw [hk, Nat.pow_add, Nat.sub_mul, Nat.one_mul]
  unfold wholeBound
  exact hdifference 54 970 1024 rfl

theorem unitsPerOne_eq : unitsPerOne = 2 ^ unitExponent := by
  have hpower (k : Nat) : Nat.pow 2 k = 2 ^ k := Nat.pow_eq
  unfold unitsPerOne
  exact hpower unitExponent

theorem nearestWhole_mul_unitsPerOne (n : Nat) :
    nearestWhole (n * unitsPerOne) = nearestWhole n * unitsPerOne := by
  rw [unitsPerOne_eq]
  exact nearestWhole_mul_twoPower n unitExponent

theorem unitBound_eq : unitBound = wholeTop * unitsPerOne := by
  have hsum (i j k : Nat) (hk : k = i + j) : Nat.pow 2 k = 2 ^ i * Nat.pow 2 j := by
    rw [hk, Nat.pow_eq, Nat.pow_eq, Nat.pow_add]
  unfold unitBound wholeTop unitsPerOne
  exact hsum 1024 unitExponent topExponent rfl

theorem fitsBits_wholeTop : FitsBits 53 wholeTop := by
  have htop : FitsBits 53 (2 ^ 54) := by decide
  rw [wholeTop_eq]
  exact htop.mul_twoPower 970

theorem nearestWhole_lt_wholeTop_iff : nearestWhole n < wholeTop ↔ n < wholeBound := by
  rw [wholeTop_eq, wholeBound_eq]
  exact nearestWhole_lt_iff n 970

theorem representable_nearestWhole_iff :
    Representable (nearestWhole n * unitsPerOne) ↔ n < wholeBound := by
  have hfits : FitsBits 53 (nearestWhole n * unitsPerOne) := by
    rw [unitsPerOne_eq]
    exact (isNearest_nearestWhole n).fits.mul_twoPower unitExponent
  rw [representable_iff, and_iff_left hfits, unitBound_eq, Nat.mul_lt_mul_right unitsPerOne_pos,
    nearestWhole_lt_wholeTop_iff]

theorem Binary64.ofUnits_of_le {negative : Bool} (h : unitBound ≤ n) :
    ofUnits negative n = infinite negative := by
  rw [ofUnits, dif_neg]
  exact fun hfits => Nat.not_lt.2 h hfits.1

/-! ### Powers of ten that are not computed -/

/-- What is less than half of one, `num` by `den`, is rounded to nothing. -/
theorem nearestUnits_eq_zero (h : 2 * num < den) : nearestUnits num den = 0 := by
  have hden : 0 < den := by omega
  have hnear := (nearestUnits_nearest num hden (v := 0) (by decide)).1
  rw [Nat.zero_mul] at hnear
  unfold apart at hnear
  refine Nat.eq_zero_of_not_pos fun hpos => ?_
  have hle : den ≤ nearestUnits num den * den := Nat.le_mul_of_pos_left den hpos
  omega

theorem eightPower_le (e : Nat) : 2 ^ (3 * e) ≤ 10 ^ e := by
  rw [Nat.pow_mul]
  exact Nat.pow_le_pow_left (by decide) e

theorem two_mul_lt_tenPower {u e : Nat} (h : n.log2 + u + 2 ≤ 3 * e) :
    2 * (n * 2 ^ u) < 10 ^ e := by
  calc 2 * (n * 2 ^ u) < 2 * (2 ^ (n.log2 + 1) * 2 ^ u) :=
        Nat.mul_lt_mul_of_pos_left
          (Nat.mul_lt_mul_of_pos_right Nat.lt_log2_self (Nat.two_pow_pos u)) Nat.two_pos
    _ = 2 ^ (n.log2 + u + 2) := by
      rw [← Nat.pow_add, ← Nat.pow_succ']
      exact congrArg (2 ^ ·) (by omega)
    _ ≤ 2 ^ (3 * e) := Nat.pow_le_pow_right Nat.two_pos h
    _ ≤ 10 ^ e := eightPower_le e

theorem twoPower_le_mul_tenPower (e k : Nat) (hn : n ≠ 0) (h : k ≤ n.log2 + 3 * e) :
    2 ^ k ≤ n * 10 ^ e := by
  calc 2 ^ k ≤ 2 ^ n.log2 * 2 ^ (3 * e) := by
        rw [← Nat.pow_add]
        exact Nat.pow_le_pow_right Nat.two_pos h
    _ ≤ n * 10 ^ e := Nat.mul_le_mul (Nat.log2_self_le hn) (eightPower_le e)

namespace Decimal

/-- The `units` of a whole number are those of the whole number that it is rounded to. -/
theorem units_whole (n e : Nat) :
    units ⟨n, .ofNat e⟩ = nearestWhole (n * 10 ^ e) * unitsPerOne := by
  have hunits : units ⟨n, .ofNat e⟩ = nearestWhole (n * 10 ^ e * unitsPerOne) := rfl
  rw [hunits, nearestWhole_mul_unitsPerOne]

theorem units_natural (n : Nat) : units ⟨n, 0⟩ = nearestWhole n * unitsPerOne := by
  have hunits := units_whole n 0
  rwa [Nat.pow_zero, Nat.mul_one] at hunits

theorem units_eq_zero (e : Int) (h : n = 0 ∨ (n.log2 : Int) + 3 * e ≤ -1076) :
    units ⟨n, e⟩ = 0 := by
  cases e with
  | ofNat e =>
    rw [Int.ofNat_eq_natCast] at h
    obtain rfl : n = 0 := by omega
    rw [units_whole, Nat.zero_mul, nearestWhole_of_fitsBits (by decide), Nat.zero_mul]
  | negSucc e =>
    have hunits : units ⟨n, .negSucc e⟩ = nearestUnits (n * unitsPerOne) (10 ^ (e + 1)) := rfl
    rw [hunits, unitsPerOne_eq]
    refine nearestUnits_eq_zero ?_
    rcases h with rfl | h
    · rw [Nat.zero_mul]
      exact Nat.pow_pos (by decide)
    · have hunit : unitExponent = 1074 := rfl
      have hsmall : n.log2 + unitExponent + 2 ≤ 3 * (e + 1) := by omega
      exact two_mul_lt_tenPower hsmall

theorem unitBound_le_units (e : Nat) (hn : n ≠ 0) (h : 1024 ≤ n.log2 + 3 * e) :
    unitBound ≤ units ⟨n, .ofNat e⟩ := by
  have hlarge : wholeTop ≤ n * 10 ^ e := by
    unfold wholeTop
    exact twoPower_le_mul_tenPower e 1024 hn h
  rw [units_whole, unitBound_eq]
  refine Nat.mul_le_mul_right _ ?_
  rw [← nearestWhole_of_fitsBits fitsBits_wholeTop]
  exact nearestWhole_mono hlarge

/-- **Every decimal is read as the number of its units** by `toBinary64`: the powers of ten that are
not computed lead below half a unit or past every finite number. -/
theorem toBinary64_eq (d : Decimal) (negative : Bool) :
    d.toBinary64 negative = .ofUnits negative d.units := by
  obtain ⟨n, e⟩ := d
  unfold toBinary64
  dsimp only
  split
  · next h => rw [units_eq_zero e h]
  · next h =>
    split
    · next hlarge =>
      obtain ⟨k, rfl⟩ := Int.eq_ofNat_of_zero_le hlarge.1
      exact (Binary64.ofUnits_of_le (unitBound_le_units k (by omega) (by omega))).symm
    · rfl

end Decimal

end Governance.Number
