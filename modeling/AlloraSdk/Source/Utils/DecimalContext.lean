import Mathlib.Data.Rat.Floor
import Mathlib.Tactic.Linarith
import Mathlib.Tactic.FieldSimp
import AlloraSdk.Source.Utils.DecCanonical

/-!
# Arithmetic in a decimal context

Python's `decimal` on finite operands: a result that is not exact within the
precision of the context is rounded half-even (`Decimal.fix`), and one above the
largest exponent raises Overflow, which the default context traps.
-/

namespace AlloraSdk.Source.Utils
open AlloraSdk.Source.TxManager

structure Context where
  prec : ℕ
  emin : ℤ
  emax : ℤ

/-- `decimal.DefaultContext`. -/
def defaultContext : Context := ⟨28, -999999, 999999⟩

namespace Context

def etiny (context : Context) : ℤ := context.emin - context.prec + 1

def etop (context : Context) : ℤ := context.emax - context.prec + 1

end Context

/-- `n / 10 ^ k`, rounded to the nearest, a tie to the even one. -/
def roundHalfEven (n k : ℕ) : ℕ :=
  let quotient := n / 10 ^ k
  let remainder := n % 10 ^ k
  if 2 * remainder < 10 ^ k ∨ 2 * remainder = 10 ^ k ∧ quotient % 2 = 0 then quotient else quotient + 1

def decimalOverflow : PyException := .other "[<class 'decimal.Overflow'>]"

namespace Decimal

/-- The place of the last digit that the context keeps. -/
def lastPlace (context : Context) (d : Decimal) : ℤ :=
  max (numDigits d.coefficient + d.exponent - context.prec) context.etiny

/-- `Decimal._fix`: round to the context. -/
def fix (context : Context) (d : Decimal) : Except PyException Decimal :=
  if d.coefficient = 0 then .ok { d with exponent := min (max d.exponent context.etiny) context.emax }
  else
    if context.etop < numDigits d.coefficient + d.exponent - context.prec then .error decimalOverflow
    else
      let expMin := d.lastPlace context
      if d.exponent < expMin then
        let coefficient := roundHalfEven d.coefficient (expMin - d.exponent).toNat
        if context.prec < numDigits coefficient then
          if context.etop < expMin + 1 then .error decimalOverflow
          else .ok ⟨d.negative, coefficient / 10, expMin + 1⟩
        else .ok ⟨d.negative, coefficient, expMin⟩
      else .ok d

def mul (context : Context) (x y : Decimal) : Except PyException Decimal :=
  fix context ⟨x.negative ^^ y.negative, x.coefficient * y.coefficient, x.exponent + y.exponent⟩

/-- `x ** n`. -/
def pow (context : Context) (x : Decimal) (n : ℕ) : Except PyException Decimal :=
  fix context ⟨x.negative && n % 2 = 1, x.coefficient ^ n, x.exponent * n⟩

/-- Trailing zeros are dropped while `steps` allow. -/
def dropZeros : ℕ → ℕ → ℤ → ℕ × ℤ
  | 0, coefficient, exponent => (coefficient, exponent)
  | steps + 1, coefficient, exponent =>
    if coefficient % 10 = 0 then dropZeros steps (coefficient / 10) (exponent + 1) else (coefficient, exponent)

/-- `x / y`: two digits more than the precision and a sticky last one, or the
exact quotient as close to the exponent of the operands as it gets. -/
def div (context : Context) (x y : Decimal) : Except PyException Decimal :=
  let negative := x.negative ^^ y.negative
  let ideal := x.exponent - y.exponent
  if y.coefficient = 0 then .error (.other "[<class 'decimal.DivisionByZero'>]")
  else if x.coefficient = 0 then fix context ⟨negative, 0, ideal⟩
  else
    let shift : ℤ := numDigits y.coefficient - numDigits x.coefficient + context.prec + 1
    let dividend := x.coefficient * 10 ^ shift.toNat
    let divisor := y.coefficient * 10 ^ (-shift).toNat
    let quotient := dividend / divisor
    if dividend % divisor ≠ 0 then
      fix context ⟨negative, if quotient % 5 = 0 then quotient + 1 else quotient, ideal - shift⟩
    else
      let (coefficient, exponent) := dropZeros shift.toNat quotient (ideal - shift)
      fix context ⟨negative, coefficient, exponent⟩

/-- The rational that a decimal stands for, without its sign; and with it. -/
def magnitude (d : Decimal) : ℚ := d.coefficient * 10 ^ d.exponent

def value (d : Decimal) : ℚ := if d.negative then -d.magnitude else d.magnitude

end Decimal

/-! ## Digits -/

theorem numDigits_pos (n : ℕ) : 0 < numDigits n := Nat.length_toDigits_pos

theorem numDigits_le_iff {n k : ℕ} (pos : 0 < k) : numDigits n ≤ k ↔ n < 10 ^ k :=
  Nat.length_toDigits_le_iff (by decide) pos

theorem lt_pow_numDigits (n : ℕ) : n < 10 ^ numDigits n := (numDigits_le_iff (numDigits_pos n)).mp (le_refl _)

theorem pow_le_of_ne_zero {n : ℕ} (nonzero : n ≠ 0) : 10 ^ (numDigits n - 1) ≤ n := by
  rcases Nat.eq_zero_or_pos (numDigits n - 1) with single | more
  · rw [single]
    exact Nat.one_le_iff_ne_zero.mpr nonzero
  · by_contra below
    have := (numDigits_le_iff more).mpr (not_le.mp below)
    omega

/-- The number of digits is known from the powers of ten around a number. -/
theorem numDigits_eq {n k : ℕ} (above : 10 ^ k ≤ n) (below : n < 10 ^ (k + 1)) : numDigits n = k + 1 := by
  have upper := (numDigits_le_iff (Nat.succ_pos k)).mpr below
  have lower : ¬ numDigits n ≤ k := by
    intro fewer
    have pos : 0 < k := (numDigits_pos n).trans_le fewer
    exact absurd ((numDigits_le_iff pos).mp fewer) (not_lt.mpr above)
  omega

theorem numDigits_shift {n : ℕ} (nonzero : n ≠ 0) (k : ℕ) : numDigits (n * 10 ^ k) = numDigits n + k := by
  have pos := numDigits_pos n
  have digits : numDigits n - 1 + 1 = numDigits n := by omega
  have low := Nat.mul_le_mul_right (10 ^ k) (pow_le_of_ne_zero nonzero)
  have high := Nat.mul_lt_mul_of_pos_right (lt_pow_numDigits n) (Nat.pow_pos (by decide : 0 < 10) : 0 < 10 ^ k)
  rw [← Nat.pow_add] at low high
  have shifted := numDigits_eq low (by rw [show numDigits n - 1 + k + 1 = numDigits n + k by omega]; exact high)
  rw [shifted]
  omega

/-! ## Half-even rounding -/

/-- The nearest whole number, of two the even one. -/
def halfEven (z : ℚ) : ℤ :=
  if z < ⌊z⌋ + 1 / 2 ∨ z = ⌊z⌋ + 1 / 2 ∧ ⌊z⌋ % 2 = 0 then ⌊z⌋ else ⌊z⌋ + 1

theorem roundHalfEven_eq (n k : ℕ) : (roundHalfEven n k : ℤ) = halfEven (n / 10 ^ k) := by
  have floor : ⌊((n : ℚ) / 10 ^ k)⌋ = (n / 10 ^ k : ℕ) := by
    have := Rat.floor_intCast_div_natCast (n : ℤ) (10 ^ k)
    push_cast at this ⊢
    exact this
  have pow : (0 : ℚ) < 10 ^ k := by positivity
  have parts : (n : ℚ) = 10 ^ k * (n / 10 ^ k : ℕ) + (n % 10 ^ k : ℕ) := by
    exact_mod_cast (Nat.div_add_mod n (10 ^ k)).symm
  have quotient : (n : ℚ) / 10 ^ k = (n / 10 ^ k : ℕ) + ((n % 10 ^ k : ℕ) : ℚ) / 10 ^ k := by
    rw [div_eq_iff pow.ne', add_mul, div_mul_cancel₀ _ pow.ne', mul_comm]
    exact parts
  have below : (n : ℚ) / 10 ^ k < (n / 10 ^ k : ℕ) + 1 / 2 ↔ 2 * (n % 10 ^ k) < 10 ^ k := by
    rw [quotient, add_lt_add_iff_left, div_lt_div_iff₀ pow two_pos, one_mul, mul_comm]
    exact_mod_cast Iff.rfl
  have tie : (n : ℚ) / 10 ^ k = (n / 10 ^ k : ℕ) + 1 / 2 ↔ 2 * (n % 10 ^ k) = 10 ^ k := by
    rw [quotient, add_right_inj, div_eq_div_iff pow.ne' two_ne_zero, one_mul, mul_comm]
    exact_mod_cast Iff.rfl
  have even : ((n / 10 ^ k : ℕ) : ℤ) % 2 = 0 ↔ n / 10 ^ k % 2 = 0 := by omega
  unfold roundHalfEven halfEven
  rw [floor]
  simp only [Int.cast_natCast, below, tie, even]
  split <;> push_cast <;> rfl

theorem halfEven_eq_or (z : ℚ) : halfEven z = ⌊z⌋ ∨ halfEven z = ⌊z⌋ + 1 := by
  unfold halfEven
  split
  · exact .inl rfl
  · exact .inr rfl

/-- A whole part survives rounding at the place `unit`: above 1 the place divides
it; else the fraction stays below the last half place before the next whole number. -/
def SurvivesRounding (y : ℚ) (unit : ℤ) : Prop :=
  if 0 < unit then (10 ^ unit.toNat : ℤ) ∣ ⌊y⌋
  else y < ⌊y⌋ + 1 - 10 ^ unit / 2 ∨ unit = 0 ∧ y = ⌊y⌋ + 1 / 2 ∧ ⌊y⌋ % 2 = 0

/-- Above 1, where the whole numbers in reach are the multiples of the place. -/
theorem survives_coarse {y : ℚ} {k : ℕ} (coarse : 0 < k) :
    halfEven (y / 10 ^ k) * 10 ^ k = ⌊y⌋ ↔ (10 ^ k : ℤ) ∣ ⌊y⌋ := by
  constructor
  · intro same
    exact ⟨halfEven (y / 10 ^ k), by rw [← same, mul_comm]⟩
  · rintro ⟨t, same⟩
    have pow : (0 : ℚ) < 10 ^ k := by positivity
    have ten : (10 : ℚ) ≤ 10 ^ k := by
      calc (10 : ℚ) = 10 ^ 1 := (pow_one _).symm
        _ ≤ 10 ^ k := pow_le_pow_right₀ (by norm_num) coarse
    have low : (t : ℚ) * 10 ^ k ≤ y := by
      have := Int.floor_le y
      rw [same] at this
      push_cast at this
      linarith
    have high : y < t * 10 ^ k + 1 := by
      have := Int.lt_floor_add_one y
      rw [same] at this
      push_cast at this
      linarith
    have lower : (t : ℚ) ≤ y / 10 ^ k := (le_div_iff₀ pow).mpr low
    have upper : y / 10 ^ k < t + 1 / 2 := by
      rw [div_lt_iff₀ pow]
      nlinarith
    have floor : ⌊y / 10 ^ k⌋ = t := Int.floor_eq_iff.mpr ⟨lower, by linarith⟩
    have rounded : halfEven (y / 10 ^ k) = t := by
      unfold halfEven
      rw [floor, if_pos (.inl upper)]
    rw [rounded, same, mul_comm]

theorem halfEven_eq_floor_iff {z : ℚ} :
    halfEven z = ⌊z⌋ ↔ z < ⌊z⌋ + 1 / 2 ∨ z = ⌊z⌋ + 1 / 2 ∧ ⌊z⌋ % 2 = 0 := by
  unfold halfEven
  split
  · rename_i down
    exact iff_of_true rfl down
  · rename_i up
    exact iff_of_false (by omega) up

theorem floor_scaled_bounds (y : ℚ) (k : ℕ) :
    ⌊y⌋ * 10 ^ k ≤ ⌊y * 10 ^ k⌋ ∧ ⌊y * 10 ^ k⌋ < (⌊y⌋ + 1) * 10 ^ k := by
  have pow : (0 : ℚ) < 10 ^ k := by positivity
  constructor
  · refine Int.le_floor.mpr ?_
    push_cast
    exact mul_le_mul_of_nonneg_right (Int.floor_le y) pow.le
  · refine Int.floor_lt.mpr ?_
    push_cast
    exact mul_lt_mul_of_pos_right (Int.lt_floor_add_one y) pow

/-- The rounded number leaves the whole part only for the next one. -/
theorem floor_halfEven_iff (y : ℚ) (k : ℕ) :
    ⌊(halfEven (y * 10 ^ k) : ℚ) / 10 ^ k⌋ = ⌊y⌋ ↔ halfEven (y * 10 ^ k) < (⌊y⌋ + 1) * 10 ^ k := by
  have pow : (0 : ℚ) < 10 ^ k := by positivity
  have first := (floor_scaled_bounds y k).1
  rw [Int.floor_eq_iff, le_div_iff₀ pow, div_lt_iff₀ pow]
  constructor
  · rintro ⟨-, upper⟩
    exact_mod_cast upper
  · intro upper
    refine ⟨?_, by exact_mod_cast upper⟩
    rcases halfEven_eq_or (y * 10 ^ k) with same | same <;> rw [same]
    · exact_mod_cast first
    · exact_mod_cast first.trans (Int.le_add_one (le_refl _))

/-- At 1 or below, where rounding may reach the next whole number. -/
theorem survives_fine {y : ℚ} (k : ℕ) :
    ⌊(halfEven (y * 10 ^ k) : ℚ) / 10 ^ k⌋ = ⌊y⌋ ↔
      y < ⌊y⌋ + 1 - 1 / 10 ^ k / 2 ∨ k = 0 ∧ y = ⌊y⌋ + 1 / 2 ∧ ⌊y⌋ % 2 = 0 := by
  have pow : (0 : ℚ) < 10 ^ k := by positivity
  have last := (floor_scaled_bounds y k).2
  have rounds := halfEven_eq_or (y * 10 ^ k)
  have down : halfEven (y * 10 ^ k) = ⌊y * 10 ^ k⌋ ↔ _ := halfEven_eq_floor_iff
  rw [floor_halfEven_iff]
  have above := Int.lt_floor_add_one (y * 10 ^ k)
  generalize ⌊y⌋ = m at last ⊢
  generalize ⌊y * 10 ^ k⌋ = f at last rounds down above
  have margin : y < m + 1 - 1 / 10 ^ k / 2 ↔ y * 10 ^ k < (m + 1) * 10 ^ k - 1 / 2 := by
    rw [← mul_lt_mul_iff_left₀ pow]
    have scaled : ((m : ℚ) + 1 - 1 / 10 ^ k / 2) * 10 ^ k = (m + 1) * 10 ^ k - 1 / 2 := by
      field_simp
    rw [scaled]
  rw [margin]
  by_cases edge : f = (m + 1) * 10 ^ k - 1
  · have edge' : (f : ℚ) = (m + 1) * 10 ^ k - 1 := by exact_mod_cast edge
    have half : ((m : ℚ) + 1) * 10 ^ k - 1 / 2 = f + 1 / 2 := by linarith
    have below : halfEven (y * 10 ^ k) < (m + 1) * 10 ^ k ↔ halfEven (y * 10 ^ k) = f := by omega
    rw [below, down, half]
    refine or_congr_right ⟨?_, ?_⟩
    · -- an even last digit before a whole number: there is no digit behind the point
      rintro ⟨tie, even⟩
      rcases Nat.eq_zero_or_pos k with rfl | more
      · rw [pow_zero, mul_one] at edge tie
        obtain rfl : f = m := by omega
        exact ⟨rfl, tie, even⟩
      · obtain ⟨j, rfl⟩ : ∃ j, k = j + 1 := ⟨k - 1, by omega⟩
        rw [pow_succ, ← mul_assoc] at edge
        omega
    · rintro ⟨rfl, tie, even⟩
      rw [pow_zero, mul_one] at edge ⊢
      obtain rfl : f = m := by omega
      exact ⟨tie, even⟩
  · have short : f + 1 < (m + 1) * 10 ^ k := by omega
    have short' : (f : ℚ) + 1 + 1 ≤ (m + 1) * 10 ^ k := by exact_mod_cast short
    exact iff_of_true (by omega) (.inl (by linarith))

theorem floor_mul_zpow (n : ℤ) (k : ℕ) : ⌊(n : ℚ) * 10 ^ k⌋ = n * 10 ^ k := by
  rw [Int.floor_eq_iff]
  push_cast
  constructor <;> linarith

theorem survivesRounding_iff {y : ℚ} {unit : ℤ} :
    ⌊(halfEven (y / 10 ^ unit) : ℚ) * 10 ^ unit⌋ = ⌊y⌋ ↔ SurvivesRounding y unit := by
  unfold SurvivesRounding
  split
  · rename_i coarse
    obtain ⟨k, rfl⟩ := Int.eq_ofNat_of_zero_le coarse.le
    rw [zpow_natCast, floor_mul_zpow, Int.toNat_natCast]
    exact survives_coarse (by exact_mod_cast coarse)
  · rename_i fine
    obtain ⟨k, rfl⟩ : ∃ k : ℕ, unit = -k := ⟨(-unit).toNat, by omega⟩
    rw [zpow_neg, zpow_natCast, div_inv_eq_mul, ← div_eq_mul_inv, survives_fine k]
    refine or_congr ?_ (and_congr_left fun _ => by omega)
    rw [one_div]

/-! ## Rounding to a context -/

namespace Decimal

variable {context : Context} {d d' : Decimal}

/-- Rounded to the precision of the context, a coefficient may reach the next power of ten. -/
theorem roundHalfEven_le {n k prec : ℕ} (kept : numDigits n ≤ prec + k) : roundHalfEven n k ≤ 10 ^ prec := by
  have below : n < 10 ^ prec * 10 ^ k := by
    rw [← Nat.pow_add]
    exact (lt_pow_numDigits n).trans_le (Nat.pow_le_pow_right (by decide) kept)
  have quotient : n / 10 ^ k < 10 ^ prec := Nat.div_lt_of_lt_mul (by rwa [Nat.mul_comm])
  unfold roundHalfEven
  dsimp only
  split <;> omega

theorem halfEven_intCast (n : ℤ) : halfEven n = n := by
  unfold halfEven
  rw [Int.floor_intCast, if_pos (.inl (by linarith))]

theorem magnitude_div {place : ℤ} (cut : d.exponent < place) :
    d.magnitude / 10 ^ place = d.coefficient / 10 ^ (place - d.exponent).toNat := by
  have ten : (10 : ℚ) ≠ 0 := by norm_num
  rw [magnitude, ← zpow_natCast, Int.toNat_of_nonneg (by omega), zpow_sub₀ ten]
  field_simp

/-- Rounding leaves the nearest multiple of the last place, with the same sign. -/
theorem fix_magnitude (precise : 0 < context.prec) (nonzero : d.coefficient ≠ 0) (fixed : d.fix context = .ok d') :
    d'.negative = d.negative ∧
      d'.magnitude = halfEven (d.magnitude / 10 ^ d.lastPlace context) * 10 ^ d.lastPlace context := by
  have ten : (10 : ℚ) ≠ 0 := by norm_num
  unfold fix at fixed
  rw [if_neg nonzero] at fixed
  dsimp only at fixed
  split at fixed
  · cases fixed
  have kept : numDigits d.coefficient + d.exponent - context.prec ≤ d.lastPlace context := le_max_left _ _
  generalize d.lastPlace context = place at fixed kept ⊢
  split at fixed
  · rename_i cut
    rw [magnitude_div cut, ← roundHalfEven_eq]
    split at fixed
    · -- the carry into one digit more
      rename_i carried
      split at fixed
      · cases fixed
      cases fixed
      have atMost : roundHalfEven d.coefficient (place - d.exponent).toNat ≤ 10 ^ context.prec :=
        roundHalfEven_le (by omega)
      have atLeast : 10 ^ context.prec ≤ roundHalfEven d.coefficient (place - d.exponent).toNat := by
        by_contra below
        exact absurd ((numDigits_le_iff precise).mpr (not_le.mp below)) (not_le.mpr carried)
      obtain ⟨j, same⟩ : ∃ j, context.prec = j + 1 := ⟨context.prec - 1, by omega⟩
      rw [le_antisymm atMost atLeast, same, Nat.pow_succ, Nat.mul_div_cancel _ (by decide)]
      refine ⟨rfl, ?_⟩
      simp only [magnitude]
      push_cast
      rw [zpow_add₀ ten, zpow_one]
      ring
    · cases fixed
      exact ⟨rfl, rfl⟩
  · rename_i whole
    cases fixed
    refine ⟨rfl, ?_⟩
    have scaled : d.magnitude / 10 ^ place = ((d.coefficient * 10 ^ (d.exponent - place).toNat : ℤ) : ℚ) := by
      push_cast
      rw [magnitude, ← zpow_natCast, Int.toNat_of_nonneg (by omega), zpow_sub₀ ten]
      field_simp
    rw [scaled, halfEven_intCast, ← scaled]
    field_simp

theorem fix_inRange (nonzero : d.coefficient ≠ 0) (fixed : d.fix context = .ok d') :
    numDigits d.coefficient + d.exponent - context.prec ≤ context.etop := by
  unfold fix at fixed
  rw [if_neg nonzero] at fixed
  split at fixed
  · cases fixed
  · rename_i inRange
    exact not_lt.mp inRange

/-- Nothing overflows unless the last digit is already at the top. -/
theorem fix_ok (precise : 0 < context.prec) (nonzero : d.coefficient ≠ 0)
    (inRange : numDigits d.coefficient + d.exponent - context.prec ≤ context.etop)
    (room : d.lastPlace context < context.etop ∨ halfEven (d.magnitude / 10 ^ d.lastPlace context) < 10 ^ context.prec) :
    ∃ d', d.fix context = .ok d' := by
  unfold fix
  rw [if_neg nonzero, if_neg (not_lt.mpr inRange)]
  dsimp only
  generalize d.lastPlace context = place at room ⊢
  split
  · rename_i cut
    rw [magnitude_div cut, ← roundHalfEven_eq] at room
    split
    · rename_i carried
      rcases room with below | short
      · rw [if_neg (by omega)]
        exact ⟨_, rfl⟩
      · have fits : numDigits (roundHalfEven d.coefficient (place - d.exponent).toNat) ≤ context.prec :=
          (numDigits_le_iff precise).mpr (by exact_mod_cast short)
        omega
    · exact ⟨_, rfl⟩
  · exact ⟨_, rfl⟩

/-- The whole part, without the sign. -/
def whole (d : Decimal) : ℕ :=
  if 0 ≤ d.exponent then d.coefficient * 10 ^ d.exponent.toNat else d.coefficient / 10 ^ (-d.exponent).toNat

theorem truncate_eq_whole (d : Decimal) : d.truncate = signed d.negative d.whole := rfl

theorem whole_eq_floor (d : Decimal) : (d.whole : ℤ) = ⌊d.magnitude⌋ := by
  unfold whole magnitude
  split
  · rename_i nonneg
    obtain ⟨k, same⟩ := Int.eq_ofNat_of_zero_le nonneg
    rw [same, Int.toNat_natCast, zpow_natCast]
    have := floor_mul_zpow (d.coefficient : ℤ) k
    push_cast at this ⊢
    exact this.symm
  · rename_i negative
    obtain ⟨k, same⟩ : ∃ k : ℕ, d.exponent = -k := ⟨(-d.exponent).toNat, by omega⟩
    rw [same, neg_neg, Int.toNat_natCast, zpow_neg, zpow_natCast, ← div_eq_mul_inv]
    have := Rat.floor_intCast_div_natCast (d.coefficient : ℤ) (10 ^ k)
    push_cast at this ⊢
    exact this.symm

theorem magnitude_lt (d : Decimal) : d.magnitude < 10 ^ (numDigits d.coefficient + d.exponent) := by
  have ten : (10 : ℚ) ≠ 0 := by norm_num
  have below : (d.coefficient : ℚ) < 10 ^ numDigits d.coefficient := by exact_mod_cast lt_pow_numDigits _
  rw [zpow_add₀ ten, zpow_natCast]
  exact mul_lt_mul_of_pos_right below (zpow_pos (by norm_num) _)

theorem signed_injective {negative : Bool} {n n' : ℕ} : signed negative n = signed negative n' ↔ n = n' := by
  cases negative <;> simp [signed]

/-- At the largest exponent, a whole part that survives keeps the coefficient within the digits. -/
theorem rounded_lt_of_survives (top : 0 < context.etop)
    (inRange : numDigits d.coefficient + d.exponent - context.prec ≤ context.etop)
    (survives : SurvivesRounding d.magnitude context.etop) :
    halfEven (d.magnitude / 10 ^ context.etop) < 10 ^ context.prec := by
  have ten : (10 : ℚ) ≠ 0 := by norm_num
  have floors := survivesRounding_iff.mpr survives
  obtain ⟨k, same⟩ := Int.eq_ofNat_of_zero_le top.le
  rw [same, zpow_natCast] at floors ⊢
  rw [floor_mul_zpow] at floors
  have bound : d.magnitude < 10 ^ context.prec * 10 ^ k := by
    refine d.magnitude_lt.trans_le ?_
    rw [← zpow_natCast, ← zpow_natCast, ← zpow_add₀ ten]
    exact zpow_le_zpow_right₀ (by norm_num) (by omega)
  have least := Int.floor_le d.magnitude
  rw [← floors] at least
  push_cast at least
  have pow : (0 : ℚ) < 10 ^ k := by positivity
  have short := lt_of_mul_lt_mul_right (least.trans_lt bound) pow.le
  exact_mod_cast short

/-- Rounding to the context does not change the whole part exactly when the number
is in range and its whole part survives at the last place. -/
theorem fix_truncate_iff (precise : 0 < context.prec) (tiny : context.etiny < context.etop)
    (top : 0 < context.etop) (nonzero : d.coefficient ≠ 0) :
    (d.fix context).map truncate = .ok d.truncate ↔
      numDigits d.coefficient + d.exponent - context.prec ≤ context.etop ∧
        SurvivesRounding d.magnitude (d.lastPlace context) := by
  constructor
  · intro same
    cases fixed : d.fix context with
    | error e =>
      rw [fixed] at same
      cases same
    | ok d' =>
      rw [fixed] at same
      obtain ⟨sign, rounded⟩ := fix_magnitude precise nonzero fixed
      have wholes := Except.ok.inj same
      rw [truncate_eq_whole, truncate_eq_whole, sign, signed_injective] at wholes
      refine ⟨fix_inRange nonzero fixed, survivesRounding_iff.mp ?_⟩
      rw [← rounded, ← whole_eq_floor, ← whole_eq_floor, wholes]
  · rintro ⟨inRange, survives⟩
    have floors := survivesRounding_iff.mpr survives
    have place : d.lastPlace context ≤ context.etop := max_le inRange tiny.le
    have room : d.lastPlace context < context.etop ∨
        halfEven (d.magnitude / 10 ^ d.lastPlace context) < 10 ^ context.prec := by
      rcases place.lt_or_eq with below | atTop
      · exact .inl below
      · rw [atTop] at survives ⊢
        exact .inr (rounded_lt_of_survives top inRange survives)
    obtain ⟨d', fixed⟩ := fix_ok precise nonzero inRange room
    obtain ⟨sign, rounded⟩ := fix_magnitude precise nonzero fixed
    rw [fixed]
    change Except.ok d'.truncate = _
    rw [truncate_eq_whole, truncate_eq_whole, sign, Except.ok.injEq, signed_injective]
    have same : (d'.whole : ℤ) = d.whole := by rw [whole_eq_floor, whole_eq_floor, rounded, floors]
    exact_mod_cast same

/-- A rounded coefficient is within the precision. -/
theorem fix_digits (precise : 0 < context.prec) (fixed : d.fix context = .ok d') :
    numDigits d'.coefficient ≤ context.prec := by
  unfold fix at fixed
  split at fixed
  · rename_i zero
    cases fixed
    rw [zero]
    exact (numDigits_le_iff precise).mpr (by positivity)
  split at fixed
  · cases fixed
  dsimp only at fixed
  have kept : numDigits d.coefficient + d.exponent - context.prec ≤ d.lastPlace context := le_max_left _ _
  generalize d.lastPlace context = place at fixed kept
  split at fixed
  · have atMost : roundHalfEven d.coefficient (place - d.exponent).toNat ≤ 10 ^ context.prec :=
      roundHalfEven_le (by omega)
    split at fixed
    · split at fixed
      · cases fixed
      cases fixed
      refine (numDigits_le_iff precise).mpr ?_
      have : 0 < 10 ^ context.prec := by positivity
      dsimp only
      omega
    · rename_i fits
      cases fixed
      exact not_lt.mp fits
  · cases fixed
    omega

/-- The place of the first digit is known from the magnitude. -/
theorem firstPlace_eq {p : ℤ} (nonzero : d.coefficient ≠ 0) (above : 10 ^ (p - 1) ≤ d.magnitude)
    (below : d.magnitude < 10 ^ p) : numDigits d.coefficient + d.exponent = p := by
  have ten : (1 : ℚ) < 10 := by norm_num
  have least : (10 : ℚ) ^ (numDigits d.coefficient + d.exponent - 1) ≤ d.magnitude := by
    have digits : ((numDigits d.coefficient - 1 : ℕ) : ℤ) = numDigits d.coefficient - 1 := by
      have := numDigits_pos d.coefficient
      omega
    rw [show numDigits d.coefficient + d.exponent - 1 = ((numDigits d.coefficient - 1 : ℕ) : ℤ) + d.exponent by
      omega, zpow_add₀ (by norm_num), zpow_natCast]
    refine mul_le_mul_of_nonneg_right ?_ (zpow_pos (by norm_num) _).le
    exact_mod_cast pow_le_of_ne_zero nonzero
  have first := (zpow_lt_zpow_iff_right₀ ten).mp (above.trans_lt d.magnitude_lt)
  have second := (zpow_lt_zpow_iff_right₀ ten).mp (least.trans_lt below)
  omega

/-- A multiple of the last place is kept as it is. -/
theorem fix_exact (precise : 0 < context.prec) (nonzero : d.coefficient ≠ 0) {t : ℤ}
    (inRange : numDigits d.coefficient + d.exponent - context.prec ≤ context.etop)
    (room : d.lastPlace context < context.etop) (multiple : d.magnitude = t * 10 ^ d.lastPlace context) :
    ∃ d', d.fix context = .ok d' ∧ d'.negative = d.negative ∧ d'.magnitude = d.magnitude := by
  obtain ⟨d', fixed⟩ := fix_ok precise nonzero inRange (.inl room)
  obtain ⟨sign, rounded⟩ := fix_magnitude precise nonzero fixed
  have place : (10 : ℚ) ^ d.lastPlace context ≠ 0 := zpow_ne_zero _ (by norm_num)
  refine ⟨d', fixed, sign, ?_⟩
  rw [rounded, multiple, mul_div_cancel_right₀ _ place, halfEven_intCast]

theorem dropZeros_magnitude (steps coefficient : ℕ) (exponent : ℤ) :
    ((dropZeros steps coefficient exponent).1 : ℚ) * 10 ^ (dropZeros steps coefficient exponent).2 =
      coefficient * 10 ^ exponent := by
  induction steps generalizing coefficient exponent with
  | zero => rfl
  | succ steps ih =>
    unfold dropZeros
    split
    · rename_i zero
      rw [ih, zpow_add₀ (by norm_num), zpow_one]
      have whole : ((coefficient / 10 : ℕ) : ℚ) * 10 = coefficient := by
        exact_mod_cast Nat.div_mul_cancel (Nat.dvd_of_mod_eq_zero zero)
      rw [mul_comm ((10 : ℚ) ^ exponent), ← mul_assoc, whole]
    · rfl

end Decimal

end AlloraSdk.Source.Utils
