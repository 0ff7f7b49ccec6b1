import AlloraSdk.Source.TxManager.Offers
import AlloraSdk.Source.Utils.Format

/-!
# Conversion between ALLO and uALLO

Scaling by 10^18 happens in a context of 28 digits. It is exact for amounts of at
most 28 significant digits; a longer one is rounded before it is truncated, and
keeps its whole uALLO only where the rounding does not reach them.
-/

namespace AlloraSdk.Guarantees
open AlloraSdk.Source.TxManager AlloraSdk.Source.Utils

/-- The whole uALLO of an amount in ALLO survive the context: in range, and not
reached by the rounding at the 28th digit. -/
def KeepsUnits (d : Decimal) : Prop :=
  d.coefficient = 0 ∨ numDigits d.coefficient + d.exponent ≤ 999982 ∧
    SurvivesRounding (d.magnitude * 10 ^ 18) (max (numDigits d.coefficient + d.exponent - 10) (-1000026))

/-- The amount in uALLO, before it is rounded to the context. -/
def scaled (d : Decimal) : Decimal := ⟨d.negative, d.coefficient * 10 ^ 18, d.exponent⟩

section Scaling

variable {d : Decimal}

theorem tenTo_eighteen : tenTo 18 = .ok ⟨false, 10 ^ 18, 0⟩ := by decide +kernel

theorem mul_scale : d.mul defaultContext ⟨false, 10 ^ 18, 0⟩ = (scaled d).fix defaultContext := by
  simp [Decimal.mul, scaled]

theorem scaled_magnitude : (scaled d).magnitude = d.magnitude * 10 ^ 18 := by
  simp only [Decimal.magnitude, scaled]
  push_cast
  ring

theorem scaled_digits (nonzero : d.coefficient ≠ 0) :
    numDigits (scaled d).coefficient = numDigits d.coefficient + 18 :=
  numDigits_shift nonzero 18

/-- Truncation of the rational is truncation of the decimal. -/
theorem truncate_value (d : Decimal) : truncate d.value = d.truncate := by
  have nonneg : 0 ≤ d.magnitude := mul_nonneg (Nat.cast_nonneg _) (zpow_pos (by norm_num) _).le
  have whole : truncate d.magnitude = d.whole := by rw [truncate_of_nonneg nonneg, Decimal.whole_eq_floor]
  rw [Decimal.truncate_eq_whole, Decimal.value]
  split
  · rename_i negative
    rw [truncate_neg, whole, Source.Utils.signed, if_pos negative]
  · rename_i positive
    rw [whole, Source.Utils.signed, if_neg positive]

theorem scaled_value : (scaled d).value = d.value * 10 ^ 18 := by
  unfold Decimal.value
  rw [scaled_magnitude]
  change (if d.negative then _ else _) = _
  split <;> ring

theorem fix_zero {zero : Decimal} (none : zero.coefficient = 0) :
    (zero.fix defaultContext).map Decimal.truncate = .ok zero.truncate := by
  unfold Decimal.fix
  rw [if_pos none]
  change Except.ok (Decimal.truncate _) = _
  rw [Decimal.truncate_eq_whole, Decimal.truncate_eq_whole]
  simp [Decimal.whole, none]

/-- Where the product is in range, and the place of its last digit. -/
theorem scaled_place (nonzero : d.coefficient ≠ 0) :
    (numDigits (scaled d).coefficient + (scaled d).exponent - defaultContext.prec ≤ defaultContext.etop ↔
      numDigits d.coefficient + d.exponent ≤ 999982) ∧
    (scaled d).lastPlace defaultContext = max (numDigits d.coefficient + d.exponent - 10) (-1000026) := by
  have top : defaultContext.etop = 999972 := rfl
  have tiny : defaultContext.etiny = -1000026 := rfl
  have prec : (defaultContext.prec : ℤ) = 28 := rfl
  have exponent : (scaled d).exponent = d.exponent := rfl
  unfold Decimal.lastPlace
  rw [scaled_digits nonzero, top, tiny, prec, exponent]
  push_cast
  constructor
  · omega
  · congr 1
    omega

theorem alloToUallo_scaled {allo : DecInput} {scale : Decimal} (amount : alloDecimal allo = .ok (.finite d))
    (ten : tenTo 18 = .ok scale) : alloToUallo allo = (d.mul defaultContext scale).map Decimal.truncate := by
  unfold alloToUallo
  rw [amount, ten]
  simp only [bind, Except.bind]
  cases d.mul defaultContext scale <;> rfl

theorem alloToUallo_finite {allo : DecInput} (amount : alloDecimal allo = .ok (.finite d)) :
    alloToUallo allo = ((scaled d).fix defaultContext).map Decimal.truncate := by
  rw [alloToUallo_scaled amount tenTo_eighteen, mul_scale]

theorem alloToUallo_iff {allo : DecInput} (amount : alloDecimal allo = .ok (.finite d)) :
    alloToUallo allo = .ok (truncate (d.value * 10 ^ 18)) ↔ KeepsUnits d := by
  rw [alloToUallo_finite amount, ← scaled_value, truncate_value]
  by_cases zero : d.coefficient = 0
  · exact iff_of_true (fix_zero (by simp [scaled, zero])) (.inl zero)
  · have nonzero : (scaled d).coefficient ≠ 0 := by simp [scaled, zero]
    obtain ⟨range, place⟩ := scaled_place zero
    rw [Decimal.fix_truncate_iff (by decide) (by decide) (by decide) nonzero, range, place, scaled_magnitude]
    exact (or_iff_right zero).symm

end Scaling

/-! ## The round trip -/

section RoundTrip

variable {n : ℕ}

/-- At most 28 digits of an amount are not trailing zeros. -/
def FitsContext (n : ℕ) : Prop := 10 ^ (numDigits n - 28) ∣ n

theorem fitsContext_of_whole {d : Decimal} (digits : numDigits d.coefficient ≤ 28) : FitsContext d.whole := by
  have bound := (numDigits_le_iff (by decide : 0 < 28)).mp digits
  have short : ∀ {m : ℕ}, m < 10 ^ 28 → FitsContext m := by
    intro m below
    have := (numDigits_le_iff (by decide : 0 < 28)).mpr below
    rw [FitsContext, show numDigits m - 28 = 0 by omega, Nat.pow_zero]
    exact Nat.one_dvd m
  unfold Decimal.whole
  split
  · by_cases zero : d.coefficient = 0
    · rw [zero, Nat.zero_mul]
      exact short (by positivity)
    · rw [FitsContext, numDigits_shift zero]
      exact Dvd.dvd.mul_left (Nat.pow_dvd_pow 10 (by omega)) _
  · exact short ((Nat.div_le_self _ _).trans_lt bound)

/-- Such an amount is a multiple of its 28th place. -/
theorem FitsContext.multiple (fits : FitsContext n) :
    ∃ t : ℤ, (n : ℚ) = t * 10 ^ ((numDigits n : ℤ) - 28) := by
  have ten : (10 : ℚ) ≠ 0 := by norm_num
  rcases Nat.le_total (numDigits n) 28 with short | long
  · refine ⟨n * 10 ^ (28 - numDigits n), ?_⟩
    push_cast
    rw [mul_assoc, ← zpow_natCast, ← zpow_add₀ ten, Nat.cast_sub short]
    simp
  · obtain ⟨t, same⟩ := fits
    refine ⟨t, ?_⟩
    rw [show (numDigits n : ℤ) - 28 = ((numDigits n - 28 : ℕ) : ℤ) by omega, zpow_natCast]
    conv_lhs => rw [same]
    push_cast
    ring

theorem survives_multiple {y : ℚ} {unit t : ℤ} (multiple : y = t * 10 ^ unit) : SurvivesRounding y unit := by
  have place : (10 : ℚ) ^ unit ≠ 0 := zpow_ne_zero _ (by norm_num)
  refine survivesRounding_iff.mp ?_
  rw [multiple, mul_div_cancel_right₀ _ place, Decimal.halfEven_intCast]

theorem ualloToAllo_of {uallo : ℤ} {decimals : ℕ} {amount divisor : Decimal} (read : decimalOfInt uallo = .ok amount)
    (ten : tenTo decimals = .ok divisor) : ualloToAllo uallo decimals = amount.div defaultContext divisor := by
  unfold ualloToAllo
  rw [read, ten]
  rfl

theorem decimalOfInt_natCast (short : numDigits n ≤ maxStrDigits) : decimalOfInt n = .ok ⟨false, n, 0⟩ := by
  unfold decimalOfInt
  rw [Int.natAbs_natCast, if_neg (not_lt.mpr short)]
  simp

theorem decimalOfInt_short {amount : Decimal} (read : decimalOfInt n = .ok amount) : numDigits n ≤ maxStrDigits := by
  unfold decimalOfInt at read
  rw [Int.natAbs_natCast] at read
  split at read
  · cases read
  · rename_i short
    exact not_lt.mp short

theorem ualloToAllo_short {allo : Decimal} (divided : ualloToAllo n 18 = .ok allo) : numDigits n ≤ maxStrDigits := by
  unfold ualloToAllo at divided
  cases read : decimalOfInt n with
  | error e =>
    rw [read] at divided
    cases divided
  | ok amount => exact decimalOfInt_short read

/-- Whatever comes back from an amount in ALLO has 28 digits. -/
theorem alloToUallo_fits {allo : Decimal} (back : alloToUallo (.decimal (.finite allo)) = .ok (n : ℤ)) :
    FitsContext n := by
  rw [alloToUallo_finite rfl] at back
  cases fixed : (scaled allo).fix defaultContext with
  | error e =>
    rw [fixed] at back
    cases back
  | ok uallo =>
    rw [fixed] at back
    have truncated : uallo.truncate = n := Except.ok.inj back
    have whole : uallo.whole = n := by
      rw [Decimal.truncate_eq_whole] at truncated
      unfold Source.Utils.signed at truncated
      split at truncated <;> omega
    rw [← whole]
    exact fitsContext_of_whole (Decimal.fix_digits (by decide) fixed)

/-- The place of the first digit of the exact quotient. -/
theorem quotient_firstPlace {allo : Decimal} (nonzero : n ≠ 0) (magnitude : allo.magnitude = n / 10 ^ 18) :
    allo.coefficient ≠ 0 ∧ numDigits allo.coefficient + allo.exponent = numDigits n - 18 := by
  have ten : (10 : ℚ) ≠ 0 := by norm_num
  have scale : (10 : ℚ) ^ (18 : ℤ) = 10 ^ 18 := by norm_cast
  have present : allo.coefficient ≠ 0 := by
    intro zero
    rw [Decimal.magnitude, zero, Nat.cast_zero, zero_mul] at magnitude
    have : (n : ℚ) / 10 ^ 18 ≠ 0 := div_ne_zero (Nat.cast_ne_zero.mpr nonzero) (pow_ne_zero _ ten)
    exact this magnitude.symm
  have digits := numDigits_pos n
  refine ⟨present, Decimal.firstPlace_eq present ?_ ?_⟩
  · have least : ((10 ^ (numDigits n - 1) : ℕ) : ℚ) ≤ n := Nat.cast_le.mpr (pow_le_of_ne_zero nonzero)
    rw [magnitude, le_div_iff₀ (by positivity), ← scale, ← zpow_add₀ ten]
    rw [show (numDigits n : ℤ) - 18 - 1 + 18 = ((numDigits n - 1 : ℕ) : ℤ) by omega, zpow_natCast]
    exact_mod_cast least
  · have below : (n : ℚ) < ((10 ^ numDigits n : ℕ) : ℚ) := Nat.cast_lt.mpr (lt_pow_numDigits n)
    rw [magnitude, div_lt_iff₀ (by positivity), ← scale, ← zpow_add₀ ten]
    rw [show (numDigits n : ℤ) - 18 + 18 = numDigits n by omega, zpow_natCast]
    exact_mod_cast below

/-- The division comes out even within two digits more than the context has. -/
theorem divisor_dvd (fits : FitsContext n) :
    10 ^ 18 * 10 ^ (numDigits n - 48) ∣ n * 10 ^ (48 - numDigits n) := by
  rw [← Nat.pow_add]
  have enough : 18 + (numDigits n - 48) ≤ numDigits n - 28 + (48 - numDigits n) := by omega
  refine (Nat.pow_dvd_pow 10 enough).trans ?_
  rw [Nat.pow_add]
  exact Nat.mul_dvd_mul_right fits _

/-- The quotient of the scaled integers, at its place. -/
theorem quotient_value {e : ℤ} (fits : FitsContext n) (place : e = numDigits n - 48) :
    ((n * 10 ^ (48 - numDigits n) / (10 ^ 18 * 10 ^ (numDigits n - 48)) : ℕ) : ℚ) * 10 ^ e = n / 10 ^ 18 := by
  have ten : (10 : ℚ) ≠ 0 := by norm_num
  generalize quotient : n * 10 ^ (48 - numDigits n) / (10 ^ 18 * 10 ^ (numDigits n - 48)) = q
  have product : q * (10 ^ 18 * 10 ^ (numDigits n - 48)) = n * 10 ^ (48 - numDigits n) := by
    rw [← quotient, Nat.div_mul_cancel (divisor_dvd fits)]
  have product' : (q : ℚ) * (10 ^ 18 * 10 ^ (numDigits n - 48)) = n * 10 ^ (48 - numDigits n) := by
    exact_mod_cast product
  have shifted : (10 : ℚ) ^ e * 10 ^ (48 - numDigits n) = 10 ^ (numDigits n - 48) := by
    rw [← zpow_natCast, ← zpow_natCast, ← zpow_add₀ ten]
    congr 1
    omega
  have pow : (10 : ℚ) ^ (48 - numDigits n) ≠ 0 := pow_ne_zero _ ten
  rw [eq_div_iff (pow_ne_zero _ ten)]
  refine mul_right_cancel₀ pow ?_
  rw [← product', ← shifted]
  ring

/-- The exact quotient by 10^18 is what the division returns. -/
theorem div_exact (nonzero : n ≠ 0) (fits : FitsContext n) (short : numDigits n ≤ maxStrDigits) :
    ∃ allo, Decimal.div defaultContext ⟨false, n, 0⟩ ⟨false, 10 ^ 18, 0⟩ = .ok allo ∧
      allo.negative = false ∧ allo.magnitude = n / 10 ^ 18 := by
  have ten : (10 : ℚ) ≠ 0 := by norm_num
  have digits : numDigits (10 ^ 18) = 19 := by decide +kernel
  have limit : maxStrDigits = 4300 := rfl
  have prec : (defaultContext.prec : ℤ) = 28 := rfl
  have top : defaultContext.etop = 999972 := rfl
  have tiny : defaultContext.etiny = -1000026 := rfl
  have positive := numDigits_pos n
  have up : ((numDigits (10 ^ 18) : ℤ) - numDigits n + defaultContext.prec + 1).toNat = 48 - numDigits n := by
    rw [digits, prec]
    omega
  have down : (-((numDigits (10 ^ 18) : ℤ) - numDigits n + defaultContext.prec + 1)).toNat = numDigits n - 48 := by
    rw [digits, prec]
    omega
  unfold Decimal.div
  dsimp only
  rw [if_neg (by positivity), if_neg nonzero, up, down, if_neg (not_not.mpr (Nat.mod_eq_zero_of_dvd (divisor_dvd fits)))]
  have place : (0 : ℤ) - 0 - ((numDigits (10 ^ 18) : ℤ) - numDigits n + defaultContext.prec + 1) =
      numDigits n - 48 := by
    rw [digits, prec]
    omega
  have exact_quotient := quotient_value fits place
  generalize n * 10 ^ (48 - numDigits n) / (10 ^ 18 * 10 ^ (numDigits n - 48)) = q at exact_quotient ⊢
  generalize (0 : ℤ) - 0 - ((numDigits (10 ^ 18) : ℤ) - numDigits n + defaultContext.prec + 1) = e
    at exact_quotient ⊢
  have dropped := Decimal.dropZeros_magnitude (48 - numDigits n) q e
  rw [exact_quotient] at dropped
  generalize Decimal.dropZeros (48 - numDigits n) q e = zeros at dropped ⊢
  obtain ⟨coefficient, exponent⟩ := zeros
  have magnitude : (⟨false, coefficient, exponent⟩ : Decimal).magnitude = n / 10 ^ 18 := dropped
  obtain ⟨present, first⟩ := quotient_firstPlace nonzero magnitude
  have last : (⟨false, coefficient, exponent⟩ : Decimal).lastPlace defaultContext = numDigits n - 46 := by
    unfold Decimal.lastPlace
    rw [first, prec, tiny]
    omega
  obtain ⟨t, multiple⟩ := fits.multiple
  have kept : (⟨false, coefficient, exponent⟩ : Decimal).magnitude =
      t * 10 ^ (⟨false, coefficient, exponent⟩ : Decimal).lastPlace defaultContext := by
    rw [magnitude, last, multiple, div_eq_iff (pow_ne_zero _ ten), mul_assoc, ← zpow_natCast, ← zpow_add₀ ten]
    congr 2
    omega
  obtain ⟨allo, fixed, sign, same⟩ :=
    Decimal.fix_exact (by decide) present (by rw [first, prec, top]; omega) (by rw [last, top]; omega) kept
  exact ⟨allo, fixed, sign, same.trans magnitude⟩

/-- Dividing by 10^18 leaves the whole amount. -/
theorem keepsUnits_of_quotient {allo : Decimal} (nonzero : n ≠ 0) (fits : FitsContext n)
    (short : numDigits n ≤ maxStrDigits) (magnitude : allo.magnitude = n / 10 ^ 18) : KeepsUnits allo := by
  have limit : maxStrDigits = 4300 := rfl
  obtain ⟨-, first⟩ := quotient_firstPlace nonzero magnitude
  have place : max ((numDigits n : ℤ) - 18 - 10) (-1000026) = numDigits n - 28 := by omega
  unfold KeepsUnits
  rw [first, place, magnitude, div_mul_cancel₀ _ (by norm_num)]
  obtain ⟨t, multiple⟩ := fits.multiple
  exact .inr ⟨by omega, survives_multiple multiple⟩

/-- An amount given in uALLO, after it was converted to ALLO and back. -/
def thereAndBack (uallo : ℤ) : Except PyException ℤ := do
  let allo ← ualloToAllo uallo 18
  alloToUallo (.decimal (.finite allo))

theorem thereAndBack_of {uallo : ℤ} {allo : Decimal} (divided : ualloToAllo uallo 18 = .ok allo) :
    thereAndBack uallo = alloToUallo (.decimal (.finite allo)) := by
  unfold thereAndBack
  simp only [divided, bind, Except.bind]

theorem thereAndBack_zero : thereAndBack 0 = .ok 0 := by decide +kernel

theorem thereAndBack_fits (same : thereAndBack n = .ok (n : ℤ)) : FitsContext n ∧ numDigits n ≤ maxStrDigits := by
  cases divided : ualloToAllo n 18 with
  | error e =>
    unfold thereAndBack at same
    rw [divided] at same
    cases same
  | ok allo =>
    rw [thereAndBack_of divided] at same
    exact ⟨alloToUallo_fits same, ualloToAllo_short divided⟩

theorem truncate_natCast (n : ℕ) : truncate (n : ℚ) = n := by
  rw [truncate_of_nonneg (Nat.cast_nonneg n)]
  exact_mod_cast Int.floor_natCast n

theorem thereAndBack_exact (nonzero : n ≠ 0) (fits : FitsContext n) (short : numDigits n ≤ maxStrDigits) :
    thereAndBack n = .ok (n : ℤ) := by
  obtain ⟨allo, divided, sign, magnitude⟩ := div_exact nonzero fits short
  have converted : ualloToAllo n 18 = .ok allo := by
    rw [ualloToAllo_of (decimalOfInt_natCast short) tenTo_eighteen, divided]
  have value : allo.value * 10 ^ 18 = n := by
    rw [Decimal.value, sign, if_neg Bool.false_ne_true, magnitude]
    exact div_mul_cancel₀ _ (by norm_num)
  have amount : alloDecimal (.decimal (.finite allo)) = .ok (.finite allo) := rfl
  have back := (alloToUallo_iff amount).mpr (keepsUnits_of_quotient nonzero fits short magnitude)
  rw [thereAndBack_of converted, back, value, truncate_natCast]

theorem thereAndBack_iff (n : ℕ) : thereAndBack n = .ok (n : ℤ) ↔ FitsContext n ∧ numDigits n ≤ maxStrDigits := by
  refine ⟨thereAndBack_fits, ?_⟩
  rintro ⟨fits, short⟩
  by_cases zero : n = 0
  · subst zero
    exact thereAndBack_zero
  · exact thereAndBack_exact zero fits short

end RoundTrip

theorem value_of_units {x : Decimal} (units : x.exponent = -18) :
    x.value * 10 ^ 18 = Source.Utils.signed x.negative x.coefficient := by
  have scale : (10 : ℚ) ^ (-18 : ℤ) * 10 ^ 18 = 1 := by norm_num
  unfold Decimal.value Decimal.magnitude Source.Utils.signed
  rw [units]
  split
  · push_cast
    rw [neg_mul, mul_assoc, scale, mul_one]
  · push_cast
    rw [mul_assoc, scale, mul_one]

/-- An amount within the digits and the range of the context keeps its units. -/
theorem keepsUnits_of_digits {x : Decimal} (digits : numDigits x.coefficient ≤ 28)
    (range : numDigits x.coefficient + x.exponent ≤ 999982) (normal : -1000044 ≤ x.exponent) : KeepsUnits x := by
  have ten : (10 : ℚ) ≠ 0 := by norm_num
  refine .inr ⟨range, ?_⟩
  generalize place : max ((numDigits x.coefficient : ℤ) + x.exponent - 10) (-1000026) = unit
  obtain ⟨k, above⟩ : ∃ k : ℕ, x.exponent + 18 = k + unit := ⟨(x.exponent + 18 - unit).toNat, by omega⟩
  refine survives_multiple (t := x.coefficient * 10 ^ k) ?_
  have scale : (10 : ℚ) ^ x.exponent * 10 ^ 18 = 10 ^ k * 10 ^ unit := by
    rw [← zpow_natCast, ← zpow_natCast, ← zpow_add₀ ten, ← zpow_add₀ ten, ← above]
    norm_num
  push_cast
  rw [Decimal.magnitude, mul_assoc, scale, mul_assoc]

/-- Scaling is exact for the amounts that the 28 digits of the context hold, and
for a longer one where rounding leaves its whole uALLO alone. -/
theorem conversion_exact_iff (n : ℕ) (x : Decimal) :
    (thereAndBack n = .ok (n : ℤ) ↔ FitsContext n ∧ numDigits n ≤ maxStrDigits) ∧
      (alloToUallo (.decimal (.finite x)) = .ok (truncate (x.value * 10 ^ 18)) ↔ KeepsUnits x) :=
  ⟨thereAndBack_iff n, alloToUallo_iff rfl⟩

/-- Ten billion ALLO and one uALLO. -/
theorem conversion_drops_a_unit :
    thereAndBack (10 ^ 28 + 1) = .ok (10 ^ 28) ∧ thereAndBack (10 ^ 28 + 1) ≠ .ok (10 ^ 28 + 1) ∧
      alloToUallo (.decimal (.finite ⟨false, 10 ^ 28 + 1, -18⟩)) = .ok (10 ^ 28) ∧
      alloToUallo (.decimal (.finite ⟨false, 10 ^ 28 + 1, -18⟩)) ≠
        .ok (truncate ((⟨false, 10 ^ 28 + 1, -18⟩ : Decimal).value * 10 ^ 18)) := by
  have wanted : truncate ((⟨false, 10 ^ 28 + 1, -18⟩ : Decimal).value * 10 ^ 18) = 10 ^ 28 + 1 := by
    rw [value_of_units rfl]
    exact truncate_natCast (10 ^ 28 + 1)
  rw [wanted]
  decide +kernel

end AlloraSdk.Guarantees
