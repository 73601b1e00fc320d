import Mathlib.Algebra.Order.Field.Power
import Mathlib.Algebra.Order.Field.Rat
import Mathlib.Tactic.Ring
import Mathlib.Tactic.NormNum
import Mathlib.Tactic.Positivity
import DiscoveryFiles.Number.Binary64

/-!
# Scaled integers

Numbers of the form `a * 2 ^ e` are compared exactly by bringing them to the smaller of their two
exponents, and a floating-point number is whole when the rational number that it stands for is.
-/

namespace DiscoveryFiles

/-- The rational number `a * 2 ^ e`. -/
def scaled (a e : ℤ) : ℚ := a * 2 ^ e

theorem scaled_zero_right (a : ℤ) : scaled a 0 = a := by
  simp [scaled]

/-- A scaled integer over a common smaller exponent. -/
theorem scaled_eq_mul {e low : ℤ} (a : ℤ) (low_le : low ≤ e) :
    scaled a e = ((a * twoTo (e - low).toNat : ℤ) : ℚ) * 2 ^ low := by
  have exponent_eq : e = ((e - low).toNat : ℤ) + low := by omega
  calc
    scaled a e = a * 2 ^ (((e - low).toNat : ℤ) + low) := by rw [scaled, ← exponent_eq]
    _ = ((a * twoTo (e - low).toNat : ℤ) : ℚ) * 2 ^ low := by
      rw [zpow_add₀ two_ne_zero, zpow_natCast]
      simp only [twoTo, Nat.pow_eq]
      push_cast
      ring

/-- Both sides of an exact comparison, over the smaller of the two exponents. -/
theorem scaled_pair (a m b n : ℤ) : ∃ unit : ℚ, 0 < unit ∧
    scaled a m = ((a * twoTo (m - n).toNat : ℤ) : ℚ) * unit ∧
    scaled b n = ((b * twoTo (n - m).toNat : ℤ) : ℚ) * unit := by
  rcases le_total m n with m_le | n_le
  · refine ⟨2 ^ m, by positivity, ?_, scaled_eq_mul b m_le⟩
    have none_left : (m - n).toNat = 0 := by omega
    simp [scaled, none_left, twoTo]
  · refine ⟨2 ^ n, by positivity, scaled_eq_mul a n_le, ?_⟩
    have none_left : (n - m).toNat = 0 := by omega
    simp [scaled, none_left, twoTo]

theorem compareScaled_eq_lt_iff (a m b n : ℤ) :
    compareScaled a m b n = .lt ↔ scaled a m < scaled b n := by
  obtain ⟨unit, unit_pos, left_eq, right_eq⟩ := scaled_pair a m b n
  rw [compareScaled, compare_lt_iff_lt, left_eq, right_eq, mul_lt_mul_iff_left₀ unit_pos]
  exact_mod_cast Iff.rfl

theorem compareScaled_eq_eq_iff (a m b n : ℤ) :
    compareScaled a m b n = .eq ↔ scaled a m = scaled b n := by
  obtain ⟨unit, unit_pos, left_eq, right_eq⟩ := scaled_pair a m b n
  rw [compareScaled, compare_eq_iff_eq, left_eq, right_eq, mul_left_inj' unit_pos.ne']
  exact_mod_cast Iff.rfl

/-- When a scaled integer is a whole number. -/
theorem scaled_eq_intCast_iff (a e n : ℤ) :
    scaled a e = n ↔ a * twoTo e.toNat = n * twoTo (-e).toNat := by
  rw [← scaled_zero_right n, ← compareScaled_eq_eq_iff, compareScaled, compare_eq_iff_eq,
    sub_zero, zero_sub]

namespace Binary64

private theorem dvd_signed_iff (divisor : ℕ) (negative : Bool) (significand : ℕ) :
    (divisor : ℤ) ∣ signed negative significand ↔ divisor ∣ significand := by
  cases negative <;> simp [signed, Int.natCast_dvd_natCast]

/-- A finite number is found to be whole exactly when its value is an integer. -/
theorem isWhole_finite_iff (negative : Bool) (significand : ℕ) (exponent : ℤ) :
    (finite negative significand exponent).isWhole = true ↔
      ∃ n : ℤ, scaled (signed negative significand) exponent = n := by
  simp only [scaled_eq_intCast_iff, isWhole, beq_iff_eq, ← Nat.dvd_iff_mod_eq_zero,
    ← dvd_signed_iff _ negative]
  rcases le_total 0 exponent with nonneg | nonpos
  · have no_fraction : (-exponent).toNat = 0 := by omega
    simp [no_fraction, twoTo]
  · have no_factor : exponent.toNat = 0 := by omega
    simp only [no_factor, twoTo, Nat.pow_eq, pow_zero, Nat.cast_one, mul_one]
    exact ⟨fun ⟨n, eq⟩ => ⟨n, by rw [eq, mul_comm]⟩, fun ⟨n, eq⟩ => ⟨n, by rw [eq, mul_comm]⟩⟩

end Binary64
end DiscoveryFiles
