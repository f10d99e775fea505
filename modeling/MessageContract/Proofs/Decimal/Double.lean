import Mathlib.Algebra.Order.Field.Rat
import Mathlib.Tactic.Linarith
import Mathlib.Tactic.Positivity
import Mathlib.Tactic.Ring
import MessageContract.Decimal.Double

/-!
# Doubles by their parts

The sign, the exponent field and the fraction field make up a double (`Double.ext_fields`), and so do
its sign, its significand and its exponent (`Double.ext_parts`). The numbers that round to a double
lie around its value, up to the midpoints to its neighbours (`Double.Rounds`), and no number lies
around two of them (`Double.rounds_unique`).
-/

namespace MessageContract.Double

/-! ## Fields -/

theorem fractionField_lt (d : Double) : d.fractionField < 2 ^ 52 :=
  Nat.mod_lt _ (Nat.two_pow_pos 52)

theorem negative_iff (d : Double) : d.negative = true ↔ 2 ^ 63 ≤ d.bits.toNat := by
  have hlt : d.bits.toNat < 2 ^ 64 := d.bits.toNat_lt
  have hshift : (d.bits >>> 63).toNat = d.bits.toNat / 2 ^ 63 := by
    rw [UInt64.toNat_shiftRight, Nat.shiftRight_eq_div_pow]
    rfl
  rw [negative, beq_iff_eq, ← UInt64.toNat_inj, hshift]
  show d.bits.toNat / 2 ^ 63 = 1 ↔ _
  omega

theorem exponentField_eq (d : Double) :
    d.exponentField = d.bits.toNat / 2 ^ 52 % 2048 := by
  rw [exponentField, Nat.shiftRight_eq_div_pow]

/-- The sign and the fields make up a double. -/
theorem ext_fields {a b : Double} (hsign : a.negative = b.negative)
    (hexponent : a.exponentField = b.exponentField)
    (hfraction : a.fractionField = b.fractionField) : a = b := by
  have hiff : 2 ^ 63 ≤ a.bits.toNat ↔ 2 ^ 63 ≤ b.bits.toNat := by
    rw [← negative_iff, ← negative_iff, hsign]
  have ha : a.bits.toNat < 2 ^ 64 := a.bits.toNat_lt
  have hb : b.bits.toNat < 2 ^ 64 := b.bits.toNat_lt
  rw [exponentField_eq, exponentField_eq] at hexponent
  have hfraction' : a.bits.toNat % 2 ^ 52 = b.bits.toNat % 2 ^ 52 := hfraction
  have hbits : a.bits.toNat = b.bits.toNat := by omega
  obtain ⟨a⟩ := a
  obtain ⟨b⟩ := b
  exact congrArg Double.mk (UInt64.toNat_inj.1 hbits)

/-! ## Significand and exponent -/

theorem significand_lt (d : Double) : d.significand < 2 ^ 53 := by
  have hfraction := d.fractionField_lt
  have hpow : Nat.pow 2 52 = 2 ^ 52 := rfl
  unfold significand
  split <;> omega

/-- A double with a small significand has the least exponent. -/
theorem exponentField_eq_zero_iff (d : Double) :
    d.exponentField = 0 ↔ d.significand < 2 ^ 52 := by
  have hfraction := d.fractionField_lt
  have hpow : Nat.pow 2 52 = 2 ^ 52 := rfl
  unfold significand
  split
  · next h => simp_all
  · next h =>
    simp only [beq_iff_eq] at h
    omega

theorem exponent_ge (d : Double) : -1074 ≤ d.exponent := by
  unfold exponent
  split
  · exact le_refl _
  · next h =>
    simp only [beq_iff_eq] at h
    omega

/-- The sign, the significand and the exponent make up a double. -/
theorem ext_parts {a b : Double} (hsign : a.negative = b.negative)
    (hsignificand : a.significand = b.significand) (hexponent : a.exponent = b.exponent) :
    a = b := by
  have hzero : a.exponentField = 0 ↔ b.exponentField = 0 := by
    rw [exponentField_eq_zero_iff, exponentField_eq_zero_iff, hsignificand]
  by_cases ha : a.exponentField = 0
  · have hb := hzero.1 ha
    refine ext_fields hsign (ha.trans hb.symm) ?_
    simpa [significand, ha, hb] using hsignificand
  · have hb : b.exponentField ≠ 0 := fun h => ha (hzero.2 h)
    have hfields : a.exponentField = b.exponentField := by
      simp only [exponent, beq_iff_eq, ha, hb, if_false] at hexponent
      omega
    refine ext_fields hsign hfields ?_
    simpa [significand, ha, hb] using hsignificand

/-! ## Numbers around a double -/

/-- Whether the neighbour below is half as far as the one above. -/
def atPower (d : Double) : Bool := d.significand == Nat.pow 2 52 && d.exponentField > 1

/-- A number rounds to the absolute value of a double: it lies between the midpoints to its
neighbours, or on one of them if the significand is even. The unit is a quarter of the step of the
significand. -/
structure Rounds (d : Double) (x : ℚ) : Prop where
  lower : (4 * d.significand - if d.atPower then 1 else 2) * (2 : ℚ) ^ (d.exponent - 2) ≤ x
  upper : x ≤ (4 * d.significand + 2) * (2 : ℚ) ^ (d.exponent - 2)
  odd : d.significand % 2 = 1 →
    (4 * d.significand - if d.atPower then 1 else 2) * (2 : ℚ) ^ (d.exponent - 2) < x ∧
    x < (4 * d.significand + 2) * (2 : ℚ) ^ (d.exponent - 2)

variable {a b : Double} {x : ℚ}

theorem two_zpow_pos (q : ℤ) : (0 : ℚ) < 2 ^ q := zpow_pos (by norm_num) q

/-- The midpoint below is no further than half a step. -/
theorem Rounds.lower_le (h : b.Rounds x) :
    (4 * b.significand - 2) * (2 : ℚ) ^ (b.exponent - 2) ≤ x := by
  refine le_trans (mul_le_mul_of_nonneg_right ?_ (two_zpow_pos _).le) h.lower
  split <;> linarith

theorem Rounds.lower_lt (h : b.Rounds x) (hodd : b.significand % 2 = 1) :
    (4 * b.significand - 2) * (2 : ℚ) ^ (b.exponent - 2) < x := by
  refine lt_of_le_of_lt (mul_le_mul_of_nonneg_right ?_ (two_zpow_pos _).le) (h.odd hodd).1
  split <;> linarith

/-- With one exponent, the midpoint above the first is not above the one below the second; where they
meet, one of the two significands is odd. -/
theorem not_rounds_of_significand_lt (hexponent : a.exponent = b.exponent)
    (hlt : a.significand < b.significand) (ha : a.Rounds x) : ¬ b.Rounds x := by
  intro hb
  have hpos := two_zpow_pos (b.exponent - 2)
  have hupper := ha.upper
  have hlower := hb.lower_le
  rw [hexponent] at hupper
  have hle : (a.significand : ℚ) + 1 ≤ b.significand := by exact_mod_cast hlt
  have hmeet : (4 * a.significand + 2) * (2 : ℚ) ^ (b.exponent - 2) ≤
      (4 * b.significand - 2) * (2 : ℚ) ^ (b.exponent - 2) :=
    mul_le_mul_of_nonneg_right (by linarith) hpos.le
  by_cases hodd : a.significand % 2 = 1
  · have hstrict := (ha.odd hodd).2
    rw [hexponent] at hstrict
    linarith
  · by_cases hodd' : b.significand % 2 = 1
    · have hstrict := hb.lower_lt hodd'
      linarith
    · have hnext : a.significand + 2 ≤ b.significand := by omega
      have hnext' : (a.significand : ℚ) + 2 ≤ b.significand := by exact_mod_cast hnext
      have hstrict : (4 * a.significand + 2) * (2 : ℚ) ^ (b.exponent - 2) <
          (4 * b.significand - 2) * (2 : ℚ) ^ (b.exponent - 2) :=
        mul_lt_mul_of_pos_right (by linarith) hpos
      linarith

/-- Where the exponent grows, the significand starts again at the power of two, with the midpoint
below it where the one above the last double before it is. -/
theorem not_rounds_of_exponent_lt (hlt : a.exponent < b.exponent) (ha : a.Rounds x) :
    ¬ b.Rounds x := by
  intro hb
  have hfield : 1 < b.exponentField := by
    have hge := a.exponent_ge
    unfold exponent at hlt hge
    by_contra hsmall
    have hcases : b.exponentField = 0 ∨ b.exponentField = 1 := by omega
    rcases hcases with h | h <;> simp [h] at hlt <;> omega
  have hnormal : 2 ^ 52 ≤ b.significand := by
    have := (exponentField_eq_zero_iff b).not.1 (by omega)
    omega
  have hpos := two_zpow_pos (a.exponent - 2)
  -- a step of the second is at least two of the first
  have hstep : 2 * (2 : ℚ) ^ (a.exponent - 2) ≤ 2 ^ (b.exponent - 2) := by
    have hle : a.exponent - 2 + 1 ≤ b.exponent - 2 := by omega
    calc 2 * (2 : ℚ) ^ (a.exponent - 2) = 2 ^ (a.exponent - 2 + 1) := by
          rw [zpow_add_one₀ (by norm_num)]
          ring
      _ ≤ 2 ^ (b.exponent - 2) := zpow_le_zpow_right₀ (by norm_num) hle
  have hsmall : (a.significand : ℚ) + 1 ≤ 2 ^ 53 := by exact_mod_cast a.significand_lt
  have hupper := ha.upper
  have hmid : (4 * a.significand + 2) * (2 : ℚ) ^ (a.exponent - 2) ≤
      (2 ^ 55 - 2) * 2 ^ (a.exponent - 2) :=
    mul_le_mul_of_nonneg_right (by linarith) hpos.le
  rcases Nat.eq_or_lt_of_le hnormal with heq | hmore
  · have hpower : b.atPower = true := by simp [atPower, ← heq, hfield]
    have hlower := hb.lower
    rw [hpower, ← heq] at hlower
    have hfirst : (2 ^ 55 - 2) * (2 : ℚ) ^ (a.exponent - 2) ≤
        (4 * ((2 ^ 52 : ℕ) : ℚ) - if true = true then 1 else 2) * 2 ^ (b.exponent - 2) := by
      have := mul_le_mul_of_nonneg_left hstep (by norm_num : (0 : ℚ) ≤ 2 ^ 54 - 1)
      norm_num at this ⊢
      linarith
    by_cases hodd : a.significand % 2 = 1
    · have hstrict := (ha.odd hodd).2
      linarith
    · -- the last double before the power has an odd significand
      have hless : a.significand + 2 ≤ 2 ^ 53 := by
        have := a.significand_lt
        omega
      have hless' : (a.significand : ℚ) + 2 ≤ 2 ^ 53 := by exact_mod_cast hless
      have hstrict : (4 * a.significand + 2) * (2 : ℚ) ^ (a.exponent - 2) <
          (2 ^ 55 - 2) * 2 ^ (a.exponent - 2) :=
        mul_lt_mul_of_pos_right (by linarith) hpos
      linarith
  · have hmore' : (2 : ℚ) ^ 52 + 1 ≤ b.significand := by exact_mod_cast hmore
    have hlower := hb.lower_le
    have hfirst : (2 ^ 54 + 2) * (2 * (2 : ℚ) ^ (a.exponent - 2)) ≤
        (4 * b.significand - 2) * 2 ^ (b.exponent - 2) := by
      apply mul_le_mul _ hstep (by positivity) (by linarith)
      linarith
    linarith

/-- No number rounds to two doubles. -/
theorem rounds_unique (ha : a.Rounds x) (hb : b.Rounds x) :
    a.significand = b.significand ∧ a.exponent = b.exponent := by
  have hexponent : a.exponent = b.exponent := by
    rcases lt_trichotomy a.exponent b.exponent with h | h | h
    · exact absurd hb (not_rounds_of_exponent_lt h ha)
    · exact h
    · exact absurd ha (not_rounds_of_exponent_lt h hb)
  refine ⟨?_, hexponent⟩
  rcases lt_trichotomy a.significand b.significand with h | h | h
  · exact absurd hb (not_rounds_of_significand_lt hexponent h ha)
  · exact h
  · exact absurd ha (not_rounds_of_significand_lt hexponent.symm h hb)

end MessageContract.Double
