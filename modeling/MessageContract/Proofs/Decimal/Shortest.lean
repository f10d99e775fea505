import MessageContract.Decimal.Shortest
import MessageContract.Proofs.Decimal.Double

/-!
# The shortest decimal of a double

Seventeen digits are enough: the grid of that many digits is finer than the distance between the
midpoints around a double (`Double.exists_gridPoint`, with `Double.ten_zpow_decimalSize_le`), so the
search for digits always ends with a decimal that rounds to the double (`Double.shortest_rounds`). So
doubles of one sign and one shortest decimal are one (`Double.eq_of_shortest_value_eq`).
-/

namespace MessageContract

/-- The number that a decimal stands for. -/
def Decimal.value (d : Decimal) : ℚ := d.digits * (10 : ℚ) ^ d.exponent

namespace Double

/-! ## Powers without fractions -/

theorem zpow_mul_toNat {b : ℚ} (hb : b ≠ 0) (k : ℤ) : b ^ k * b ^ (-k).toNat = b ^ k.toNat := by
  rcases le_total 0 k with hk | hk
  · have hneg : (-k).toNat = 0 := by omega
    have hpos : b ^ k.toNat = b ^ k := by
      rw [← zpow_natCast, Int.toNat_of_nonneg hk]
    rw [hneg, pow_zero, mul_one, hpos]
  · have hzero : k.toNat = 0 := by omega
    have hinv : b ^ (-k).toNat = b ^ (-k) := by
      rw [← zpow_natCast, Int.toNat_of_nonneg (by omega)]
    rw [hzero, pow_zero, hinv, ← zpow_add₀ hb, add_neg_cancel, zpow_zero]

/-- What both sides of a comparison of `a · 2 ^ u` with `c · 10 ^ e` are multiplied by. -/
def common (u e : ℤ) : ℚ := 2 ^ (-u).toNat * 10 ^ (-e).toNat

theorem common_pos (u e : ℤ) : 0 < common u e := by
  unfold common
  positivity

theorem cast_binary (a : ℕ) (u e : ℤ) :
    ((a * Nat.pow 2 u.toNat * Nat.pow 10 (-e).toNat : ℕ) : ℚ) = a * 2 ^ u * common u e := by
  have htwo := zpow_mul_toNat (b := 2) (by norm_num) u
  simp only [Nat.pow_eq, Nat.cast_mul, Nat.cast_pow, Nat.cast_ofNat, common]
  rw [← htwo]
  ring

theorem cast_decimal (c : ℕ) (u e : ℤ) :
    ((c * Nat.pow 10 e.toNat * Nat.pow 2 (-u).toNat : ℕ) : ℚ) = c * 10 ^ e * common u e := by
  have hten := zpow_mul_toNat (b := 10) (by norm_num) e
  simp only [Nat.pow_eq, Nat.cast_mul, Nat.cast_pow, Nat.cast_ofNat, common]
  rw [← hten]
  ring

theorem binary_le_decimal_iff (a c : ℕ) (u e : ℤ) :
    a * Nat.pow 2 u.toNat * Nat.pow 10 (-e).toNat ≤
      c * Nat.pow 10 e.toNat * Nat.pow 2 (-u).toNat ↔ (a : ℚ) * 2 ^ u ≤ c * 10 ^ e := by
  rw [← Nat.cast_le (α := ℚ), cast_binary, cast_decimal, mul_le_mul_iff_left₀ (common_pos u e)]

theorem decimal_le_binary_iff (a c : ℕ) (u e : ℤ) :
    c * Nat.pow 10 e.toNat * Nat.pow 2 (-u).toNat ≤
      a * Nat.pow 2 u.toNat * Nat.pow 10 (-e).toNat ↔ (c : ℚ) * 10 ^ e ≤ a * 2 ^ u := by
  rw [← Nat.cast_le (α := ℚ), cast_binary, cast_decimal, mul_le_mul_iff_left₀ (common_pos u e)]

/-- A decimal between two bounds, which count if the interval is closed. -/
theorem withinUnits_iff (c lo hi : ℕ) (u e : ℤ) (closed : Bool) :
    withinUnits c e lo hi u closed = true ↔
      if closed then (lo : ℚ) * 2 ^ u ≤ c * 10 ^ e ∧ (c : ℚ) * 10 ^ e ≤ hi * 2 ^ u
      else (lo : ℚ) * 2 ^ u < c * 10 ^ e ∧ (c : ℚ) * 10 ^ e < hi * 2 ^ u := by
  unfold withinUnits
  cases closed with
  | true =>
    simp only [if_true, Bool.and_eq_true, decide_eq_true_eq]
    rw [binary_le_decimal_iff, decimal_le_binary_iff]
  | false =>
    simp only [Bool.false_eq_true, if_false, Bool.and_eq_true, decide_eq_true_eq]
    rw [← not_le, ← not_le, decimal_le_binary_iff, binary_le_decimal_iff, not_le, not_le]

/-! ## Grid points -/

/-- The grid point below a value and the one above it. -/
theorem floor_grid (n : ℕ) (u e : ℤ) :
    let below := n * Nat.pow 2 u.toNat * Nat.pow 10 (-e).toNat /
      (Nat.pow 2 (-u).toNat * Nat.pow 10 e.toNat)
    (below : ℚ) * 10 ^ e ≤ n * 2 ^ u ∧ (n : ℚ) * 2 ^ u < ((below + 1 : ℕ) : ℚ) * 10 ^ e := by
  intro below
  have hden : ∀ c : ℕ, c * Nat.pow 10 e.toNat * Nat.pow 2 (-u).toNat =
      c * (Nat.pow 2 (-u).toNat * Nat.pow 10 e.toNat) := by
    intro c
    rw [Nat.mul_assoc, Nat.mul_comm (Nat.pow 10 e.toNat)]
  have hpos : 0 < Nat.pow 2 (-u).toNat * Nat.pow 10 e.toNat :=
    Nat.mul_pos (Nat.pow_pos (by omega)) (Nat.pow_pos (by omega))
  constructor
  · rw [← decimal_le_binary_iff, hden]
    exact Nat.div_mul_le_self _ _
  · rw [← not_le, ← decimal_le_binary_iff, hden, Nat.not_le]
    exact (Nat.div_lt_iff_lt_mul hpos).1 (Nat.lt_succ_self _)

/-- Where the step of a grid is less than twice the distance to both bounds, one of the two grid points
around a value is between them. -/
theorem exists_gridPoint {n lo hi : ℕ} {u e : ℤ} (closed : Bool)
    (hlow : (10 : ℚ) ^ e < 2 * ((n - lo) * 2 ^ u))
    (hhigh : (10 : ℚ) ^ e < 2 * ((hi - n) * 2 ^ u)) :
    ∃ c, gridPoint? n lo hi u e closed = some c := by
  obtain ⟨hbelow, habove⟩ := floor_grid n u e
  have hwithin : ∀ c : ℕ, (lo : ℚ) * 2 ^ u < c * 10 ^ e → (c : ℚ) * 10 ^ e < hi * 2 ^ u →
      withinUnits c e lo hi u closed = true := by
    intro c hc hc'
    rw [withinUnits_iff]
    cases closed with
    | true => exact ⟨hc.le, hc'.le⟩
    | false => exact ⟨hc, hc'⟩
  rw [← Option.isSome_iff_exists]
  unfold gridPoint?
  dsimp only
  generalize hfloor : n * Nat.pow 2 u.toNat * Nat.pow 10 (-e).toNat /
    (Nat.pow 2 (-u).toNat * Nat.pow 10 e.toNat) = below at hbelow habove ⊢
  have hhit : withinUnits below e lo hi u closed = true ∨
      withinUnits (below + 1) e lo hi u closed = true := by
    have hnext : ((below + 1 : ℕ) : ℚ) * 10 ^ e = below * 10 ^ e + 10 ^ e := by
      push_cast
      ring
    rw [hnext] at habove
    rcases le_total (2 * ((n : ℚ) * 2 ^ u - below * 10 ^ e)) (10 ^ e) with hnear | hnear
    · refine Or.inl (hwithin below ?_ ?_) <;> linarith
    · refine Or.inr (hwithin (below + 1) ?_ ?_) <;> rw [hnext] <;> linarith
  rw [List.find?_isSome]
  split
  · rcases hhit with h | h
    · exact ⟨below, by simp, h⟩
    · exact ⟨below + 1, by simp, h⟩
  · rcases hhit with h | h
    · exact ⟨below, by simp, h⟩
    · exact ⟨below + 1, by simp, h⟩

/-! ## The number of digits before the point -/

/-- Two powers of two to one, and two of ten: `10 ^ 3 ≤ 2 ^ 10`, and `2 ^ 53 ≤ 10 ^ 16`. -/
theorem ten_pow_le {g b : ℕ} (h : 100000 * g ≤ 30103 * b) (hb : b ≤ 1100) :
    10 ^ g ≤ 2 ^ b * 10 ^ 2 := by
  rw [← Nat.pow_le_pow_iff_left (show 3 ≠ 0 by omega)]
  calc (10 ^ g) ^ 3 = (10 ^ 3) ^ g := by rw [← pow_mul, ← pow_mul, mul_comm]
    _ ≤ (2 ^ 10) ^ g := Nat.pow_le_pow_left (by norm_num) g
    _ = 2 ^ (10 * g) := by rw [← pow_mul]
    _ ≤ 2 ^ (3 * b + 12) := Nat.pow_le_pow_right (by omega) (by omega)
    _ = (2 ^ b) ^ 3 * 2 ^ 12 := by rw [pow_add, ← pow_mul, mul_comm 3]
    _ ≤ (2 ^ b) ^ 3 * (10 ^ 2) ^ 3 := Nat.mul_le_mul_left _ (by norm_num)
    _ = (2 ^ b * 10 ^ 2) ^ 3 := by rw [mul_pow]

theorem two_pow_le {c h : ℕ} (hc : 30103 * c ≤ 100000 * h) (hsmall : c ≤ 1100) :
    2 ^ c ≤ 10 ^ (h + 2) := by
  rw [← Nat.pow_le_pow_iff_left (show 53 ≠ 0 by omega)]
  calc (2 ^ c) ^ 53 = (2 ^ 53) ^ c := by rw [← pow_mul, ← pow_mul, mul_comm]
    _ ≤ (10 ^ 16) ^ c := Nat.pow_le_pow_left (by norm_num) c
    _ = 10 ^ (16 * c) := by rw [← pow_mul]
    _ ≤ 10 ^ ((h + 2) * 53) := Nat.pow_le_pow_right (by omega) (by omega)
    _ = (10 ^ (h + 2)) ^ 53 := by rw [pow_mul]

/-- A power of two has about three tenths as many digits as its exponent says. -/
theorem ten_zpow_le_two_zpow {b : ℤ} (hlow : -1100 ≤ b) (hhigh : b ≤ 1100) :
    (10 : ℚ) ^ (b * 30103 / 100000 - 2) ≤ 2 ^ b := by
  rcases le_total 0 b with hb | hb
  · obtain ⟨b, rfl⟩ := Int.eq_ofNat_of_zero_le hb
    obtain ⟨g, hg⟩ := Int.eq_ofNat_of_zero_le (show 0 ≤ (b : ℤ) * 30103 / 100000 by omega)
    have hpow : (10 : ℚ) ^ g ≤ 2 ^ b * 10 ^ 2 := by
      exact_mod_cast ten_pow_le (g := g) (b := b) (by omega) (by omega)
    rw [hg, zpow_sub₀ (by norm_num), zpow_natCast, zpow_natCast, div_le_iff₀ (by norm_num)]
    exact_mod_cast hpow
  · obtain ⟨c, hc⟩ := Int.eq_ofNat_of_zero_le (show 0 ≤ -b by omega)
    obtain ⟨h, hh⟩ := Int.eq_ofNat_of_zero_le (show 0 ≤ -(b * 30103 / 100000) by omega)
    have hpow : (2 : ℚ) ^ c ≤ 10 ^ (h + 2) := by
      exact_mod_cast two_pow_le (c := c) (h := h) (by omega) (by omega)
    have hexponent : b * 30103 / 100000 - 2 = -((h + 2 : ℕ) : ℤ) := by
      push_cast
      omega
    have hbase : b = -(c : ℤ) := by omega
    rw [hexponent, hbase, zpow_neg, zpow_neg, zpow_natCast, zpow_natCast]
    exact inv_anti₀ (by positivity) hpow

/-- The number of digits is not too great: the power of ten with one digit less is no more than the
value. -/
theorem ten_zpow_decimalSize_le {n : ℕ} {u : ℤ} (hn : n ≠ 0) (hlow : -1100 ≤ n.log2 + u)
    (hhigh : n.log2 + u ≤ 1100) : (10 : ℚ) ^ (decimalSize n u - 1) ≤ n * 2 ^ u := by
  have hbase : (10 : ℚ) ^ (((n.log2 : ℤ) + u) * 30103 / 100000 - 2) ≤ n * 2 ^ u := by
    have hlog : ((2 ^ n.log2 : ℕ) : ℚ) ≤ n := by exact_mod_cast Nat.log2_self_le hn
    calc (10 : ℚ) ^ (((n.log2 : ℤ) + u) * 30103 / 100000 - 2) ≤ 2 ^ ((n.log2 : ℤ) + u) :=
          ten_zpow_le_two_zpow hlow hhigh
      _ = ((2 ^ n.log2 : ℕ) : ℚ) * 2 ^ u := by
          rw [zpow_add₀ (by norm_num), zpow_natCast]
          push_cast
          rfl
      _ ≤ n * 2 ^ u := mul_le_mul_of_nonneg_right hlog (two_zpow_pos u).le
  have hfail : ∀ k : ℤ, decide (n * Nat.pow 2 u.toNat * Nat.pow 10 (-k).toNat <
      Nat.pow 2 (-u).toNat * Nat.pow 10 k.toNat) = false → (10 : ℚ) ^ k ≤ n * 2 ^ u := by
    intro k hk
    have hle := Nat.not_lt.1 (of_decide_eq_false hk)
    have hone : (1 : ℕ) * Nat.pow 10 k.toNat * Nat.pow 2 (-u).toNat =
        Nat.pow 2 (-u).toNat * Nat.pow 10 k.toNat := by
      rw [Nat.one_mul, Nat.mul_comm]
    rw [← hone, decimal_le_binary_iff] at hle
    simpa using hle
  unfold decimalSize
  dsimp only
  generalize ((n.log2 : ℤ) + u) * 30103 / 100000 = guess at hbase
  generalize hbelow : (fun k : ℤ => decide (n * Nat.pow 2 u.toNat * Nat.pow 10 (-k).toNat <
    Nat.pow 2 (-u).toNat * Nat.pow 10 k.toNat)) = below
  have hfail' : ∀ k, below k = false → (10 : ℚ) ^ k ≤ n * 2 ^ u := by
    rw [← hbelow]
    exact hfail
  -- each number of digits is tried when the one before it was not enough
  cases h₁ : below (guess - 1) with
  | true =>
    simpa [List.find?_cons, h₁, sub_sub] using hbase
  | false =>
    cases h₂ : below guess with
    | true => simpa [List.find?_cons, h₁, h₂] using hfail' _ h₁
    | false =>
      cases h₃ : below (guess + 1) with
      | true => simpa [List.find?_cons, h₁, h₂, h₃] using hfail' _ h₂
      | false =>
        have hlast := hfail' _ h₃
        cases h₄ : below (guess + 2) with
        | true =>
          have hsub : guess + 2 - 1 = guess + 1 := by omega
          simpa [List.find?_cons, h₁, h₂, h₃, h₄, hsub] using hlast
        | false =>
          have hsub : guess + 3 - 1 = guess + 2 := by omega
          simpa [List.find?_cons, h₁, h₂, h₃, h₄, hsub] using hfail' _ h₄

/-! ## The shortest decimal -/

theorem dropZeros_value (fuel : ℕ) (d : Decimal) : (dropZeros fuel d).value = d.value := by
  induction fuel generalizing d with
  | zero => rfl
  | succ fuel ih =>
    rw [dropZeros]
    split
    · next h =>
      simp only [Bool.and_eq_true, bne_iff_ne, beq_iff_eq] at h
      have hdigits : ((d.digits / 10 * 10 : ℕ) : ℚ) = d.digits := by
        exact_mod_cast Nat.div_mul_cancel (Nat.dvd_of_mod_eq_zero h.2)
      rw [ih, Decimal.value, Decimal.value, ← hdigits, zpow_add_one₀ (by norm_num)]
      push_cast
      ring
    · rfl

variable {d : Double}

/-- The bound below, in quarters of a step of the significand. -/
def lowerUnits (d : Double) : ℕ :=
  if d.atPower then 4 * d.significand - 1 else 4 * d.significand - 2

theorem cast_lowerUnits (hd : d.significand ≠ 0) :
    (d.lowerUnits : ℚ) = 4 * d.significand - if d.atPower then 1 else 2 := by
  unfold lowerUnits
  split
  · rw [Nat.cast_sub (by omega)]
    push_cast
    ring
  · rw [Nat.cast_sub (by omega)]
    push_cast
    ring

theorem exponent_le (hfinite : d.isFinite = true) : d.exponent ≤ 971 := by
  have hfield : d.exponentField < 2048 := by
    rw [exponentField_eq]
    exact Nat.mod_lt _ (by omega)
  have hother : d.exponentField ≠ 2047 := by simpa [isFinite] using hfinite
  unfold exponent
  split <;> omega

/-- With seventeen digits, the grid is fine enough for the bounds of a double. -/
theorem step_lt (hfinite : d.isFinite = true) (hd : d.significand ≠ 0) :
    (10 : ℚ) ^ (decimalSize (4 * d.significand) (d.exponent - 2) - 17) <
      2 * (((4 * d.significand : ℕ) - d.lowerUnits : ℚ) * 2 ^ (d.exponent - 2)) ∧
    (10 : ℚ) ^ (decimalSize (4 * d.significand) (d.exponent - 2) - 17) <
      2 * ((((4 * d.significand + 2 : ℕ) : ℚ) - (4 * d.significand : ℕ)) *
        2 ^ (d.exponent - 2)) := by
  have hsmall := d.significand_lt
  have hlow := d.exponent_ge
  have hhigh := exponent_le hfinite
  have hlog : (4 * d.significand).log2 < 55 := (Nat.log2_lt (by omega)).2 (by omega)
  have hsize := ten_zpow_decimalSize_le (n := 4 * d.significand) (u := d.exponent - 2) (by omega)
    (by omega) (by omega)
  generalize decimalSize (4 * d.significand) (d.exponent - 2) = size at hsize ⊢
  have hpos := two_zpow_pos (d.exponent - 2)
  have hstep : (10 : ℚ) ^ (size - 17) * 10 ^ 16 = 10 ^ (size - 1) := by
    rw [← zpow_natCast, ← zpow_add₀ (by norm_num)]
    congr 1
    push_cast
    ring
  rw [← hstep] at hsize
  push_cast at hsize ⊢
  rw [cast_lowerUnits hd]
  have hbound : (d.significand : ℚ) * 2 ^ (d.exponent - 2) < 2 ^ 53 * 2 ^ (d.exponent - 2) := by
    refine mul_lt_mul_of_pos_right ?_ hpos
    exact_mod_cast hsmall
  constructor
  · split
    · next hpower =>
      have hsignificand : (d.significand : ℚ) = 2 ^ 52 := by
        have h := (Bool.and_eq_true_iff.1 hpower).1
        rw [beq_iff_eq] at h
        rw [h]
        norm_num
      rw [hsignificand] at hsize ⊢
      linarith
    · linarith
  · linarith

theorem withinUnits_of_gridPoint? {n lo hi c : ℕ} {u e : ℤ} {closed : Bool}
    (h : gridPoint? n lo hi u e closed = some c) : withinUnits c e lo hi u closed = true :=
  List.find?_some (p := fun c => withinUnits c e lo hi u closed) h

/-- A decimal between the bounds of a double rounds to it. -/
theorem rounds_of_withinUnits (hd : d.significand ≠ 0) {c : ℕ} {e : ℤ}
    (h : withinUnits c e d.lowerUnits (4 * d.significand + 2) (d.exponent - 2)
      (d.significand % 2 == 0) = true) : d.Rounds (Decimal.mk c e).value := by
  rw [withinUnits_iff, cast_lowerUnits hd] at h
  push_cast at h
  by_cases heven : d.significand % 2 = 0
  · rw [if_pos (beq_iff_eq.2 heven)] at h
    exact ⟨h.1, h.2, fun hodd => by omega⟩
  · rw [if_neg (mt beq_iff_eq.1 heven)] at h
    exact ⟨h.1.le, h.2.le, fun _ => h⟩

/-- The shortest decimal of a double rounds to it. -/
theorem shortest_rounds (hfinite : d.isFinite = true) (hd : d.significand ≠ 0) :
    d.Rounds d.shortest.value := by
  obtain ⟨hlow, hhigh⟩ := step_lt hfinite hd
  rw [shortest, if_neg (mt beq_iff_eq.1 hd)]
  dsimp only
  rw [dropZeros_value]
  generalize decimalSize (4 * d.significand) (d.exponent - 2) = size at hlow hhigh ⊢
  -- the search ends at seventeen digits, if not before
  cases hfound : List.findSome? (fun i : ℕ => (gridPoint? (4 * d.significand) d.lowerUnits
      (4 * d.significand + 2) (d.exponent - 2) (size - (i + 1 : ℕ))
      (d.significand % 2 == 0)).map fun c => Decimal.mk c (size - (i + 1 : ℕ)))
      (List.range 17) with
  | none =>
    obtain ⟨c, hc⟩ := exists_gridPoint (d.significand % 2 == 0) hlow hhigh
    have hlast := List.findSome?_eq_none_iff.1 hfound 16 (List.mem_range.2 (by omega))
    rw [Option.map_eq_none_iff] at hlast
    cases hlast.symm.trans hc
  | some found =>
    obtain ⟨i, -, hi⟩ := List.exists_of_findSome?_eq_some hfound
    obtain ⟨c, hc, rfl⟩ := Option.map_eq_some_iff.1 hi
    have hrounds := rounds_of_withinUnits hd (withinUnits_of_gridPoint? hc)
    exact hfound ▸ hrounds

/-- Zero has no digits, and any other double has some. -/
theorem shortest_value_eq_zero_iff (hfinite : d.isFinite = true) :
    d.shortest.value = 0 ↔ d.significand = 0 := by
  by_cases hd : d.significand = 0
  · simp [shortest, hd, Decimal.value]
  · refine iff_of_false (fun hzero => ?_) hd
    have hlower := (shortest_rounds hfinite hd).lower_le
    rw [hzero] at hlower
    have hone : (1 : ℚ) ≤ d.significand := by exact_mod_cast Nat.one_le_iff_ne_zero.2 hd
    have hpos := mul_pos (show (0 : ℚ) < 4 * d.significand - 2 by linarith)
      (two_zpow_pos (d.exponent - 2))
    linarith

/-- Finite doubles of one sign with the same shortest decimal are one. -/
theorem eq_of_shortest_value_eq {a b : Double} (ha : a.isFinite = true) (hb : b.isFinite = true)
    (hsign : a.negative = b.negative) (hvalue : a.shortest.value = b.shortest.value) : a = b := by
  by_cases hzero : a.significand = 0
  · have hzero' : b.significand = 0 := by
      rwa [← shortest_value_eq_zero_iff hb, ← hvalue, shortest_value_eq_zero_iff ha]
    have hfield : ∀ {d : Double}, d.significand = 0 → d.exponentField = 0 := by
      intro d hd
      rw [exponentField_eq_zero_iff]
      omega
    refine ext_parts hsign (hzero.trans hzero'.symm) ?_
    simp [exponent, hfield hzero, hfield hzero']
  · have hzero' : b.significand ≠ 0 := by
      rwa [Ne, ← shortest_value_eq_zero_iff hb, ← hvalue, shortest_value_eq_zero_iff ha]
    have hrounds := shortest_rounds hb hzero'
    rw [← hvalue] at hrounds
    obtain ⟨hsignificand, hexponent⟩ := rounds_unique (shortest_rounds ha hzero) hrounds
    exact ext_parts hsign hsignificand hexponent

end Double
end MessageContract
