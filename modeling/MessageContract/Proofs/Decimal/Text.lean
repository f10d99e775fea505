import Mathlib.Data.List.TakeWhile
import MessageContract.Proofs.Decimal.Digits
import MessageContract.Proofs.Decimal.Shortest

/-!
# Decimal texts

A text of digits, which may have a point among them and a power of ten behind them, stands for a
number (`textValue`). Whatever the layout, the text written for a decimal stands for that decimal
(`Layout.textValue_write`), so a text belongs to one finite double only (`Double.write_inj`).
-/

namespace MessageContract

/-! ## Reading -/

/-- The number in digits among which there may be a point. -/
def mantissaValue (cs : List Char) : ℚ :=
  let fraction := (cs.dropWhile (· != '.')).drop 1
  Nat.ofDigitChars 10 (cs.takeWhile (· != '.') ++ fraction) 0 * 10 ^ (-(fraction.length : ℤ))

/-- The integer in digits that may have a sign. -/
def integerValue : List Char → ℤ
  | '-' :: ds => -(Nat.ofDigitChars 10 ds 0 : ℤ)
  | '+' :: ds => Nat.ofDigitChars 10 ds 0
  | ds => Nat.ofDigitChars 10 ds 0

/-- The number that a text stands for: a mantissa, and a power of ten behind `e`. -/
def textValue (cs : List Char) : ℚ :=
  mantissaValue (cs.takeWhile (· != 'e')) * 10 ^ integerValue ((cs.dropWhile (· != 'e')).drop 1)

section
variable {c : Char} {cs : List Char}

theorem bne_of_mem (h : c ∉ cs) : ∀ x ∈ cs, (x != c) = true := by
  intro x hx
  rw [bne_iff_ne]
  rintro rfl
  exact h hx

theorem takeWhile_append_cons (h : c ∉ cs) (rest : List Char) :
    (cs ++ c :: rest).takeWhile (· != c) = cs := by
  rw [List.takeWhile_append_of_pos (bne_of_mem h)]
  simp

theorem dropWhile_append_cons (h : c ∉ cs) (rest : List Char) :
    (cs ++ c :: rest).dropWhile (· != c) = c :: rest := by
  rw [List.dropWhile_append_of_pos (bne_of_mem h)]
  simp

end

section
variable {whole fraction cs : List Char}

theorem mantissaValue_whole (h : '.' ∉ whole) :
    mantissaValue whole = Nat.ofDigitChars 10 whole 0 := by
  have hnone := List.dropWhile_eq_nil_iff.2 (bne_of_mem h)
  have hall := List.takeWhile_eq_self_iff.2 (bne_of_mem h)
  simp [mantissaValue, hnone, hall]

theorem mantissaValue_point (h : '.' ∉ whole) : mantissaValue (whole ++ '.' :: fraction) =
    Nat.ofDigitChars 10 (whole ++ fraction) 0 * 10 ^ (-(fraction.length : ℤ)) := by
  simp [mantissaValue, takeWhile_append_cons h, dropWhile_append_cons h]

theorem textValue_mantissa (h : 'e' ∉ cs) : textValue cs = mantissaValue cs := by
  have hnone := List.dropWhile_eq_nil_iff.2 (bne_of_mem h)
  have hall := List.takeWhile_eq_self_iff.2 (bne_of_mem h)
  simp [textValue, hnone, hall, integerValue, Nat.ofDigitChars]

theorem textValue_power (h : 'e' ∉ cs) (es : List Char) :
    textValue (cs ++ 'e' :: es) = mantissaValue cs * 10 ^ integerValue es := by
  simp [textValue, takeWhile_append_cons h, dropWhile_append_cons h]

end

theorem integerValue_digits {ds : List Char} (h : Digits ds) :
    integerValue ds = Nat.ofDigitChars 10 ds 0 := by
  unfold integerValue
  split
  · exact absurd (h '-' (List.mem_cons_self ..)) (by decide)
  · exact absurd (h '+' (List.mem_cons_self ..)) (by decide)
  · rfl

/-! ## Mantissas -/

/-- Digits, with a point among them or none, and the number that they stand for. -/
inductive Mantissa : List Char → ℚ → Prop
  | whole {ds : List Char} (digits : Digits ds) (ne : ds ≠ []) :
      Mantissa ds (Nat.ofDigitChars 10 ds 0)
  | point {ds fs : List Char} (digits : Digits ds) (ne : ds ≠ []) (fraction : Digits fs) :
      Mantissa (ds ++ '.' :: fs) (Nat.ofDigitChars 10 (ds ++ fs) 0 * 10 ^ (-(fs.length : ℤ)))

namespace Mantissa
variable {cs : List Char} {x : ℚ}

theorem value (h : Mantissa cs x) : mantissaValue cs = x := by
  cases h with
  | whole digits => exact mantissaValue_whole (digits.notMem rfl)
  | point digits => exact mantissaValue_point (digits.notMem rfl)

theorem e_notMem (h : Mantissa cs x) : 'e' ∉ cs := by
  cases h with
  | whole digits => exact digits.notMem rfl
  | point digits _ fraction =>
    rw [List.mem_append, List.mem_cons, not_or, not_or]
    exact ⟨digits.notMem rfl, by decide, fraction.notMem rfl⟩

theorem head (h : Mantissa cs x) : ∃ c rest, cs = c :: rest ∧ c.isDigit = true := by
  cases h with
  | whole digits ne =>
    obtain ⟨c, rest, rfl⟩ := List.exists_cons_of_ne_nil ne
    exact ⟨c, rest, rfl, digits c (List.mem_cons_self ..)⟩
  | point digits ne =>
    obtain ⟨c, rest, rfl⟩ := List.exists_cons_of_ne_nil ne
    exact ⟨c, _, rfl, digits c (List.mem_cons_self ..)⟩

end Mantissa

/-! ## Writing -/

namespace Layout

theorem toList_zeros (n : ℕ) : (zeros n).toList = List.replicate n '0' := String.toList_ofList

theorem length_toString_nat (n : ℕ) : (toString n).length = (Nat.toDigits 10 n).length := by
  rw [← toList_toString_nat, String.length_toList]

/-- The sign of an integer may be left out if it is not negative. -/
theorem integerValue_write (l : Layout) (k : ℤ) :
    integerValue ((if k < 0 then "-" else if l.plusSign then "+" else "").toList ++
      Nat.toDigits 10 k.natAbs) = k := by
  have hread : Nat.ofDigitChars 10 (Nat.toDigits 10 k.natAbs) 0 = k.natAbs :=
    Nat.ofDigitChars_ten_toDigits
  by_cases hneg : k < 0
  · rw [if_pos hneg]
    show -((Nat.ofDigitChars 10 (Nat.toDigits 10 k.natAbs) 0 : ℕ) : ℤ) = k
    omega
  · rw [if_neg hneg]
    cases l.plusSign with
    | true =>
      show ((Nat.ofDigitChars 10 (Nat.toDigits 10 k.natAbs) 0 : ℕ) : ℤ) = k
      omega
    | false =>
      show integerValue (Nat.toDigits 10 k.natAbs) = k
      rw [integerValue_digits (Digits.toDigits k.natAbs)]
      omega

end Layout

section
variable {ds : List Char}

/-- A point among digits. -/
theorem Mantissa.split (digits : Digits ds) (ne : ds ≠ []) {k : ℕ} (hk : 0 < k) :
    Mantissa (ds.take k ++ '.' :: ds.drop k)
      (Nat.ofDigitChars 10 ds 0 * 10 ^ (-((ds.length - k : ℕ) : ℤ))) := by
  have htake : ds.take k ≠ [] := by
    rw [Ne, List.take_eq_nil_iff]
    exact fun h => h.elim (by omega) ne
  have h := Mantissa.point (digits.sublist (List.take_sublist k ds)) htake
    (digits.sublist (List.drop_sublist k ds))
  rwa [List.take_append_drop, List.length_drop] at h

/-- Zeros between the point and the digits. -/
theorem Mantissa.small (digits : Digits ds) (k : ℕ) :
    Mantissa ('0' :: '.' :: (List.replicate k '0' ++ ds))
      (Nat.ofDigitChars 10 ds 0 * 10 ^ (-((k + ds.length : ℕ) : ℤ))) := by
  have h := Mantissa.point (Digits.zeros 1) (by simp) ((Digits.zeros k).append digits)
  rw [List.length_append, List.length_replicate, ← List.append_assoc, List.replicate_append_replicate,
    Nat.ofDigitChars_append, Nat.ofDigitChars_replicate_zero, Nat.mul_zero] at h
  exact h

theorem ofDigitChars_append_zeros (ds : List Char) (k : ℕ) :
    (Nat.ofDigitChars 10 (ds ++ List.replicate k '0') 0 : ℚ) = Nat.ofDigitChars 10 ds 0 * 10 ^ k := by
  rw [Nat.ofDigitChars_append, Nat.ofDigitChars_replicate_zero, mul_comm]
  push_cast
  rfl

/-- A zero behind the point, or no point. -/
theorem Mantissa.integral (digits : Digits ds) (ne : ds ≠ []) (pointZero : Bool) :
    Mantissa (ds ++ (if pointZero then ".0" else "").toList) (Nat.ofDigitChars 10 ds 0) := by
  cases pointZero with
  | true =>
    have h := Mantissa.point digits ne (Digits.zeros 1)
    rw [ofDigitChars_append_zeros, List.length_replicate, mul_assoc, ← zpow_natCast,
      ← zpow_add₀ (by norm_num), add_neg_cancel, zpow_zero, mul_one] at h
    exact h
  | false => simpa using Mantissa.whole digits ne

/-- A point behind the first digit, unless it is the only one. -/
theorem Mantissa.scientific (digits : Digits ds) (ne : ds ≠ []) :
    Mantissa (ds.take 1 ++
        (if (ds.drop 1).isEmpty then "" else "." ++ String.ofList (ds.drop 1)).toList)
      (Nat.ofDigitChars 10 ds 0 * 10 ^ (-((ds.length - 1 : ℕ) : ℤ))) := by
  by_cases hone : ds.length = 1
  · have htake : ds.take 1 = ds := List.take_of_length_le hone.le
    have hdrop : ds.drop 1 = [] := List.drop_eq_nil_of_le hone.le
    rw [hdrop, htake, hone]
    simpa using Mantissa.whole digits ne
  · have hlength : 0 < ds.length := List.length_pos_iff.2 ne
    have hdrop : (ds.drop 1).isEmpty = false := by
      rw [List.isEmpty_eq_false_iff, Ne, List.drop_eq_nil_iff]
      omega
    rw [hdrop]
    simpa using Mantissa.split digits ne (k := 1) (by omega)

end

namespace Layout

/-- What a decimal is written as: a mantissa for its value, which has a point if the layout wants one,
or a mantissa and a power of ten. -/
theorem write_cases (l : Layout) (d : Decimal) :
    (Mantissa (l.write d).toList d.value ∧ (l.pointZero = true → '.' ∈ (l.write d).toList)) ∨
    ∃ cs x es, Mantissa cs x ∧ (l.write d).toList = cs ++ 'e' :: es ∧
      x * 10 ^ integerValue es = d.value := by
  obtain ⟨n, e⟩ := d
  have hdigits := Digits.toDigits n
  have hread : Nat.ofDigitChars 10 (Nat.toDigits 10 n) 0 = n := Nat.ofDigitChars_ten_toDigits
  have hne : Nat.toDigits 10 n ≠ [] := Nat.toDigits_ne_nil
  have hlength : 0 < (Nat.toDigits 10 n).length := List.length_pos_iff.2 hne
  have htext : (toString n).toList = Nat.toDigits 10 n := toList_toString_nat n
  unfold write
  dsimp only [Decimal.value]
  rw [length_toString_nat]
  generalize Nat.toDigits 10 n = ds at hdigits hread hne hlength htext ⊢
  by_cases hzero : n = 0
  · rw [if_pos (beq_iff_eq.2 hzero), hzero, Nat.cast_zero, zero_mul]
    have h := Mantissa.integral (Digits.zeros 1) (by simp) l.pointZero
    refine Or.inl ⟨?_, fun hl => ?_⟩
    · cases hl : l.pointZero <;> rw [hl] at h <;> exact h
    · rw [hl]
      decide
  rw [if_neg (mt beq_iff_eq.1 hzero)]
  by_cases hpoint : 0 < (ds.length : ℤ) + e ∧ (ds.length : ℤ) + e ≤ l.digitsBefore
  · rw [if_pos (by simpa using hpoint)]
    by_cases hwide : 0 ≤ e
    · obtain ⟨k, rfl⟩ := Int.eq_ofNat_of_zero_le hwide
      -- zeros behind the digits
      have hlong : Digits (ds ++ List.replicate k '0') := hdigits.append (Digits.zeros k)
      have hne' : ds ++ List.replicate k '0' ≠ [] := by simp [hne]
      rw [if_pos hwide, String.toList_append, String.toList_append, htext, toList_zeros,
        Int.toNat_natCast, zpow_natCast, ← hread, ← ofDigitChars_append_zeros]
      refine Or.inl ⟨Mantissa.integral hlong hne' l.pointZero, fun hl => ?_⟩
      rw [hl]
      simp
    · -- a point among the digits
      have h := Mantissa.split hdigits hne (k := ((ds.length : ℤ) + e).toNat) (by omega)
      have hexponent : -((ds.length - ((ds.length : ℤ) + e).toNat : ℕ) : ℤ) = e := by omega
      rw [hexponent, hread] at h
      rw [if_neg hwide, htext]
      simp only [String.toList_append, String.toList_ofList, List.append_assoc]
      exact Or.inl ⟨h, fun _ => by simp⟩
  rw [if_neg (by simpa using hpoint)]
  by_cases hsmall : (ds.length : ℤ) + e ≤ 0 ∧ -((ds.length : ℤ) + e) ≤ l.zerosBefore
  · have h := Mantissa.small hdigits (-((ds.length : ℤ) + e)).toNat
    have hexponent : -(((-((ds.length : ℤ) + e)).toNat + ds.length : ℕ) : ℤ) = e := by omega
    rw [hexponent, hread] at h
    rw [if_pos (by simpa using hsmall), String.toList_append, String.toList_append, htext,
      toList_zeros]
    exact Or.inl ⟨h, fun _ => by simp⟩
  · rw [if_neg (by simpa using hsmall), htext]
    simp only [String.toList_append, String.toList_ofList, toList_toString_nat]
    have h := Mantissa.scientific hdigits hne
    rw [hread] at h
    have hpower := integerValue_write l ((ds.length : ℤ) + e - 1)
    refine Or.inr ⟨_, _, _, h, ?_, (congrArg (_ * 10 ^ ·) hpower).trans ?_⟩
    · simp only [List.append_assoc]
      rfl
    · have hexponent : -((ds.length - 1 : ℕ) : ℤ) + (ds.length + e - 1) = e := by omega
      rw [mul_assoc, ← zpow_add₀ (by norm_num), hexponent]

variable (l : Layout) (d : Decimal)

/-- A decimal can be read off its text. -/
theorem textValue_write : textValue (l.write d).toList = d.value := by
  rcases write_cases l d with ⟨h, -⟩ | ⟨cs, x, es, h, htext, hvalue⟩
  · rw [textValue_mantissa h.e_notMem, h.value]
  · rw [htext, textValue_power h.e_notMem, h.value, hvalue]

theorem write_head : ∃ c rest, (l.write d).toList = c :: rest ∧ c.isDigit = true := by
  rcases write_cases l d with ⟨h, -⟩ | ⟨cs, x, es, h, htext, -⟩
  · exact h.head
  · obtain ⟨c, rest, rfl, hc⟩ := h.head
    exact ⟨c, _, htext, hc⟩

/-- With a layout that shows it, the text is not that of an integer. -/
theorem point_or_power (hl : l.pointZero = true) :
    '.' ∈ (l.write d).toList ∨ 'e' ∈ (l.write d).toList := by
  rcases write_cases l d with ⟨-, h⟩ | ⟨cs, x, es, -, htext, -⟩
  · exact Or.inl (h hl)
  · exact Or.inr (htext ▸ by simp)

end Layout

namespace Double
variable {l : Layout} {a b : Double}

theorem toList_write (l : Layout) (d : Double) :
    (d.write l).toList = (if d.negative then ['-'] else []) ++ (l.write d.shortest).toList := by
  rw [write, String.toList_append]
  cases d.negative <;> rfl

theorem write_head (l : Layout) (d : Double) : ∃ c rest, c.isDigit = true ∧
    (d.write l).toList = (if d.negative then ['-'] else []) ++ c :: rest := by
  obtain ⟨c, rest, htext, hc⟩ := l.write_head d.shortest
  exact ⟨c, rest, hc, by rw [toList_write, htext]⟩

/-- The sign shows in the text. -/
theorem negative_of_write_eq (h : a.write l = b.write l) (ha : a.negative = true) :
    b.negative = true := by
  obtain ⟨c, rest, hc, hb⟩ := write_head l b
  by_contra hneg
  rw [← h, toList_write, if_pos ha, if_neg hneg] at hb
  rw [← (List.cons.inj hb).1] at hc
  cases hc

/-- A text belongs to one finite double only. -/
theorem write_inj (ha : a.isFinite = true) (hb : b.isFinite = true) (h : a.write l = b.write l) :
    a = b := by
  have hsign : a.negative = b.negative :=
    Bool.eq_iff_iff.2 ⟨negative_of_write_eq h, negative_of_write_eq h.symm⟩
  have htexts := congrArg String.toList h
  rw [toList_write, toList_write, hsign] at htexts
  have hvalue : a.shortest.value = b.shortest.value := by
    rw [← l.textValue_write, ← l.textValue_write, List.append_cancel_left htexts]
  exact eq_of_shortest_value_eq ha hb hsign hvalue

end Double

end MessageContract
