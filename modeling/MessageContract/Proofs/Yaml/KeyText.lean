import MessageContract.Proofs.Decimal.Text
import MessageContract.Yaml.ToJson

/-!
# Texts of keys

Numbers and booleans that are different keys have different texts (`Yaml.same_of_keyText?_eq`): a
double has a point or a power of ten in its text and an integer has neither, and both can be read
back. So the text of a key can be that of another one only if one of the two is a string.
-/

namespace MessageContract

/-! ## Integers -/

theorem toList_toString_int (n : ℤ) : (toString n).toList =
    (if n < 0 then "-" else if Layout.yaml.plusSign then "+" else "").toList ++
      Nat.toDigits 10 n.natAbs := by
  rw [Int.toString_eq_repr, Int.repr_eq_if]
  by_cases hneg : n < 0
  · have habs : (-n).toNat = n.natAbs := by omega
    rw [if_neg (by omega), if_pos hneg, String.toList_append, habs, ← toList_toString_nat]
    rfl
  · have habs : n.toNat = n.natAbs := by omega
    rw [if_pos (by omega), if_neg hneg, habs, ← toList_toString_nat]
    rfl

/-- An integer can be read off its text. -/
theorem integerValue_toString (n : ℤ) : integerValue (toString n).toList = n := by
  rw [toList_toString_int, Layout.integerValue_write]

theorem toString_int_inj {m n : ℤ} (h : toString m = toString n) : m = n := by
  rw [← integerValue_toString m, h, integerValue_toString]

/-- The text of an integer has digits only, but for its sign. -/
theorem notMem_toString_int {c : Char} (hdigit : c.isDigit = false) (hsign : c ≠ '-') (n : ℤ) :
    c ∉ (toString n).toList := by
  rw [toList_toString_int, List.mem_append, not_or]
  refine ⟨?_, (Digits.toDigits n.natAbs).notMem hdigit⟩
  split
  · simpa using hsign
  · simp [Layout.yaml]

/-! ## Doubles -/

namespace Double
variable {a b d : Double}

theorem isFinite_eq_false_iff : d.isFinite = false ↔ d.exponentField = 2047 := by
  simp [isFinite]

theorem isNaN_of_isFinite (h : d.isFinite = true) : d.isNaN = false := by
  have hfield : d.exponentField ≠ 2047 := by simpa [isFinite] using h
  simp [isNaN, hfield]

/-- The two infinities differ in sign only. -/
theorem eq_of_infinite (ha : a.isFinite = false) (ha' : a.isNaN = false) (hb : b.isFinite = false)
    (hb' : b.isNaN = false) (hsign : a.negative = b.negative) : a = b := by
  rw [isFinite_eq_false_iff] at ha hb
  have hfraction : a.fractionField = 0 := by simpa [isNaN, ha] using ha'
  have hfraction' : b.fractionField = 0 := by simpa [isNaN, hb] using hb'
  exact ext_fields hsign (ha.trans hb.symm) (hfraction.trans hfraction'.symm)

end Double

namespace Yaml
variable {d : Double}

theorem writeDouble_of_isFinite (h : d.isFinite = true) : writeDouble d = d.write .yaml := by
  have hfield : d.exponentField ≠ 2047 := by simpa [Double.isFinite] using h
  simp [writeDouble, Double.isNaN, Double.isInfinite, hfield]

theorem writeDouble_of_not_isFinite (h : d.isFinite = false) : writeDouble d =
    if d.isNaN then ".nan" else if d.negative then "-.inf" else ".inf" := by
  rw [Double.isFinite_eq_false_iff] at h
  by_cases hfraction : d.fractionField = 0 <;>
    simp [writeDouble, Double.isNaN, Double.isInfinite, h, hfraction]

/-- A finite double has digits where a word has a point. -/
theorem write_ne_word (d : Double) (isNaN negative : Bool) :
    d.write .yaml ≠ if isNaN then ".nan" else if negative then "-.inf" else ".inf" := by
  intro h
  obtain ⟨c, rest, hc, htext⟩ := Double.write_head .yaml d
  rw [h] at htext
  have hsign : c = '.' ∨ c = '-' := by
    cases isNaN <;> cases negative <;> cases hneg : d.negative <;>
      simp [hneg] at htext <;> simp [← htext.1]
  rcases hsign with rfl | rfl <;> cases hc

/-- Doubles with one text are one key. -/
theorem sameDouble_of_writeDouble_eq {a b : Double} (h : writeDouble a = writeDouble b) :
    sameDouble a b = true := by
  cases ha : a.isFinite with
  | true =>
    rw [writeDouble_of_isFinite ha] at h
    cases hb : b.isFinite with
    | true =>
      rw [writeDouble_of_isFinite hb] at h
      obtain rfl := Double.write_inj ha hb h
      simp [sameDouble, Double.isNaN_of_isFinite ha]
    | false =>
      rw [writeDouble_of_not_isFinite hb] at h
      exact absurd h (write_ne_word a _ _)
  | false =>
    rw [writeDouble_of_not_isFinite ha] at h
    cases hb : b.isFinite with
    | true =>
      rw [writeDouble_of_isFinite hb] at h
      exact absurd h.symm (write_ne_word b _ _)
    | false =>
      rw [writeDouble_of_not_isFinite hb] at h
      cases hnan : a.isNaN <;> cases hnan' : b.isNaN <;> rw [hnan, hnan'] at h
      · have hsign : a.negative = b.negative := by
          cases hneg : a.negative <;> cases hneg' : b.negative <;> simp_all
        obtain rfl := Double.eq_of_infinite ha hnan hb hnan' hsign
        simp [sameDouble, hnan]
      · cases hneg : a.negative <;> simp [hneg] at h
      · cases hneg : b.negative <;> simp [hneg] at h
      · simp [sameDouble, hnan, hnan']

/-- The text of a double has a point or a power of ten. -/
theorem point_or_e_mem_writeDouble (d : Double) :
    '.' ∈ (writeDouble d).toList ∨ 'e' ∈ (writeDouble d).toList := by
  cases hfinite : d.isFinite with
  | true =>
    rw [writeDouble_of_isFinite hfinite, Double.toList_write]
    exact (Layout.point_or_power .yaml d.shortest rfl).imp (List.mem_append_right _)
      (List.mem_append_right _)
  | false =>
    rw [writeDouble_of_not_isFinite hfinite]
    cases d.isNaN <;> cases d.negative <;> simp

/-! ## Keys -/

/-- The text of a boolean. -/
def boolText (b : Bool) : String := if b then "true" else "false"

theorem boolText_inj {a b : Bool} (h : boolText a = boolText b) : a = b := by
  cases a <;> cases b <;> first | rfl | exact absurd h (by decide)

/-- Letters only. -/
theorem boolText_letters (b : Bool) : ∀ c ∈ (boolText b).toList, c.isDigit = false ∧ c ≠ '.' := by
  cases b <;> simp [boolText]

theorem boolText_ne_toString (b : Bool) (n : ℤ) : boolText b ≠ toString n := by
  intro h
  obtain ⟨c, rest, hc⟩ := List.exists_cons_of_ne_nil (Nat.toDigits_ne_nil (b := 10) (n := n.natAbs))
  have hmem : c ∈ Nat.toDigits 10 n.natAbs := hc ▸ List.mem_cons_self ..
  have hletter := (boolText_letters b c (by rw [h, toList_toString_int]; simp [hmem])).1
  rw [Digits.toDigits n.natAbs c hmem] at hletter
  cases hletter

theorem boolText_ne_writeDouble (b : Bool) (d : Double) : boolText b ≠ writeDouble d := by
  intro h
  have hletters := boolText_letters b
  rw [h] at hletters
  cases hfinite : d.isFinite with
  | true =>
    obtain ⟨c, rest, hc, htext⟩ := Double.write_head .yaml d
    rw [writeDouble_of_isFinite hfinite, htext] at hletters
    have hletter := (hletters c (by simp)).1
    rw [hc] at hletter
    cases hletter
  | false =>
    rw [writeDouble_of_not_isFinite hfinite] at hletters
    refine (hletters '.' ?_).2 rfl
    cases d.isNaN <;> cases d.negative <;> simp

theorem toString_ne_writeDouble (n : ℤ) (d : Double) : toString n ≠ writeDouble d := by
  intro h
  rcases point_or_e_mem_writeDouble d with hmem | hmem
  · exact notMem_toString_int rfl (by decide) n (h ▸ hmem)
  · exact notMem_toString_int rfl (by decide) n (h ▸ hmem)

/-- A string, as opposed to a number or a boolean. -/
def isText : Yaml → Bool
  | .str _ => true
  | _ => false

theorem keyText?_cases {k : Yaml} {t : String} (hk : k.isText = false) (h : keyText? k = some t) :
    (∃ b, k = .bool b ∧ t = boolText b) ∨ (∃ n : ℤ, k = .int n ∧ t = toString n) ∨
    ∃ d, k = .double d ∧ t = writeDouble d := by
  cases k with
  | bool b => exact Or.inl ⟨b, rfl, (Option.some.inj h).symm⟩
  | int n => exact Or.inr (Or.inl ⟨n, rfl, (Option.some.inj h).symm⟩)
  | double d => exact Or.inr (Or.inr ⟨d, rfl, (Option.some.inj h).symm⟩)
  | str s => cases hk
  | null | seq _ | map _ | tagged _ _ => cases h

/-- Numbers and booleans with one text are one key. -/
theorem same_of_keyText?_eq {k k' : Yaml} {t : String} (hk : k.isText = false)
    (hk' : k'.isText = false) (h : keyText? k = some t) (h' : keyText? k' = some t) :
    same k k' = true := by
  rcases keyText?_cases hk h with ⟨a, rfl, rfl⟩ | ⟨m, rfl, rfl⟩ | ⟨d, rfl, rfl⟩ <;>
    rcases keyText?_cases hk' h' with ⟨b, rfl, ht⟩ | ⟨n, rfl, ht⟩ | ⟨e, rfl, ht⟩
  · rw [same, boolText_inj ht, beq_self_eq_true]
  · exact absurd ht (boolText_ne_toString a n)
  · exact absurd ht (boolText_ne_writeDouble a e)
  · exact absurd ht.symm (boolText_ne_toString b m)
  · rw [same, toString_int_inj ht, beq_self_eq_true]
  · exact absurd ht (toString_ne_writeDouble m e)
  · exact absurd ht.symm (boolText_ne_writeDouble b d)
  · exact absurd ht.symm (toString_ne_writeDouble n d)
  · rw [same, sameDouble_of_writeDouble_eq ht]

end Yaml
end MessageContract
