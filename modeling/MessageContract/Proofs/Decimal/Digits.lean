/-!
# Digits

A natural number is written in digits only (`Digits.toDigits`), so a sign, a point or a letter in a text
cannot come from one (`Digits.notMem`).
-/

namespace MessageContract

theorem toList_toString_nat (n : Nat) : (toString n).toList = Nat.toDigits 10 n := by
  rw [Nat.toString_eq_ofList_toDigits, String.toList_ofList]

/-- A text of digits only. -/
def Digits (cs : List Char) : Prop := ∀ c ∈ cs, c.isDigit = true

namespace Digits

theorem toDigits (n : Nat) : Digits (Nat.toDigits 10 n) :=
  fun _ hc => Nat.isDigit_of_mem_toDigits (by omega) (by omega) hc

theorem zeros (n : Nat) : Digits (List.replicate n '0') := by
  intro c hc
  rw [(List.mem_replicate.1 hc).2]
  rfl

theorem append {as bs : List Char} (ha : Digits as) (hb : Digits bs) : Digits (as ++ bs) := by
  intro c hc
  rcases List.mem_append.1 hc with h | h
  · exact ha c h
  · exact hb c h

theorem notMem {cs : List Char} (h : Digits cs) {c : Char} (hc : c.isDigit = false) : c ∉ cs := by
  intro hmem
  rw [h c hmem] at hc
  cases hc

theorem sublist {as bs : List Char} (hb : Digits bs) (h : as.Sublist bs) : Digits as :=
  fun c hc => hb c (h.subset hc)

end Digits

end MessageContract
