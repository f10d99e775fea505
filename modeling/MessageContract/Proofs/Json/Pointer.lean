import Mathlib.Data.List.Basic
import MessageContract.Json.Pointer
import MessageContract.Proofs.Decimal.Digits

/-!
# JSON Pointers, read back

An index that is written down is read as the same index (`Pointer.index?_toString`), and names that
are escaped and written behind slashes are read as the same names (`Pointer.segments?_flatMap`).
-/

namespace MessageContract.Pointer

/-! ## Indices -/

/-- The digits of a number begin with a zero for zero alone. -/
theorem head?_toDigits_ne_zero {n : Nat} (h : n ≠ 0) : (Nat.toDigits 10 n).head? ≠ some '0' := by
  induction n using Nat.strongRecOn with
  | _ n ih =>
    by_cases hlt : n < 10
    · have hdigit : ∀ m < 10, m ≠ 0 → [Nat.digitChar m].head? ≠ some '0' := by decide
      rw [Nat.toDigits_of_lt_base hlt]
      exact hdigit n hlt h
    · have hdiv : n / 10 ≠ 0 := by omega
      rw [Nat.toDigits_of_base_le (by omega) (by omega), List.head?_append]
      cases hhead : (Nat.toDigits 10 (n / 10)).head? with
      | none => exact absurd (List.head?_eq_none_iff.1 hhead) Nat.toDigits_ne_nil
      | some c =>
        have hc := ih (n / 10) (by omega) hdiv
        rw [hhead] at hc
        simpa using hc

/-- An index that is written down is read back. -/
theorem index?_toString (i : Nat) : index? (toString i).toList = some i := by
  have hall : (Nat.toDigits 10 i).all Char.isDigit = true := by
    rw [List.all_eq_true]
    exact Digits.toDigits i
  have hzero : ((Nat.toDigits 10 i).head? == some '0' && (Nat.toDigits 10 i).length != 1) =
      false := by
    by_cases hi : i = 0
    · subst hi
      rfl
    · have hhead := head?_toDigits_ne_zero hi
      simp [hhead]
  have hread : (Nat.toDigits 10 i).foldl (fun n c => n * 10 + (c.toNat - 48)) 0 = i := by
    have hfold : (fun (n : Nat) (c : Char) => n * 10 + (c.toNat - 48)) =
        fun n c => 10 * n + (c.toNat - '0'.toNat) := by
      funext n c
      rw [Nat.mul_comm]
      rfl
    rw [hfold]
    exact Nat.ofDigitChars_ten_toDigits
  rw [toList_toString_nat, index?, hall, hzero, hread]
  simp [Nat.toDigits_ne_nil]

/-! ## Names -/

theorem not_mem_escape (cs : List Char) : '/' ∉ escape cs := by
  induction cs with
  | nil => exact List.not_mem_nil
  | cons c cs ih =>
    have hcons : escape (c :: cs) =
        (if c = '~' then ['~', '0'] else if c = '/' then ['~', '1'] else [c]) ++ escape cs := rfl
    rw [hcons, List.mem_append, not_or]
    refine ⟨?_, ih⟩
    split
    · decide
    · split
      · decide
      · next h => simpa using Ne.symm h

theorem escape_append (cs ds : List Char) : escape (cs ++ ds) = escape cs ++ escape ds :=
  List.flatMap_append

theorem escape_of_not_mem {cs : List Char} (htilde : '~' ∉ cs) (hslash : '/' ∉ cs) :
    escape cs = cs := by
  induction cs with
  | nil => rfl
  | cons c cs ih =>
    rw [List.mem_cons, not_or] at htilde hslash
    have hc : escape [c] = [c] := by
      simp [escape, Ne.symm htilde.1, Ne.symm hslash.1]
    rw [← List.singleton_append, escape_append, hc, ih htilde.2 hslash.2]

theorem pieces_of_not_mem {cs : List Char} (h : '/' ∉ cs) : pieces cs = [cs] := by
  induction cs with
  | nil => rfl
  | cons c cs ih =>
    rw [List.mem_cons, not_or] at h
    obtain ⟨hc, hcs⟩ := h
    rw [pieces, if_neg (Ne.symm hc), ih hcs]

theorem pieces_append_slash {cs : List Char} (h : '/' ∉ cs) (rest : List Char) :
    pieces (cs ++ '/' :: rest) = cs :: pieces rest := by
  induction cs with
  | nil => rw [List.nil_append, pieces, if_pos rfl]
  | cons c cs ih =>
    rw [List.mem_cons, not_or] at h
    obtain ⟨hc, hcs⟩ := h
    rw [List.cons_append, pieces, if_neg (Ne.symm hc), ih hcs]

/-- Segments that are written behind slashes, one after the other, are read back. -/
theorem segments?_flatMap {names : List (List Char)} (h : names ≠ []) :
    segments? (names.flatMap fun cs => '/' :: escape cs) = some names := by
  have hpieces : ∀ (cs : List Char) (rest : List (List Char)),
      (pieces (escape cs ++ rest.flatMap fun cs => '/' :: escape cs)).map unescape = cs :: rest := by
    intro cs rest
    induction rest generalizing cs with
    | nil =>
      rw [List.flatMap_nil, List.append_nil, pieces_of_not_mem (not_mem_escape cs), List.map_cons,
        List.map_nil, unescape_escape]
    | cons ds rest ih =>
      rw [List.flatMap_cons, List.cons_append, pieces_append_slash (not_mem_escape cs),
        List.map_cons, unescape_escape, ih]
  cases names with
  | nil => exact absurd rfl h
  | cons cs rest =>
    rw [List.flatMap_cons, List.cons_append, segments?, hpieces]

/-! ## Following -/

theorem follow?_append (ss ts : List (List Char)) (v : Json) :
    follow? (ss ++ ts) v = (follow? ss v).bind (follow? ts) := by
  induction ss generalizing v with
  | nil => rfl
  | cons s ss ih =>
    rw [List.cons_append, follow?, follow?, Option.bind_assoc]
    exact Option.bind_congr fun w _ => ih w

end MessageContract.Pointer
