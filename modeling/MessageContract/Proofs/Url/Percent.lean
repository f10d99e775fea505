import MessageContract.Proofs.Utf8
import MessageContract.Url.Percent

/-!
# Percent escapes

Undoing escapes gives back what was escaped: the text, if percent signs were escaped too
(`Url.decodeBytes_encode`), and otherwise what the text itself decodes to
(`Url.decodeBytes_encode_of_digits`). So escaping never makes a text read as another one.
-/

namespace MessageContract.Url

variable {special : Char → Bool} {c d : Char} {cs ds : List Char}

/-! ## Digits and bytes -/

theorem hexDigit?_upperHex : ∀ n < 16, hexDigit? (upperHex n) = some n := by
  decide

/-- An escaped byte is read back. -/
theorem decodeBytes_escapeByte (b : UInt8) (rest : List Char) :
    decodeBytes (escapeByte b ++ rest) = b :: decodeBytes rest := by
  have hb : b.toNat < 256 := b.toNat_lt
  have hhigh := hexDigit?_upperHex (b.toNat / 16) (by omega)
  have hlow := hexDigit?_upperHex (b.toNat % 16) (by omega)
  have hvalue : b.toNat / 16 * 16 + b.toNat % 16 = b.toNat := by omega
  show decodeBytes ('%' :: upperHex (b.toNat / 16) :: upperHex (b.toNat % 16) :: rest) = _
  rw [decodeBytes, hhigh, hlow]
  dsimp only
  rw [hvalue, UInt8.ofNat_toNat]

theorem decodeBytes_escapeBytes (bytes : List UInt8) (rest : List Char) :
    decodeBytes (bytes.flatMap escapeByte ++ rest) = bytes ++ decodeBytes rest := by
  induction bytes with
  | nil => rfl
  | cons b bytes ih =>
    rw [List.flatMap_cons, List.append_assoc, decodeBytes_escapeByte, ih, List.cons_append]

theorem decodeBytes_cons {c : Char} (hc : c ≠ '%') (rest : List Char) :
    decodeBytes (c :: rest) = Utf8.encode (String.singleton c) ++ decodeBytes rest := by
  rw [decodeBytes.eq_def]
  split
  · next heq => cases heq
  · next heq => exact absurd (List.cons.inj heq).1 hc
  · next heq =>
    obtain ⟨rfl, rfl⟩ := List.cons.inj heq
    rfl

theorem encode_cons (special : Char → Bool) (c : Char) (cs : List Char) :
    encode special (c :: cs) =
      (if special c || 0x7F < c.toNat then (Utf8.encode (String.singleton c)).flatMap escapeByte
        else [c]) ++ encode special cs :=
  List.flatMap_cons

theorem encode_append (special : Char → Bool) (cs ds : List Char) :
    encode special (cs ++ ds) = encode special cs ++ encode special ds :=
  List.flatMap_append

/-- Where percent signs are escaped, undoing the escapes gives the text back. -/
theorem decodeBytes_encode {special : Char → Bool} (h : special '%' = true) (cs : List Char) :
    decodeBytes (encode special cs) = cs.flatMap String.utf8EncodeChar := by
  induction cs with
  | nil => rfl
  | cons c cs ih =>
    rw [encode_cons, List.flatMap_cons, ← Utf8.encode_singleton]
    split
    · rw [decodeBytes_escapeBytes, ih]
    · next hc =>
      have hne : c ≠ '%' := by
        rintro rfl
        simp [h] at hc
      rw [List.singleton_append, decodeBytes_cons hne, ih]

/-! ## Texts with escapes of their own -/

/-- The two digits of an escape stand at the start of a text. -/
def StartsWithDigits (cs : List Char) : Prop :=
  ∃ a b rest x y, cs = a :: b :: rest ∧ hexDigit? a = some x ∧ hexDigit? b = some y

theorem decodeBytes_escape {a b : Char} {x y : Nat} (ha : hexDigit? a = some x)
    (hb : hexDigit? b = some y) (rest : List Char) :
    decodeBytes ('%' :: a :: b :: rest) = UInt8.ofNat (x * 16 + y) :: decodeBytes rest := by
  rw [decodeBytes, ha, hb]

/-- A percent sign that begins no escape stands for itself. -/
theorem decodeBytes_percent (h : ¬ StartsWithDigits cs) :
    decodeBytes ('%' :: cs) = 0x25 :: decodeBytes cs := by
  have hsign : Utf8.encode (String.singleton '%') = [0x25] := by
    rw [Utf8.encode_singleton]
    decide
  match cs with
  | [] =>
    rw [decodeBytes.eq_def, decodeBytes]
    exact congrArg (· ++ []) hsign
  | [a] =>
    rw [decodeBytes.eq_def]
    exact congrArg (· ++ decodeBytes [a]) hsign
  | a :: b :: rest =>
    rw [decodeBytes]
    split
    · next x y ha hb => exact absurd ⟨a, b, rest, x, y, rfl, ha, hb⟩ h
    · rfl

theorem toNat_le_of_hexDigit? {n : Nat} (h : hexDigit? c = some n) : c.toNat ≤ 0x7F := by
  unfold hexDigit? at h
  repeat' split at h
  case isFalse.isFalse.isFalse => cases h
  all_goals
    rename_i hc
    exact Nat.le_trans hc.2 (by decide)

theorem encode_cons_of_kept (hc : special c = false) (hascii : c.toNat ≤ 0x7F) (cs : List Char) :
    encode special (c :: cs) = c :: encode special cs := by
  rw [encode_cons, if_neg (by simp [hc, hascii])]
  rfl

/-- Escaping makes no hexadecimal digits at the start of a text. -/
theorem eq_of_encode_cons {n : Nat} (h : encode special (c :: cs) = d :: ds)
    (hd : hexDigit? d = some n) : d = c ∧ ds = encode special cs := by
  rw [encode_cons] at h
  split at h
  · -- an escape begins with a percent sign
    obtain ⟨b, bytes, hbytes⟩ := List.exists_cons_of_ne_nil
      (Utf8.encode_singleton c ▸ String.utf8EncodeChar_ne_nil)
    rw [hbytes, List.flatMap_cons] at h
    rw [← (List.cons.inj h).1] at hd
    cases hd
  · exact ⟨(List.cons.inj h).1.symm, (List.cons.inj h).2.symm⟩

theorem StartsWithDigits.of_encode (h : StartsWithDigits (encode special cs)) :
    StartsWithDigits cs := by
  obtain ⟨a, b, rest, x, y, heq, ha, hb⟩ := h
  match cs with
  | [] => cases heq
  | [c] =>
    obtain ⟨-, hrest⟩ := eq_of_encode_cons heq ha
    cases hrest
  | c :: d :: ds =>
    obtain ⟨rfl, hrest⟩ := eq_of_encode_cons heq ha
    obtain ⟨rfl, -⟩ := eq_of_encode_cons hrest.symm hb
    exact ⟨a, b, ds, x, y, rfl, ha, hb⟩

/-- Where neither percent signs nor digits are escaped, escaping does not change what a text decodes
to. -/
theorem decodeBytes_encode_of_digits (hpercent : special '%' = false)
    (hdigits : ∀ c n, hexDigit? c = some n → special c = false) (cs : List Char) :
    decodeBytes (encode special cs) = decodeBytes cs := by
  have hsign := fun cs => encode_cons_of_kept hpercent (by decide) cs
  have hdigit : ∀ {c n} cs, hexDigit? c = some n →
      encode special (c :: cs) = c :: encode special cs :=
    fun cs h => encode_cons_of_kept (hdigits _ _ h) (toNat_le_of_hexDigit? h) cs
  induction cs using decodeBytes.induct with
  | case1 => rfl
  | case2 a b rest x y hb ha ih =>
    rw [hsign, hdigit _ ha, hdigit _ hb, decodeBytes_escape ha hb, decodeBytes_escape ha hb, ih]
  | case3 a b rest hab ih =>
    have hstart : ¬ StartsWithDigits (a :: b :: rest) := by
      rintro ⟨a, b, rest, x, y, heq, ha, hb⟩
      cases heq
      exact hab x y ha hb
    rw [hsign, decodeBytes_percent hstart, decodeBytes_percent fun h => hstart h.of_encode, ih]
  | case4 c cs hc ih =>
    by_cases hsigned : c = '%'
    · subst hsigned
      have hstart : ¬ StartsWithDigits cs := by
        rintro ⟨a, b, rest, x, y, rfl, -⟩
        exact hc a b rest rfl rfl
      rw [hsign, decodeBytes_percent hstart, decodeBytes_percent fun h => hstart h.of_encode, ih]
    · rw [encode_cons, decodeBytes_cons hsigned]
      split
      · rw [decodeBytes_escapeBytes, ih]
      · rw [List.singleton_append, decodeBytes_cons hsigned, ih]

/-- A character that no escape is made of stood in the text, and is not escaped. -/
theorem mem_of_mem_encode (hpercent : c ≠ '%') (hdigits : ∀ n < 16, c ≠ upperHex n)
    (h : c ∈ encode special cs) : c ∈ cs ∧ special c = false := by
  obtain ⟨d, hd, h⟩ := List.mem_flatMap.1 h
  split at h
  · obtain ⟨b, -, h⟩ := List.mem_flatMap.1 h
    have hb : b.toNat < 256 := b.toNat_lt
    have hhigh := hdigits (b.toNat / 16) (by omega)
    have hlow := hdigits (b.toNat % 16) (by omega)
    simp [escapeByte, hpercent, hhigh, hlow] at h
  · next hplain =>
    obtain rfl := List.mem_singleton.1 h
    simp only [Bool.or_eq_true, not_or, Bool.not_eq_true] at hplain
    exact ⟨hd, hplain.1⟩

/-! ## Dots -/

/-- The spellings of a dot. -/
def dots : List (List Char) := [['.'], ['%', '2', 'e'], ['%', '2', 'E']]

theorem hexDigit?_cases {n : Nat} (h : hexDigit? c = some n) :
    n < 16 ∧ (n = 2 → c = '2') ∧ (n = 14 → c = 'e' ∨ c = 'E') := by
  have hascii : ∀ k < 128, ∀ n ∈ hexDigit? (Char.ofNat k), n < 16 ∧
      (n = 2 → Char.ofNat k = '2') ∧ (n = 14 → Char.ofNat k = 'e' ∨ Char.ofNat k = 'E') := by
    decide
  have hc := hascii c.toNat (Nat.lt_succ_of_le (toNat_le_of_hexDigit? h))
  rw [Char.ofNat_toNat] at hc
  exact hc n h

/-- What decodes to a text with a dot in front begins with one, in some spelling. -/
theorem exists_dot {bytes : List UInt8} (h : decodeBytes cs = 0x2E :: bytes) :
    ∃ head ∈ dots, ∃ rest, cs = head ++ rest ∧ decodeBytes rest = bytes := by
  rw [decodeBytes.eq_def] at h
  split at h
  · cases h
  · next a b rest =>
    split at h
    · next x y ha hb =>
      obtain ⟨hbyte, hrest⟩ := List.cons.inj h
      have hvalue := congrArg UInt8.toNat hbyte
      rw [UInt8.toNat_ofNat', show (0x2E : UInt8).toNat = 46 from rfl] at hvalue
      obtain ⟨hx, htwo, -⟩ := hexDigit?_cases ha
      obtain ⟨hy, -, hletter⟩ := hexDigit?_cases hb
      obtain rfl := htwo (by omega)
      obtain rfl | rfl := hletter (by omega)
      · exact ⟨['%', '2', 'e'], by decide, rest, rfl, hrest⟩
      · exact ⟨['%', '2', 'E'], by decide, rest, rfl, hrest⟩
    · exact absurd (List.cons.inj h).1 (by decide)
  · next c rest _ =>
    rw [Utf8.encode_singleton] at h
    have hhead : (String.utf8EncodeChar c).head? = some 0x2E := by
      rw [← List.head?_append_of_ne_nil _ String.utf8EncodeChar_ne_nil, h]
      rfl
    obtain rfl := (Utf8.head?_encodeChar_eq_iff (d := '.') (by decide)).1 hhead
    exact ⟨['.'], by decide, rest, rfl, (List.cons.inj h).2⟩

theorem eq_nil_of_decodeBytes (h : decodeBytes cs = []) : cs = [] := by
  rw [decodeBytes.eq_def] at h
  split at h
  · rfl
  · split at h <;> cases h
  · rw [Utf8.encode_singleton] at h
    exact absurd (List.append_eq_nil_iff.1 h).1 String.utf8EncodeChar_ne_nil

/-- What decodes to two dots is two dots, each in some spelling. -/
theorem exists_dots (h : decodeBytes cs = [0x2E, 0x2E]) :
    ∃ first ∈ dots, ∃ second ∈ dots, cs = first ++ second := by
  obtain ⟨first, hfirst, rest, rfl, hrest⟩ := exists_dot h
  obtain ⟨second, hsecond, tail, rfl, htail⟩ := exists_dot hrest
  refine ⟨first, hfirst, second, hsecond, ?_⟩
  rw [eq_nil_of_decodeBytes htail, List.append_nil]

end MessageContract.Url
