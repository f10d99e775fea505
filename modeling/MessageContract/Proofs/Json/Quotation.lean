import MessageContract.Json.Printer
import MessageContract.Json.Reader

/-!
# Strings in quotes

The reader takes a character back from its escape, whatever follows (`Json.readEscape_escape`), and
so a string from its text in quotes (`Json.readString_quote`). So escaping loses nothing
(`Json.flatMap_escape_injective`), and an escape that breaks off is never the end of an escaped
text (`Json.flatMap_escape_ne_dangling`).
-/

namespace MessageContract.Json

variable {c : Char} {s t : List Char} {rest : List Char} {line column k : Nat} {acc : List Char}

/-- A character that stands for itself inside a string. -/
def isVerbatim (c : Char) : Bool := c != '"' && c != '\\' && 32 ≤ c.toNat

theorem escape_of_isVerbatim (h : isVerbatim c = true) : escape c = [c] := by
  simp only [isVerbatim, Bool.and_eq_true, bne_iff_ne, ne_eq, decide_eq_true_eq] at h
  obtain ⟨⟨hquote, hslash⟩, hlow⟩ := h
  have hcontrol : ∀ d : Char, d.toNat < 32 → c ≠ d := by
    intro d hd hc
    rw [hc] at hlow
    omega
  simp [escape, hquote, hslash, hcontrol '\n' (by decide), hcontrol '\r' (by decide),
    hcontrol '\t' (by decide), show c.toNat ≠ 8 by omega, show c.toNat ≠ 12 by omega,
    show ¬c.toNat < 32 by omega]

/-- The quote, the backslash, and the control characters. -/
theorem eq_of_not_isVerbatim (h : isVerbatim c = false) :
    c = '"' ∨ c = '\\' ∨ ∃ n < 32, c = Char.ofNat n := by
  simp only [isVerbatim, Bool.and_eq_false_iff, bne_eq_false_iff_eq, decide_eq_false_iff_not,
    Nat.not_le] at h
  obtain (h | h) | h := h
  · exact .inl h
  · exact .inr (.inl h)
  · exact .inr (.inr ⟨c.toNat, h, (Char.ofNat_toNat c).symm⟩)

/-! ## Reading one escape -/

theorem hexValue?_hexDigit : ∀ n < 16, hexValue? (hexDigit n) = some n := by
  decide

/-- A character has at least one byte, so four characters are enough for four digits. -/
theorem le_bytesLeft (cs : List Char) (n : Nat) :
    n ≤ cs.foldl (fun n ch => n + ch.utf8Size) n := by
  induction cs generalizing n with
  | nil => exact Nat.le_refl n
  | cons c cs ih => exact Nat.le_trans (Nat.le_add_right n c.utf8Size) (ih _)

theorem readHex_of_digits {a b d e : Char} {w x y z : Nat} (ha : hexValue? a = some w)
    (hb : hexValue? b = some x) (hd : hexValue? d = some y) (he : hexValue? e = some z) :
    readHex ⟨a :: b :: d :: e :: rest, line, column⟩ =
      .ok (((w * 16 + x) * 16 + y) * 16 + z,
        (⟨a :: b :: d :: e :: rest, line, column⟩ : Cursor).next.next.next.next) := by
  have hleft : ¬bytesLeft ⟨a :: b :: d :: e :: rest, line, column⟩ < 4 := by
    have hmore := le_bytesLeft rest (0 + a.utf8Size + b.utf8Size + d.utf8Size + e.utf8Size)
    have := a.utf8Size_pos
    have := b.utf8Size_pos
    have := d.utf8Size_pos
    have := e.utf8Size_pos
    simp only [bytesLeft, List.foldl_cons]
    omega
  rw [readHex, if_neg hleft]
  simp [ha, hb, hd, he]

theorem exists_next (ch : Char) (rest : List Char) (line column : Nat) :
    ∃ l col, (⟨ch :: rest, line, column⟩ : Cursor).next = ⟨rest, l, col⟩ := by
  by_cases h : ch = '\n'
  · exact ⟨line + 1, 0, by simp [Cursor.next, h]⟩
  · exact ⟨line, column + ch.utf8Size, by simp [Cursor.next, h]⟩

/-- Control characters without a letter of their own are escaped by their number. -/
theorem escape_ofNat : ∀ n < 32, n ∉ [8, 9, 10, 12, 13] →
    escape (Char.ofNat n) = ['\\', 'u', '0', '0', hexDigit (n / 16), hexDigit (n % 16)] := by
  decide

theorem readEscape_number {n : Nat} (h : n < 32) (rest : List Char) (line column : Nat) :
    ∃ l col, readEscape ⟨'u' :: '0' :: '0' :: hexDigit (n / 16) :: hexDigit (n % 16) :: rest,
      line, column⟩ = .ok (Char.ofNat n, ⟨rest, l, col⟩) := by
  have hhigh := hexValue?_hexDigit (n / 16) (by omega)
  have hlow := hexValue?_hexDigit (n % 16) (by omega)
  have hzero : hexValue? '0' = some 0 := by decide
  have hn : ((0 * 16 + 0) * 16 + n / 16) * 16 + n % 16 = n := by omega
  have hread : readHex ⟨'0' :: '0' :: hexDigit (n / 16) :: hexDigit (n % 16) :: rest, line,
      column + 1⟩ = .ok (n, (⟨hexDigit (n / 16) :: hexDigit (n % 16) :: rest, line,
        column + 3⟩ : Cursor).next.next) := by
    rw [readHex_of_digits hzero hzero hhigh hlow, hn]
    rfl
  obtain ⟨l, col, hfirst⟩ :=
    exists_next (hexDigit (n / 16)) (hexDigit (n % 16) :: rest) line (column + 3)
  obtain ⟨l', col', hsecond⟩ := exists_next (hexDigit (n % 16)) rest l col
  rw [hfirst, hsecond] at hread
  refine ⟨l', col', ?_⟩
  change (readHex ⟨'0' :: '0' :: hexDigit (n / 16) :: hexDigit (n % 16) :: rest, line,
    column + 1⟩).bind (fun r =>
      if 0xDC00 ≤ r.1 && r.1 ≤ 0xDFFF then .error (r.2.fail .loneSurrogate)
      else if r.1 < 0xD800 || 0xDBFF < r.1 then .ok (Char.ofNat r.1, r.2)
      else readLowSurrogate r.1 r.2) = _
  rw [hread]
  have hlone : ¬0xDC00 ≤ n := by omega
  have hhalf : n < 0xD800 := by omega
  simp [Except.bind, hlone, hhalf]

/-- An escape is a backslash and more, from which the reader takes the character back. -/
theorem readEscape_escape (h : isVerbatim c = false) : ∃ d ds, escape c = '\\' :: d :: ds ∧
    ∀ rest line column, ∃ l col,
      readEscape ⟨d :: (ds ++ rest), line, column⟩ = .ok (c, ⟨rest, l, col⟩) := by
  obtain rfl | rfl | ⟨n, hn, rfl⟩ := eq_of_not_isVerbatim h
  · exact ⟨'"', [], rfl, fun _ _ _ => ⟨_, _, rfl⟩⟩
  · exact ⟨'\\', [], rfl, fun _ _ _ => ⟨_, _, rfl⟩⟩
  · by_cases hletter : n ∈ [8, 9, 10, 12, 13]
    · simp only [List.mem_cons, List.not_mem_nil, or_false] at hletter
      obtain rfl | rfl | rfl | rfl | rfl := hletter
      · exact ⟨'b', [], rfl, fun _ _ _ => ⟨_, _, rfl⟩⟩
      · exact ⟨'t', [], rfl, fun _ _ _ => ⟨_, _, rfl⟩⟩
      · exact ⟨'n', [], rfl, fun _ _ _ => ⟨_, _, rfl⟩⟩
      · exact ⟨'f', [], rfl, fun _ _ _ => ⟨_, _, rfl⟩⟩
      · exact ⟨'r', [], rfl, fun _ _ _ => ⟨_, _, rfl⟩⟩
    · exact ⟨'u', ['0', '0', hexDigit (n / 16), hexDigit (n % 16)], escape_ofNat n hn hletter,
        readEscape_number hn⟩

/-! ## Reading a string -/

theorem readString_of_isVerbatim (h : isVerbatim c = true) :
    readString (k + 1) acc ⟨c :: rest, line, column⟩ =
      readString k (c :: acc) (⟨c :: rest, line, column⟩ : Cursor).next := by
  simp only [isVerbatim, Bool.and_eq_true, bne_iff_ne, ne_eq, decide_eq_true_eq] at h
  obtain ⟨⟨hquote, hslash⟩, hlow⟩ := h
  have hlow' : ¬c.toNat < 32 := by omega
  rw [readString]
  split
  · next heq => simp at heq
  · next heq =>
    simp only [List.cons.injEq] at heq
    exact absurd heq.1 hquote
  · next heq =>
    simp only [List.cons.injEq] at heq
    exact absurd heq.1 hslash
  · next ch _ _ _ heq =>
    simp only [List.cons.injEq] at heq
    rw [← heq.1, if_neg hlow']

/-- One step takes one character back. -/
theorem readString_escape (c : Char) (k : Nat) (acc rest : List Char) (line column : Nat) :
    ∃ l col, readString (k + 1) acc ⟨escape c ++ rest, line, column⟩ =
      readString k (c :: acc) ⟨rest, l, col⟩ := by
  cases h : isVerbatim c with
  | true =>
    obtain ⟨l, col, hnext⟩ := exists_next c rest line column
    refine ⟨l, col, ?_⟩
    rw [escape_of_isVerbatim h, List.singleton_append, readString_of_isVerbatim h, hnext]
  | false =>
    obtain ⟨d, ds, hescape, hread⟩ := readEscape_escape h
    obtain ⟨l, col, hread⟩ := hread rest line (column + 1)
    refine ⟨l, col, ?_⟩
    rw [hescape]
    change (readEscape ⟨d :: (ds ++ rest), line, column + 1⟩).bind (fun r =>
      readString k (r.1 :: acc) r.2) = _
    rw [hread]
    rfl

/-- As many steps as there are characters take all of them back. -/
theorem readString_escaped (s : List Char) (k : Nat) (acc rest : List Char) (line column : Nat) :
    ∃ l col, readString (s.length + k) acc ⟨s.flatMap escape ++ rest, line, column⟩ =
      readString k (s.reverse ++ acc) ⟨rest, l, col⟩ := by
  induction s generalizing acc line column with
  | nil => exact ⟨line, column, by simp⟩
  | cons c s ih =>
    obtain ⟨l, col, hstep⟩ :=
      readString_escape c (s.length + k) acc (s.flatMap escape ++ rest) line column
    obtain ⟨l', col', hrest⟩ := ih (c :: acc) l col
    refine ⟨l', col', ?_⟩
    rw [List.flatMap_cons, List.append_assoc, List.length_cons, Nat.add_right_comm, hstep, hrest]
    simp

/-- A string is read back from its text, whatever follows the closing quote. -/
theorem readString_quote (s : List Char) (k : Nat) (rest : List Char) (line column : Nat) :
    ∃ l col, readString (s.length + (k + 1)) [] ⟨s.flatMap escape ++ '"' :: rest, line, column⟩ =
      .ok (String.ofList s, ⟨rest, l, col⟩) := by
  obtain ⟨l, col, hread⟩ := readString_escaped s (k + 1) [] ('"' :: rest) line column
  refine ⟨l, col + 1, ?_⟩
  rw [hread, List.append_nil]
  change Except.ok (String.ofList s.reverse.reverse, _) = _
  rw [List.reverse_reverse]
  rfl

/-- Escaping loses nothing. -/
theorem flatMap_escape_injective (h : s.flatMap escape = t.flatMap escape) : s = t := by
  obtain ⟨l, col, hs⟩ := readString_quote s t.length [] 0 0
  obtain ⟨l', col', ht⟩ := readString_quote t s.length [] 0 0
  rw [h, show s.length + (t.length + 1) = t.length + (s.length + 1) by omega, ht] at hs
  simp only [Except.ok.injEq, Prod.mk.injEq, String.ofList_inj] at hs
  exact hs.1.symm

/-- An escape that breaks off after its backslash does not end an escaped text: with a quote behind
it the string goes on, while the escaped text ends there. -/
theorem flatMap_escape_ne_dangling : s.flatMap escape ≠ t.flatMap escape ++ ['\\'] := by
  intro h
  obtain ⟨l, col, hs⟩ := readString_quote s (t.length + 1) [] 0 0
  obtain ⟨l', col', ht⟩ := readString_escaped (t ++ ['"']) (s.length + 1) [] [] 0 0
  have htext : s.flatMap escape ++ ['"'] = (t ++ ['"']).flatMap escape ++ [] := by
    rw [h]
    simp [escape]
  rw [htext, show s.length + (t.length + 1 + 1) = (t ++ ['"']).length + (s.length + 1) by
    simp only [List.length_append, List.length_singleton]; omega, ht] at hs
  simp [readString] at hs

end MessageContract.Json
