import MessageContract.Proofs.Url.Percent
import MessageContract.Url.Host

/-!
# Number signs in hosts

What is escaped has no number sign, and a host has none: it is denied in domain names, Punycode does
not make one, and addresses are made of digits (`Url.sign_not_mem_writeHost`).
-/

namespace MessageContract

/-! ## Pieces of texts -/

theorem Text.mem_of_mem_splitAt {sep c : Char} {cs piece : List Char}
    (h : piece ∈ splitAt sep cs) (hc : c ∈ piece) : c ∈ cs := by
  induction cs generalizing piece with
  | nil =>
    rw [splitAt, List.mem_singleton] at h
    rw [h] at hc
    cases hc
  | cons d cs ih =>
    rw [splitAt] at h
    split at h
    · rcases List.mem_cons.1 h with rfl | h
      · cases hc
      · exact List.mem_cons_of_mem d (ih h hc)
    · cases hpieces : splitAt sep cs with
      | nil =>
        rw [hpieces, List.mem_singleton] at h
        rw [h] at hc
        exact List.mem_singleton.1 hc ▸ List.mem_cons_self
      | cons first rest =>
        rw [hpieces] at h
        rcases List.mem_cons.1 h with rfl | h
        · rcases List.mem_cons.1 hc with rfl | hc
          · exact List.mem_cons_self
          · exact List.mem_cons_of_mem d (ih (hpieces ▸ List.mem_cons_self) hc)
        · exact List.mem_cons_of_mem d (ih (hpieces ▸ List.mem_cons_of_mem first h) hc)

theorem Text.mem_intercalate {c : Char} {sep : List Char} {pieces : List (List Char)}
    (h : c ∈ sep.intercalate pieces) : c ∈ sep ∨ ∃ piece ∈ pieces, c ∈ piece := by
  induction pieces with
  | nil => cases h
  | cons piece pieces ih =>
    cases pieces with
    | nil =>
      rw [List.intercalate_singleton] at h
      exact Or.inr ⟨piece, List.mem_cons_self, h⟩
    | cons next rest =>
      rw [List.intercalate_cons_cons, List.mem_append, List.mem_append] at h
      rcases h with (h | h) | h
      · exact Or.inr ⟨piece, List.mem_cons_self, h⟩
      · exact Or.inl h
      · exact (ih h).imp_right fun ⟨p, hp, hc⟩ => ⟨p, List.mem_cons_of_mem piece hp, hc⟩

theorem sign_ne_ofNat {n : Nat} (h : n ≠ 35) : '#' ≠ Char.ofNat n := by
  by_cases hvalid : n.isValidChar
  · have hchar : Char.ofNat n = Char.ofNatAux n hvalid := dif_pos hvalid
    exact fun heq => h (congrArg Char.toNat (heq.trans hchar)).symm
  · have hchar : Char.ofNat n = '\x00' := dif_neg hvalid
    rw [hchar]
    decide

theorem sign_not_mem_toDigits {base : Nat} (hbase : 1 < base) (n : Nat) :
    '#' ∉ Nat.toDigits base n := by
  have hdigit : ∀ n : Nat, '#' ≠ n.digitChar := by
    intro n
    grind [Nat.digitChar]
  induction n using Nat.strongRecOn with
  | _ n ih =>
    rw [Nat.toDigits_eq_if hbase]
    split
    · exact fun h => hdigit n (List.mem_singleton.1 h)
    · next hn =>
      rw [List.mem_append, not_or]
      exact ⟨ih (n / base) (Nat.div_lt_self (by omega) hbase),
        fun h => hdigit _ (List.mem_singleton.1 h)⟩

/-! ## Domain names -/

namespace Punycode

theorem sign_ne_digit (n : Nat) : '#' ≠ digit n := by
  unfold digit
  split
  · exact sign_ne_ofNat (by omega)
  · exact sign_ne_ofNat (by omega)

theorem sign_not_mem_writeNumber (bias k n : Nat) : '#' ∉ writeNumber bias k n := by
  induction n using Nat.strongRecOn generalizing k with
  | _ n ih =>
    rw [writeNumber]
    split
    · exact fun h => sign_ne_digit _ (List.mem_singleton.1 h)
    · next hn =>
      have ht : 1 ≤ threshold bias k := by
        unfold threshold
        split <;> (try split) <;> omega
      have := Nat.div_le_self (n - threshold bias k) (36 - threshold bias k)
      rw [List.mem_cons, not_or]
      exact ⟨sign_ne_digit _, ih _ (by omega) (k + 36)⟩

theorem Writer.sign_not_mem_add {w : Writer} (h : '#' ∉ w.out) (basic : Nat) (c : Char) :
    '#' ∉ (w.add basic c).out := by
  unfold Writer.add
  split
  · exact h
  · split
    · exact fun hmem => (List.mem_append.1 hmem).elim h (sign_not_mem_writeNumber _ _ _)
    · exact h

theorem Writer.sign_not_mem_round {w : Writer} (h : '#' ∉ w.out) (basic : Nat) (cs : List Char)
    (code : Nat) : '#' ∉ (w.round basic cs code).out := by
  have hfold : ∀ w : Writer, '#' ∉ w.out → '#' ∉ (cs.foldl (Writer.add basic) w).out := by
    induction cs with
    | nil => exact fun w hw => hw
    | cons c cs ih => exact fun w hw => ih _ (Writer.sign_not_mem_add hw basic c)
  exact hfold _ h

/-- Punycode has no number sign if the text has none. -/
theorem sign_not_mem_encode {cs : List Char} (h : '#' ∉ cs) : '#' ∉ encode cs := by
  have hrounds : ∀ (codes : List Nat) (w : Writer), '#' ∉ w.out →
      '#' ∉ (codes.foldl (Writer.round (cs.filter isBasic).length cs) w).out := by
    intro codes
    induction codes with
    | nil => exact fun w hw => hw
    | cons code codes ih => exact fun w hw => ih _ (Writer.sign_not_mem_round hw _ cs code)
  refine hrounds _ _ ?_
  show '#' ∉ if (cs.filter isBasic).isEmpty then [] else cs.filter isBasic ++ ['-']
  split
  · exact List.not_mem_nil
  · simp [h]

end Punycode

namespace Domain

theorem exists_of_mem_mapM {α β : Type} {f : α → Option β} {xs : List α} {ys : List β}
    (h : xs.mapM f = some ys) {y : β} (hy : y ∈ ys) : ∃ x ∈ xs, f x = some y := by
  induction xs generalizing ys with
  | nil =>
    obtain rfl := Option.some.inj h
    cases hy
  | cons x xs ih =>
    rw [List.mapM_cons] at h
    obtain ⟨z, hz, h⟩ := Option.bind_eq_some_iff.1 h
    obtain ⟨zs, hzs, h⟩ := Option.bind_eq_some_iff.1 h
    obtain rfl := Option.some.inj h
    rcases List.mem_cons.1 hy with rfl | hy
    · exact ⟨x, List.mem_cons_self, hz⟩
    · obtain ⟨x', hx', hfx⟩ := ih hzs hy
      exact ⟨x', List.mem_cons_of_mem x hx', hfx⟩

theorem not_mem_of_label? {rules : Rules} {cs label : List Char} {c : Char}
    (hc : rules.denies c = true) (hcs : c ∉ cs) (h : label? rules cs = some label) :
    c ∉ label := by
  obtain ⟨h, -⟩ := Option.filter_eq_some_iff.1 h
  split at h
  · next rest _ =>
    unfold ofPunycode? at h
    split at h
    · cases h
    · obtain ⟨-, hlabel⟩ := Option.filter_eq_some_iff.1 h
      simp only [Bool.and_eq_true, Bool.not_eq_true', List.any_eq_false, Bool.or_eq_true,
        not_or] at hlabel
      exact fun hmem => (hlabel.2 c hmem).2 hc
  · exact Option.some.inj h ▸ hcs

/-- No label has a character that is denied. -/
theorem not_mem_of_labels? {rules : Rules} {cs : List Char} {labels : List (List Char)} {c : Char}
    (hc : rules.denies c = true) (h : labels? rules cs = some labels) :
    ∀ label ∈ labels, c ∉ label := by
  obtain ⟨images, -, h⟩ := Option.bind_eq_some_iff.1 h
  dsimp only at h
  split at h
  · cases h
  · next hmapped =>
    obtain ⟨labels', hlabels, h⟩ := Option.bind_eq_some_iff.1 h
    split at h
    · cases h
    · obtain rfl := Option.some.inj h
      intro label hlabel
      obtain ⟨piece, hpiece, hlabel⟩ := exists_of_mem_mapM hlabels hlabel
      refine not_mem_of_label? hc (fun hmem => hmapped ?_) hlabel
      exact List.any_eq_true.2 ⟨c, Text.mem_of_mem_splitAt hpiece hmem, hc⟩

/-- A domain name in ASCII has no number sign if its labels have none. -/
theorem sign_not_mem_write {labels : List (List Char)} (h : ∀ label ∈ labels, '#' ∉ label) :
    '#' ∉ write (labels.map asciiLabel) := by
  intro hmem
  rcases Text.mem_intercalate hmem with hdot | ⟨piece, hpiece, hmem⟩
  · exact absurd hdot (by decide)
  · obtain ⟨label, hlabel, rfl⟩ := List.mem_map.1 hpiece
    unfold asciiLabel at hmem
    split at hmem
    · exact h label hlabel hmem
    · rcases List.mem_append.1 hmem with hmark | hmem
      · exact absurd hmark (by decide)
      · exact Punycode.sign_not_mem_encode (h label hlabel) hmem

end Domain

namespace Url

/-! ## Parts as they are written -/

/-- Escapes have no number sign, so one that is left stood in the text and is not escaped. -/
theorem sign_mem_encode {special : Char → Bool} {cs : List Char} (h : '#' ∈ encode special cs) :
    '#' ∈ cs ∧ special '#' = false :=
  mem_of_mem_encode (by decide) (by decide) h

theorem sign_not_mem_encode {special : Char → Bool} (h : special '#' = true) (cs : List Char) :
    '#' ∉ encode special cs :=
  fun hmem => Bool.false_ne_true ((sign_mem_encode hmem).2.symm.trans h)

theorem sign_not_mem_writeIpv6 (ps : List Nat) : '#' ∉ (writeIpv6 ps).toList := by
  have hpieces : ∀ qs : List Nat,
      '#' ∉ (String.intercalate ":" (qs.map hexPiece)).toList := by
    intro qs hmem
    rw [String.toList_intercalate] at hmem
    rcases Text.mem_intercalate hmem with hcolon | ⟨piece, hpiece, hmem⟩
    · exact absurd hcolon (by decide)
    · simp only [List.map_map, List.mem_map, Function.comp_apply] at hpiece
      obtain ⟨n, -, rfl⟩ := hpiece
      rw [hexPiece, String.toList_ofList] at hmem
      exact sign_not_mem_toDigits (by decide) n hmem
  unfold writeIpv6
  dsimp only
  split
  · simp only [String.toList_append, List.mem_append, hpieces, or_false]
    decide
  · simp only [String.toList_append, List.mem_append, hpieces, or_false, false_or]
    decide

/-- A host has no number sign. -/
theorem sign_not_mem_writeHost {cs : List Char} {host : String} (h : writeHost cs = .ok host) :
    '#' ∉ host.toList := by
  unfold writeHost at h
  split at h
  · split at h
    · cases h
    · split at h
      · obtain rfl := Except.ok.inj h
        exact sign_not_mem_writeIpv6 _
      · cases h
  · dsimp only at h
    split at h
    · cases h
    · cases h
    · next labels _ hlabels =>
      have hdomain : '#' ∉ Domain.write (labels.map Domain.asciiLabel) := by
        obtain ⟨text, -, hlabels⟩ := Option.bind_eq_some_iff.1 hlabels
        exact Domain.sign_not_mem_write (Domain.not_mem_of_labels? (by decide) hlabels)
      split at h
      · split at h
        · obtain rfl := Except.ok.inj h
          simp [writeIpv4, sign_not_mem_toDigits]
        · cases h
      · obtain rfl := Except.ok.inj h
        rwa [String.toList_ofList]

theorem sign_not_mem_writePlainHost {cs : List Char} {host : String}
    (h : writePlainHost cs = .ok host) : '#' ∉ host.toList := by
  unfold writePlainHost at h
  split at h
  · exact sign_not_mem_writeHost h
  · split at h
    · cases h
    · next hany =>
      obtain rfl := Except.ok.inj h
      rw [String.toList_ofList]
      intro hmem
      exact hany (List.any_eq_true.2 ⟨'#', (sign_mem_encode hmem).1, by decide⟩)

end Url
end MessageContract
