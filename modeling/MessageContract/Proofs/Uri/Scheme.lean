import MessageContract.Proofs.Except
import MessageContract.Uri.Resolve

/-!
# Schemes of references

A text that starts with a scheme names the same from every base, and that has this scheme
(`Uri.scheme_of_join`).
-/

namespace MessageContract.Uri

variable {s : Charset} {u u' : Uri} {cs : List Char}

theorem scheme_of_finish (h : finish u cs = .ok u') : u'.scheme = u.scheme := by
  cases cs with
  | nil =>
    cases h
    rfl
  | cons c cs => cases h

theorem scheme_of_readPath (h : readPath s u cs = .ok u') : u'.scheme = u.scheme := by
  obtain ⟨⟨path, rest⟩, -, h⟩ := bind_eq_ok h
  dsimp only at h
  split at h
  · cases h
  -- with a query and without one
  split at h <;> obtain ⟨x, hx, h⟩ := bind_eq_ok h
  · obtain ⟨_, -, rfl⟩ := map_eq_ok hx
    split at h
    · obtain ⟨_, -, h⟩ := bind_eq_ok h
      exact (scheme_of_finish h).trans rfl
    · exact (scheme_of_finish h).trans rfl
  · cases hx
    split at h
    · obtain ⟨_, -, h⟩ := bind_eq_ok h
      exact (scheme_of_finish h).trans rfl
    · exact (scheme_of_finish h).trans rfl

theorem scheme_of_readAuthority (h : readAuthority s u cs = .ok u') : u'.scheme = u.scheme := by
  obtain ⟨⟨taken, rest⟩, -, h⟩ := bind_eq_ok h
  dsimp only at h
  split at h
  · split at h <;>
    · obtain ⟨_, -, h⟩ := bind_eq_ok h
      exact (scheme_of_readPath h).trans rfl
  · obtain ⟨_, -, h⟩ := bind_eq_ok h
    exact (scheme_of_readPath h).trans rfl
  · split at h
    · cases h
    · split at h
      · exact (scheme_of_readPath h).trans rfl
      · cases h

/-- The scheme in front of a text is that of the reference. -/
theorem scheme_of_reference {text : String} {c : Char} {scheme rest : List Char}
    (htext : text.toList = c :: scheme ++ ':' :: rest)
    (hscheme : ∀ x ∈ c :: scheme, inScheme x = true) (h : reference text = .ok u) :
    u.scheme = some (String.ofList (c :: scheme)) := by
  have hcolon : inScheme ':' = false := by decide
  have htake : text.toList.takeWhile inScheme = c :: scheme := by
    rw [htext, List.takeWhile_append_of_pos hscheme, List.takeWhile_cons_of_neg (by simp [hcolon]),
      List.append_nil]
  have hdrop : text.toList.drop (c :: scheme).length = ':' :: rest := by
    rw [htext, List.drop_left]
  rw [reference, parse] at h
  simp only [htake, hdrop] at h
  split at h
  · cases h
  · split at h
    · exact scheme_of_readAuthority h
    · exact scheme_of_readPath h

/-- A text that starts with a scheme names the same from every base. -/
theorem eq_of_join {base r : Uri} {text : String} (hhash : text.startsWith "#" = false)
    (href : reference text = .ok r) (hscheme : r.scheme.isSome = true)
    (h : base.join text = .ok u) :
    u = ({ r with path := plainPath r.path } : Uri).normalize := by
  rw [join, hhash, Bool.false_and, if_neg (by decide), href] at h
  dsimp only at h
  split at h
  · cases h
  · split at h
    · cases h
    · rw [← Except.ok.inj h, resolve, if_pos hscheme]

theorem scheme_of_join {base : Uri} {text : String} {c : Char} {scheme rest : List Char}
    (htext : text.toList = c :: scheme ++ ':' :: rest)
    (hscheme : (c :: scheme).all inScheme = true) (h : base.join text = .ok u) :
    u.scheme = some (String.ofList (c :: scheme)).toLower := by
  have hall := List.all_eq_true.1 hscheme
  have hc : inScheme c = true := hall c List.mem_cons_self
  have hhash : text.startsWith "#" = false := by
    rw [← Bool.not_eq_true, String.startsWith_string_iff, htext]
    rintro ⟨t, ht⟩
    have heq : '#' = c := (List.cons.inj ht).1
    rw [← heq] at hc
    exact absurd hc (by decide)
  have h' := h
  rw [join, hhash, Bool.false_and, if_neg (by decide)] at h'
  cases href : reference text with
  | error e =>
    rw [href] at h'
    cases h'
  | ok r =>
    have hr := scheme_of_reference htext hall href
    rw [eq_of_join hhash href (by rw [hr]; rfl) h, normalize]
    simp [hr]

end MessageContract.Uri
