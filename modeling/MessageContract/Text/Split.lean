/-!
# Cutting texts

What follows a given start, the two sides of a separator, and the pieces between separators.
-/

namespace MessageContract.Text

/-- What follows `head` in a text that starts with it. -/
def after? : List Char → List Char → Option (List Char)
  | [], cs => some cs
  | h :: head, c :: cs => if h = c then after? head cs else none
  | _ :: _, [] => none

/-- The text before the first occurrence of `sep` and the text after it. -/
def cut? (sep : List Char) : List Char → Option (List Char × List Char)
  | [] => if sep.isEmpty then some ([], []) else none
  | c :: cs =>
    match after? sep (c :: cs) with
    | some rest => some ([], rest)
    | none => (cut? sep cs).map fun (before, rest) => (c :: before, rest)

/-- Splits at a character; as many pieces as there are occurrences, and one more. -/
def splitAt (sep : Char) : List Char → List (List Char)
  | [] => [[]]
  | c :: rest =>
    if c == sep then [] :: splitAt sep rest
    else
      match splitAt sep rest with
      | [] => [[c]]
      | piece :: pieces => (c :: piece) :: pieces

theorem after?_eq_some_iff {head cs rest : List Char} :
    after? head cs = some rest ↔ cs = head ++ rest := by
  induction head generalizing cs with
  | nil => simp [after?, eq_comm]
  | cons h head ih =>
    cases cs with
    | nil => simp [after?]
    | cons c cs =>
      by_cases hc : h = c
      · subst hc; simp [after?, ih]
      · simp [after?, hc, Ne.symm hc]

/-- The two sides and the separator between them make up the text. -/
theorem eq_of_cut? {sep cs before rest : List Char} (h : cut? sep cs = some (before, rest)) :
    cs = before ++ (sep ++ rest) := by
  induction cs generalizing before with
  | nil =>
    cases sep with
    | nil => simp [cut?] at h; simp [h]
    | cons _ _ => simp [cut?] at h
  | cons c cs ih =>
    rw [cut?] at h
    split at h
    · next r hr =>
      simp only [Option.some.injEq, Prod.mk.injEq] at h
      obtain ⟨rfl, rfl⟩ := h
      have hcs : c :: cs = sep ++ r := after?_eq_some_iff.1 hr
      simpa using hcs
    · obtain ⟨⟨b, r⟩, hb, he⟩ := Option.map_eq_some_iff.1 h
      simp only [Prod.mk.injEq] at he
      obtain ⟨rfl, rfl⟩ := he
      simp [ih hb]

end MessageContract.Text
