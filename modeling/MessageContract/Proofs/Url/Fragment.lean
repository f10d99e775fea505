import MessageContract.Fetch
import MessageContract.Proofs.Location
import MessageContract.Proofs.Url.Sign
import MessageContract.Reference.Basic

/-!
# Fragments of locations

The fragment of a URL bears neither on what references against it lead to nor on the request that is
made for it, but for the text of the URL in an error (`Url.join_withFragment`,
`World.fetchUrl_withFragment`). A reference, which is cut at its number sign before it is resolved,
never leads from a URL without a fragment to one with a fragment (`Location.IsBare.join`).
-/

namespace MessageContract

namespace Url

/-- The URL with a fragment. -/
def withFragment (u : Url) (f : String) : Url := { u with fragment := some f }

theorem readFile_withFragment (u : Url) (f : String) (cs : List Char) :
    readFile (some (u.withFragment f)) cs = readFile (some u) cs := by
  have hbeside : readBesideFile (u.withFragment f) cs = readBesideFile u cs := by
    unfold readBesideFile
    rfl
  unfold readFile
  simp only [hbeside]

theorem readRelative_withFragment (u : Url) (f : String) (cs : List Char) :
    readRelative (u.withFragment f) cs = readRelative u cs := by
  unfold readRelative
  rfl

theorem readWithScheme_withFragment (u : Url) (f scheme : String) (cs : List Char) :
    readWithScheme (some (u.withFragment f)) scheme cs = readWithScheme (some u) scheme cs := by
  unfold readWithScheme
  split
  · have hscheme : (u.withFragment f).scheme = u.scheme := rfl
    simp only [Option.filter_some, hscheme]
    split
    · exact readFile_withFragment u f cs
    · rfl
  · have hscheme : (u.withFragment f).scheme = u.scheme := rfl
    simp only [Option.filter_some, hscheme]
    by_cases hbase : (u.scheme == scheme &&
        decide ((cs.takeWhile (isSlash .special)).length < 2)) = true
    · simp only [if_pos hbase]
      exact readRelative_withFragment u f cs
    · simp only [if_neg hbase]
  · rfl

/-- What a reference is resolved to does not depend on the fragment of the base. -/
theorem join_withFragment (u : Url) (f reference : String) :
    (u.withFragment f).join reference = u.join reference := by
  unfold join
  dsimp only
  split
  · exact readWithScheme_withFragment u f _ _
  · split
    · rfl
    · have hscheme : (u.withFragment f).scheme = u.scheme := rfl
      have hrootless : (u.withFragment f).rootless = u.rootless := rfl
      rw [hscheme, hrootless, readFile_withFragment, readRelative_withFragment]

end Url

namespace Location

variable {u : Url} {f : String}

/-- A URL has no number sign in its text. -/
def IsBare (l : Location) : Prop := ∀ u, l = .url u → u.IsBare ∧ u.fragment = none

theorem IsBare.of_isReadFrom {reference : String} (hr : '#' ∉ reference.toList)
    (h : u.IsReadFrom reference.toList) : (Location.url u).IsBare := by
  intro v hv
  obtain rfl := Location.url.inj hv
  exact ⟨h.bare, h.fragment hr⟩

theorem isBare_file (path : FilePath) : (Location.file path).IsBare := nofun

/-- A reference without a number sign leads to a URL without one. -/
theorem IsBare.join {base target : Location} {reference : String} (hbase : base.IsBare)
    (hr : '#' ∉ reference.toList) (h : base.join reference = .ok target) : target.IsBare := by
  unfold Location.join at h
  split at h
  · next l hl =>
    obtain rfl := Except.ok.inj h
    unfold absolute? at hl
    dsimp only at hl
    have hpath : ∀ l', (if (FilePath.ofString reference).isAbsolute = true then
        some (Location.file (FilePath.ofString reference).normalize) else none) = some l' →
        l'.IsBare := by
      intro l' hl'
      split at hl'
      · exact Option.some.inj hl' ▸ isBare_file _
      · cases hl'
    split at hl
    · next v hv =>
      split at hl
      · exact Option.some.inj hl ▸ IsBare.of_isReadFrom hr (Url.parse_isReadFrom hv)
      · split at hl
        · obtain ⟨bytes, -, rfl⟩ := Option.map_eq_some_iff.1 hl
          exact isBare_file _
        · exact hpath _ hl
    · exact hpath _ hl
  · split at h
    · exact Except.ok.inj h ▸ isBare_file _
    · next v =>
      split at h
      · next w hw =>
        obtain rfl := Except.ok.inj h
        exact IsBare.of_isReadFrom hr (Url.join_isReadFrom (hbase v rfl).1 hw)
      · cases h
    · cases h

theorem IsBare.beq_withFragment {l : Location} (h : l.IsBare) (u : Url) (f : String) :
    (l == .url (u.withFragment f)) = false := by
  cases l with
  | url v =>
    obtain ⟨hbare, hnone⟩ := h v rfl
    rw [Bool.eq_false_iff]
    intro heq
    have htext := (beq_url v (u.withFragment f)).1 heq
    exact hbare.sign_not_mem_write hnone (htext ▸ Url.sign_mem_write rfl)
  | _ => rfl

end Location

/-- What is resolved of a reference has no number sign. -/
theorem Reference.sign_not_mem_document (reference : String) :
    '#' ∉ (Reference.document reference).toList := by
  intro hmem
  rw [Reference.document, Reference.split, String.toList_ofList] at hmem
  exact absurd (List.mem_takeWhile_imp hmem) (by decide)

/-! ## Requests -/

/-- The same failure, told of two URLs. -/
inductive HttpError.Alike (url url' : String) : HttpError → HttpError → Prop
  | status (code : Nat) : Alike url url' (.status code url) (.status code url')
  | connect : Alike url url' (.connect url) (.connect url')
  | closed : Alike url url' (.closed url) (.closed url')
  | redirects : Alike url url' (.redirects url) (.redirects url')

/-- What is behind an `http` or `https` URL does not depend on its fragment, nor does the failure to
get it, but for the URL that it names. -/
theorem World.fetchUrl_withFragment (w : World) (settings : FetchSettings) {u : Url} (f : String)
    (hu : u.scheme = "http" ∨ u.scheme = "https") :
    w.fetchUrl settings (u.withFragment f) = w.fetchUrl settings u ∨
    ∃ e e', w.fetchUrl settings u = .error (.http e) ∧
      w.fetchUrl settings (u.withFragment f) = .error (.http e') ∧
      HttpError.Alike (requestUrl u).write (requestUrl (u.withFragment f)).write e e' := by
  have hfile : (u.scheme == "file") = false := by
    rcases hu with hu | hu <;> rw [hu] <;> rfl
  have hhttp : (u.scheme != "http" && u.scheme != "https") = false := by
    rcases hu with hu | hu <;> rw [hu] <;> rfl
  have hscheme : (u.withFragment f).scheme = u.scheme := rfl
  have hkey : (requestUrl (u.withFragment f)).withoutFragment =
      (requestUrl u).withoutFragment := rfl
  simp only [fetchUrl, hscheme, hfile, Bool.false_eq_true, if_false]
  rw [request, request]
  simp only [hscheme, hhttp, hkey, Url.join_withFragment, Bool.false_eq_true, if_false]
  split
  · exact Or.inr ⟨_, _, rfl, rfl, .connect⟩
  · split
    · exact Or.inr ⟨_, _, rfl, rfl, .connect⟩
    · split
      · exact Or.inr ⟨_, _, rfl, rfl, .status 404⟩
      · split
        · exact Or.inr ⟨_, _, rfl, rfl, .closed⟩
        · split
          · exact Or.inr ⟨_, _, rfl, rfl, .redirects⟩
          · exact Or.inl rfl
          · split
            · exact Or.inr ⟨_, _, rfl, rfl, .status _⟩
            · split
              · exact Or.inl rfl
              · exact Or.inl rfl

end MessageContract
