import MessageContract.Fetch
import MessageContract.Proofs.Utf8

/-!
# References of documents on the network

Against an `http` or `https` URL, a reference that is no URL of its own is resolved as URLs are, and
what it names is read from the network alone. The exception is a reference that begins with a slash:
it is taken for the path of a file of this machine before the base is looked at.
-/

namespace MessageContract

theorem FilePath.isAbsolute_ofString (s : String) :
    (FilePath.ofString s).isAbsolute = true ↔ s.toList.head? = some '/' := by
  rw [isAbsolute, ofString, Utf8.encode_eq, beq_iff_eq]
  cases hs : s.toList with
  | nil => simp
  | cons c cs =>
    rw [List.flatMap_cons, List.head?_append_of_ne_nil _ String.utf8EncodeChar_ne_nil,
      List.head?_cons, Option.some_inj]
    exact Utf8.head?_encodeChar_eq_iff (d := '/') (by decide)

/-! ## The scheme a reference is resolved to -/

namespace Url

@[simp] theorem withTail_scheme (u : Url) (query fragment : Option (List Char)) :
    (withTail u query fragment).scheme = u.scheme := rfl

theorem readAuthority_scheme {scheme : String} {cs : List Char} {u : Url}
    (h : readAuthority scheme cs = .ok u) : u.scheme = scheme := by
  simp only [readAuthority, bind, Except.bind, pure, Except.pure] at h
  repeat' split at h
  -- the branches that answer do so with the scheme they were given
  all_goals cases h
  all_goals rfl

theorem readRelative_scheme {base u : Url} {cs : List Char} (h : readRelative base cs = .ok u) :
    u.scheme = base.scheme := by
  simp only [readRelative, readRelative.rooted] at h
  split at h
  · cases h
    rfl
  · cases h
    rfl
  · cases h
    rfl
  · repeat' split at h
    all_goals first | exact readAuthority_scheme h | (cases h; rfl)

/-- What is no URL of its own takes its scheme from an `http` or `https` base. -/
theorem join_scheme {base u : Url} {reference : String} {e : UrlError}
    (hbase : base.scheme = "http" ∨ base.scheme = "https") (hr : parse reference = .error e)
    (h : base.join reference = .ok u) : u.scheme = base.scheme := by
  have hfile : (base.scheme == "file") = false := by
    obtain hb | hb := hbase <;> rw [hb] <;> rfl
  unfold parse at hr
  unfold join at h
  cases hs : splitScheme? (clean reference) with
  | none =>
    simp only [hs, hfile] at h
    split at h
    · cases h
      rfl
    · split at h
      · cases h
      · exact readRelative_scheme h
  | some p =>
    -- a scheme was read, so the base counts only if it has the same one
    simp only [hs, readWithScheme] at hr h
    cases hk : kindOf p.1 with
    | file =>
      simp only [hk, Option.filter_some, hfile] at hr h
      cases hr.symm.trans h
    | special =>
      simp only [hk, Option.filter_some, Option.filter_none] at hr h
      split at h
      · rename_i b hb
        split at hb
        · cases hb
          exact readRelative_scheme h
        · cases hb
      · cases hr.symm.trans h
    | plain =>
      simp only [hk] at hr h
      cases hr.symm.trans h

end Url

theorem World.request_network {w w' : World} (h : w.network = w'.network)
    (settings : FetchSettings) (hops : Nat) (u : Url) :
    w.request settings hops u = w'.request settings hops u := by
  induction hops generalizing u with
  | zero =>
    unfold request
    simp only [h]
    repeat' split
    all_goals first | rfl | contradiction
  | succ hops ih =>
    unfold request
    simp only [h]
    repeat' split
    any_goals rfl
    -- left over is the redirection, with one hop less to follow
    rename_i hhops
    cases hhops
    exact ih _

/-- What is behind an `http` or `https` URL does not depend on the files. -/
theorem World.fetch_network {w w' : World} (h : w.network = w'.network) (settings : FetchSettings)
    {u : Url} (hu : u.scheme = "http" ∨ u.scheme = "https") :
    w.fetch settings (.url u) = w'.fetch settings (.url u) := by
  have hfile : (u.scheme == "file") = false := by
    obtain hu | hu := hu <;> rw [hu] <;> rfl
  simp only [fetch, fetchUrl, hfile, if_neg Bool.false_ne_true, request_network h]

/-! ## References against a URL -/

namespace Location

theorem absolute?_of_parse_error {reference : String} {e : UrlError}
    (h : Url.parse reference = .error e) :
    absolute? reference = if reference.toList.head? = some '/' then
        some (.file (FilePath.ofString reference).normalize)
      else none := by
  simp only [absolute?, h, FilePath.isAbsolute_ofString]

/-- What the resolution of URLs answers, as a location or the error that names reference and base. -/
def resolved (reference : String) (base : Url) : Except UrlError Url → Except JoinError Location
  | .ok u => .ok (.url u)
  | .error cause => .error (.unresolvable reference base cause)

/-- A reference that is no URL of its own is resolved against an `http` or `https` URL as URLs are,
and leads to what the network alone decides, exactly if it does not begin with a slash. One that
does is a file of this machine. -/
theorem join_url_eq_iff {base : Url} (hbase : base.scheme = "http" ∨ base.scheme = "https")
    {reference : String} {e : UrlError} (hr : Url.parse reference = .error e) :
    ((Location.url base).join reference = resolved reference base (base.join reference) ↔
      reference.toList.head? ≠ some '/') ∧
    (reference.toList.head? = some '/' →
      (Location.url base).join reference = .ok (.file (FilePath.ofString reference).normalize)) ∧
    (reference.toList.head? ≠ some '/' → ∀ target,
      (Location.url base).join reference = .ok target →
        ∀ (w w' : World) (settings : FetchSettings), w.network = w'.network →
          w.fetch settings target = w'.fetch settings target) := by
  by_cases hslash : reference.toList.head? = some '/'
  · have hjoin : (Location.url base).join reference =
        .ok (.file (FilePath.ofString reference).normalize) := by
      simp only [join, absolute?_of_parse_error hr, if_pos hslash]
    refine ⟨⟨fun h => ?_, fun h => absurd hslash h⟩, fun _ => hjoin, fun h => absurd hslash h⟩
    rw [hjoin] at h
    cases hbase : base.join reference <;> rw [hbase] at h <;> cases h
  · have hjoin : (Location.url base).join reference =
        resolved reference base (base.join reference) := by
      cases hu : base.join reference <;>
        simp only [join, absolute?_of_parse_error hr, if_neg hslash, hu, resolved]
    refine ⟨⟨fun _ => hslash, fun _ => hjoin⟩, fun h => absurd h hslash,
      fun _ target htarget w w' settings hw => ?_⟩
    rw [hjoin] at htarget
    cases hu : base.join reference with
    | ok u =>
      rw [hu] at htarget
      cases htarget
      exact World.fetch_network hw settings (Url.join_scheme hbase hr hu ▸ hbase)
    | error cause =>
      rw [hu] at htarget
      cases htarget

theorem join_url_eq_iff_parent :
    (Location.url ⟨"http", "", some "h", none, "/a/b.yaml", false, none, none⟩).join "../x.yaml" =
      .ok (.url ⟨"http", "", some "h", none, "/x.yaml", false, none, none⟩) := by
  have hjoin : Url.join ⟨"http", "", some "h", none, "/a/b.yaml", false, none, none⟩ "../x.yaml" =
      .ok ⟨"http", "", some "h", none, "/x.yaml", false, none, none⟩ := by decide +kernel
  have h := (@join_url_eq_iff ⟨"http", "", some "h", none, "/a/b.yaml", false, none, none⟩
    (.inl rfl) "../x.yaml" .noBase (by decide +kernel)).1.2 (by decide)
  rwa [hjoin] at h

/-- A reference to the root of a server names a file of this machine. -/
theorem join_url_rooted :
    Url.parse "/x.yaml" = .error .noBase ∧
    Url.join ⟨"http", "", some "h", none, "/a/b.yaml", false, none, none⟩ "/x.yaml" =
      .ok ⟨"http", "", some "h", none, "/x.yaml", false, none, none⟩ ∧
    (Location.url ⟨"http", "", some "h", none, "/a/b.yaml", false, none, none⟩).join "/x.yaml" =
      .ok (.file (FilePath.ofString "/x.yaml")) := by
  have hr : Url.parse "/x.yaml" = .error .noBase := by decide +kernel
  have hpath : (FilePath.ofString "/x.yaml").normalize = FilePath.ofString "/x.yaml" := by
    decide +kernel
  refine ⟨hr, by decide +kernel, ?_⟩
  rw [join, absolute?_of_parse_error hr, if_pos (by decide), hpath]

end Location

end MessageContract
