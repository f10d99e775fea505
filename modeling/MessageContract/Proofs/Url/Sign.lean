import Mathlib.Data.List.TakeDrop
import Mathlib.Data.List.TakeWhile
import MessageContract.Url.Parser
import MessageContract.Proofs.Except
import MessageContract.Proofs.Url.Host
import MessageContract.Proofs.Url.Segment

/-!
# Number signs in URLs

A number sign in a text begins the fragment of a URL, and no other part of a URL that was read has
one (`Url.IsBare`): it is escaped in user names, paths and queries, and no host has one. So a URL
that is read from a text without the sign, or resolved from a reference without it, has none in its
own text (`Url.parse_isReadFrom`, `Url.join_isReadFrom`).
-/

namespace MessageContract
namespace Url

/-! ## User names and paths -/

theorem sign_not_mem_writeUserInfo (cs : List Char) : '#' ∉ (writeUserInfo cs).toList := by
  have hencode := fun cs => sign_not_mem_encode (show inUserInfo '#' = true by decide) cs
  unfold writeUserInfo
  dsimp only
  split
  · simp
  · split <;> simp [hencode]

theorem sign_not_mem_of_mem_segmentsOf {path : String} (h : '#' ∉ path.toList) :
    ∀ seg ∈ segmentsOf path, '#' ∉ seg := by
  intro seg hseg hmem
  unfold segmentsOf at hseg
  split at hseg
  · next rest hpath =>
    exact h (hpath ▸ List.mem_cons_of_mem '/' (Text.mem_of_mem_splitAt hseg hmem))
  · cases hseg
  · exact h (Text.mem_of_mem_splitAt hseg hmem)

theorem directory_subset (kind : Kind) (segs : List (List Char)) :
    directory kind segs ⊆ segs := by
  unfold directory
  split
  · exact List.Subset.refl segs
  · exact List.dropLast_subset segs

theorem sign_not_mem_drive {seg : List Char} (h : isDriveLetter seg = true) :
    '#' ∉ [seg.headD 'c', ':'] := by
  unfold isDriveLetter at h
  split at h
  · next a b =>
    intro hmem
    rcases List.mem_cons.1 hmem with rfl | hmem
    · exact absurd (Bool.and_eq_true_iff.1 h).1 (by decide)
    · exact absurd hmem (by decide)
  · cases h

/-- Segments are escaped when they are appended. -/
theorem sign_not_mem_appendSegments {kind : Kind} {path segs : List (List Char)}
    (h : ∀ seg ∈ path, '#' ∉ seg) : ∀ seg ∈ appendSegments kind path segs, '#' ∉ seg :=
  forall_mem_appendSegments List.not_mem_nil (fun _ => sign_not_mem_drive)
    (fun seg _ _ => sign_not_mem_encode (by decide) seg) h

theorem sign_not_mem_writeSegments {kind : Kind} {segs : List (List Char)}
    (h : ∀ seg ∈ segs, '#' ∉ seg) : '#' ∉ (writeSegments kind segs).toList := by
  have hslashes : ∀ segs : List (List Char), (∀ seg ∈ segs, '#' ∉ seg) →
      '#' ∉ segs.flatMap ('/' :: ·) := by
    intro segs h hmem
    obtain ⟨seg, hseg, hmem⟩ := List.mem_flatMap.1 hmem
    rcases List.mem_cons.1 hmem with heq | hmem
    · exact absurd heq (by decide)
    · exact h seg hseg hmem
  unfold writeSegments
  rw [String.toList_ofList]
  refine hslashes _ ?_
  dsimp only
  split
  · split
    · simp
    · exact fun seg hseg => h seg (List.dropWhile_sublist _ |>.subset hseg)
  · exact h

/-! ## URLs that are read -/

/-- No part but the fragment has a number sign. -/
structure IsBare (u : Url) : Prop where
  scheme : '#' ∉ u.scheme.toList
  userInfo : '#' ∉ u.userInfo.toList
  host : ∀ host ∈ u.host, '#' ∉ host.toList
  path : '#' ∉ u.path.toList
  query : ∀ query ∈ u.query, '#' ∉ query.toList

/-- What a URL has from the text it is read from. -/
structure IsReadFrom (u : Url) (cs : List Char) : Prop where
  bare : u.IsBare
  /-- Only a number sign begins a fragment. -/
  fragment : '#' ∉ cs → u.fragment = none

variable {u base : Url} {cs : List Char}

theorem IsBare.sign_not_mem_write (h : u.IsBare) (hfragment : u.fragment = none) :
    '#' ∉ u.write.toList := by
  have hport : '#' ∉ ((u.port.map fun p => ":" ++ toString p).getD "").toList := by
    cases u.port with
    | none => decide
    | some p => simp [sign_not_mem_toDigits]
  have hquery : '#' ∉ ((u.query.map ("?" ++ ·)).getD "").toList := by
    cases hq : u.query with
    | none => decide
    | some q => simp [h.query q hq]
  unfold write
  simp only [hfragment, Option.map_none, Option.getD_none, String.append_empty]
  cases hh : u.host with
  | some host =>
    simp only [String.toList_append, List.mem_append, h.scheme, h.userInfo, h.host host hh, h.path,
      hport, hquery]
    decide
  | none =>
    simp only [String.toList_append, List.mem_append, h.scheme, h.path, hquery]
    split
    · decide
    · split <;> decide

theorem sign_mem_write {f : String} (h : u.fragment = some f) : '#' ∈ u.write.toList := by
  simp [write, h]

theorem IsBare.withTail (h : u.IsBare) (query fragment : Option (List Char)) :
    (withTail u query fragment).IsBare := by
  refine ⟨h.scheme, h.userInfo, h.host, h.path, fun q hq => ?_⟩
  obtain ⟨cs, -, rfl⟩ := Option.map_eq_some_iff.1 (show query.map _ = some q from hq)
  rw [String.toList_ofList]
  split
  · exact sign_not_mem_encode (by decide) cs
  · exact sign_not_mem_encode (by decide) cs

theorem IsBare.withPath (h : u.IsBare) {path : String} (hpath : '#' ∉ path.toList) :
    { u with path := path }.IsBare :=
  ⟨h.scheme, h.userInfo, h.host, hpath, h.query⟩

theorem splitTail_fragment (h : '#' ∉ cs) : (splitTail cs).2.2 = none := by
  have hrest : cs.dropWhile (· != '#') = [] :=
    List.dropWhile_eq_nil_iff.2 fun c hc => bne_iff_ne.2 fun heq => h (heq ▸ hc)
  simp [splitTail, hrest]

theorem sign_not_mem_splitTail (cs : List Char) : '#' ∉ (splitTail cs).1 := by
  intro hmem
  simp only [splitTail, List.span_eq_takeWhile_dropWhile] at hmem
  exact absurd (List.mem_takeWhile_imp ((List.takeWhile_subset _) hmem)) (by decide)

/-- Query and fragment are read from what is left of a text. -/
theorem IsBare.isReadFrom (h : u.IsBare) {rest : List Char} (hrest : rest ⊆ cs) :
    (Url.withTail u (splitTail rest).2.1 (splitTail rest).2.2).IsReadFrom cs := by
  refine ⟨h.withTail _ _, fun hcs => ?_⟩
  show (splitTail rest).2.2.map _ = none
  rw [splitTail_fragment fun hmem => hcs (hrest hmem), Option.map_none]

theorem IsReadFrom.mono (h : u.IsReadFrom cs) {cs' : List Char} (hsub : cs ⊆ cs') :
    u.IsReadFrom cs' :=
  ⟨h.bare, fun hcs => h.fragment fun hmem => hcs (hsub hmem)⟩

theorem isBare_parts {scheme userInfo path : String} {host : Option String} {port : Option Nat}
    (hscheme : '#' ∉ scheme.toList) (hinfo : '#' ∉ userInfo.toList)
    (hhost : ∀ h ∈ host, '#' ∉ h.toList) (hpath : '#' ∉ path.toList) :
    IsBare ⟨scheme, userInfo, host, port, path, false, none, none⟩ :=
  ⟨hscheme, hinfo, hhost, hpath, by simp⟩

/-- Segments behind a root are written without a number sign. -/
theorem sign_not_mem_rooted (kind : Kind) (segs : List (List Char)) :
    '#' ∉ (writeSegments kind (appendSegments kind [] segs)).toList :=
  sign_not_mem_writeSegments (sign_not_mem_appendSegments (by simp))

theorem readAuthority_isReadFrom {scheme : String} (hscheme : '#' ∉ scheme.toList)
    (h : readAuthority scheme cs = .ok u) : u.IsReadFrom cs := by
  have hinfo : ∀ info : Option (List Char), '#' ∉ ((info.map writeUserInfo).getD "").toList := by
    intro info
    cases info with
    | none => decide
    | some info => exact sign_not_mem_writeUserInfo info
  simp only [readAuthority, bind, Except.bind, pure, Except.pure, List.span_eq_takeWhile_dropWhile]
    at h
  repeat' split at h
  all_goals cases h
  -- every branch that answers writes a host and segments, and reads the tail behind the authority
  all_goals
    refine (isBare_parts hscheme (hinfo _) (fun host hhost => ?_) ?_).isReadFrom
      (List.dropWhile_subset _)
    · obtain rfl := Option.some.inj hhost
      first
        | exact sign_not_mem_writeHost (by assumption)
        | exact sign_not_mem_writePlainHost (by assumption)
        | decide
    · simp [sign_not_mem_rooted]

theorem rooted_isReadFrom (hbase : base.IsBare) {kind : Kind} {start : List (List Char)}
    (hstart : ∀ seg ∈ start, '#' ∉ seg) (h : readRelative.rooted base kind start cs = .ok u) :
    u.IsReadFrom cs := by
  obtain rfl := Except.ok.inj h
  exact (hbase.withPath (sign_not_mem_writeSegments
    (sign_not_mem_appendSegments hstart))).isReadFrom (List.Subset.refl cs)

theorem IsBare.withoutFragment_isReadFrom (h : u.IsBare) : u.withoutFragment.IsReadFrom cs :=
  ⟨⟨h.scheme, h.userInfo, h.host, h.path, h.query⟩, fun _ => rfl⟩

theorem IsBare.withFragment_isReadFrom (h : u.IsBare) (f : Option String) {rest : List Char} :
    { u with fragment := f }.IsReadFrom ('#' :: rest) :=
  ⟨⟨h.scheme, h.userInfo, h.host, h.path, h.query⟩, fun hmem => absurd List.mem_cons_self hmem⟩

theorem readRelative_isReadFrom (hbase : base.IsBare) (h : readRelative base cs = .ok u) :
    u.IsReadFrom cs := by
  unfold readRelative at h
  dsimp only at h
  split at h
  · obtain rfl := Except.ok.inj h
    exact hbase.withoutFragment_isReadFrom
  · next rest =>
    obtain rfl := Except.ok.inj h
    exact hbase.isReadFrom (List.Subset.refl ('?' :: rest))
  · obtain rfl := Except.ok.inj h
    exact hbase.withFragment_isReadFrom _
  · next c rest _ _ =>
    have hroot : ∀ seg ∈ ([] : List (List Char)), '#' ∉ seg := by simp
    split at h
    · split at h
      · next d tail =>
        split at h
        · refine (readAuthority_isReadFrom hbase.scheme h).mono ?_
          refine List.Subset.trans ?_ (List.subset_cons_of_subset _ (List.subset_cons_self _ _))
          split
          · exact List.Subset.refl _
          · exact List.dropWhile_subset _
        · exact (rooted_isReadFrom hbase hroot h).mono (List.subset_cons_self _ _)
      · exact (rooted_isReadFrom hbase hroot h).mono (List.subset_cons_self _ _)
    · refine rooted_isReadFrom hbase (fun seg hseg => ?_) h
      exact sign_not_mem_of_mem_segmentsOf hbase.path seg (directory_subset _ _ hseg)

/-! ## URLs of files -/

theorem fileUrl_isReadFrom {start : List (List Char)} (hstart : ∀ seg ∈ start, '#' ∉ seg) :
    (fileUrl start cs).IsReadFrom cs :=
  (isBare_parts (by decide) (by decide) (by simp)
    (sign_not_mem_writeSegments (sign_not_mem_appendSegments hstart))).isReadFrom
    (List.Subset.refl cs)

theorem hostedFileUrl_isReadFrom {host : String} (hhost : '#' ∉ host.toList) :
    (hostedFileUrl host cs).IsReadFrom cs := by
  refine (isBare_parts (by decide) (by decide) (fun h hh => ?_)
    (sign_not_mem_rooted _ _)).isReadFrom (List.Subset.refl cs)
  simp only [Option.mem_def, Option.ite_none_left_eq_some, Option.some.injEq] at hh
  exact hh.2 ▸ hhost

theorem IsReadFrom.withHost (h : u.IsReadFrom cs) {host : Option String}
    (hhost : ∀ h ∈ host, '#' ∉ h.toList) : { u with host := host }.IsReadFrom cs :=
  ⟨⟨h.bare.scheme, h.bare.userInfo, hhost, h.bare.path, h.bare.query⟩, h.fragment⟩

theorem readBesideFile_isReadFrom (hbase : base.IsBare) :
    (readBesideFile base cs).IsReadFrom cs := by
  have hsegs := sign_not_mem_of_mem_segmentsOf hbase.path
  unfold readBesideFile
  dsimp only
  split
  · exact hbase.withoutFragment_isReadFrom
  · next rest => exact hbase.isReadFrom (List.Subset.refl ('?' :: rest))
  · exact hbase.withFragment_isReadFrom _
  · next c rest _ _ =>
    have hroot : ∀ seg ∈ ([] : List (List Char)), '#' ∉ seg := by simp
    split
    · split
      · exact (fileUrl_isReadFrom hroot).mono (List.subset_cons_self _ _)
      · refine IsReadFrom.withHost ?_ ?_
        · refine (fileUrl_isReadFrom fun seg hseg => hsegs seg ?_).mono (List.subset_cons_self _ _)
          exact List.mem_of_mem_take (List.mem_filter.1 hseg).1
        · intro host hhost
          split at hhost
          · exact hbase.host host hhost
          · cases hhost
    · split
      · exact fileUrl_isReadFrom hroot
      · refine IsReadFrom.withHost (fileUrl_isReadFrom fun seg hseg => hsegs seg ?_) hbase.host
        exact directory_subset _ _ hseg

theorem readFile_isReadFrom {base : Option Url} (hbase : ∀ b ∈ base, b.IsBare)
    (h : readFile base cs = .ok u) : u.IsReadFrom cs := by
  have hroot : ∀ seg ∈ ([] : List (List Char)), '#' ∉ seg := by simp
  have hpure : ∀ v, v.IsReadFrom cs → (pure v : Except UrlError Url) = .ok u → u.IsReadFrom cs :=
    fun v hv heq => Except.ok.inj heq ▸ hv
  unfold readFile at h
  extract_lets beside at h
  have hbeside : beside.IsReadFrom cs := by
    simp only [beside]
    split
    · exact readBesideFile_isReadFrom (hbase _ rfl)
    · refine (fileUrl_isReadFrom hroot).mono ?_
      split
      · exact List.subset_cons_self _ _
      · exact List.Subset.refl _
    · exact fileUrl_isReadFrom hroot
  clear_value beside
  split at h
  · next a b rest =>
    rw [List.span_eq_takeWhile_dropWhile] at h
    dsimp only at h
    have hsub : rest ⊆ a :: b :: rest :=
      List.subset_cons_of_subset a (List.subset_cons_self b rest)
    have htail : ∀ p : Char → Bool, (fileUrl [] (rest.dropWhile p)).IsReadFrom (a :: b :: rest) :=
      fun p => (fileUrl_isReadFrom hroot).mono (List.Subset.trans (List.dropWhile_subset p) hsub)
    split at h
    · split at h
      · exact hpure _ ((fileUrl_isReadFrom hroot).mono hsub) h
      · split at h
        · exact hpure _ (htail _) h
        · obtain ⟨host, hhost, h⟩ := bind_eq_ok h
          split at h
          · exact hpure _ (htail _) h
          · refine hpure _ ((hostedFileUrl_isReadFrom ?_).mono ?_) h
            · exact sign_not_mem_writeHost hhost
            · exact List.Subset.trans (List.dropWhile_subset _) hsub
    · exact hpure beside hbeside h
  · exact hpure beside hbeside h

theorem readWithScheme_isReadFrom {base : Option Url} (hbase : ∀ b ∈ base, b.IsBare)
    {scheme : String} (hscheme : '#' ∉ scheme.toList)
    (h : readWithScheme base scheme cs = .ok u) : u.IsReadFrom cs := by
  unfold readWithScheme at h
  split at h
  · exact readFile_isReadFrom (fun b hb => hbase b (Option.mem_filter_iff.1 hb).1) h
  · dsimp only at h
    split at h
    · next b hb => exact readRelative_isReadFrom (hbase b (Option.filter_eq_some_iff.1 hb).1) h
    · exact (readAuthority_isReadFrom hscheme h).mono (List.drop_subset _ _)
  · split at h
    · next rest =>
      refine (readAuthority_isReadFrom hscheme h).mono ?_
      exact List.subset_cons_of_subset _ (List.subset_cons_self _ _)
    · dsimp only at h
      split at h
      · obtain rfl := Except.ok.inj h
        exact (isBare_parts hscheme (by decide) (by simp) (sign_not_mem_rooted _ _)).isReadFrom
          (List.Subset.refl cs)
      · obtain rfl := Except.ok.inj h
        refine IsBare.isReadFrom (u := ⟨scheme, "", none, none, _, true, none, none⟩) ?_
          (List.Subset.refl cs)
        refine ⟨hscheme, by simp, by simp, fun hmem => ?_, by simp⟩
        rw [String.toList_ofList] at hmem
        exact sign_not_mem_splitTail cs (sign_mem_encode hmem).1

theorem eq_sign_of_toLower {c : Char} (h : c.toLower = '#') : c = '#' := by
  unfold Char.toLower at h
  split at h
  · next hupper =>
    -- a capital letter and the letter that it becomes are both beyond the sign
    have hcode : (c.val.toNat + 32) % 4294967296 = 35 :=
      congrArg (fun d : Char => d.val.toNat) h
    have hlow : 65 ≤ c.val.toNat := hupper.1
    have hhigh : c.val.toNat ≤ 90 := hupper.2
    omega
  · exact h

theorem splitScheme?_spec {scheme : String} {rest : List Char}
    (h : splitScheme? cs = some (scheme, rest)) : '#' ∉ scheme.toList ∧ rest ⊆ cs := by
  simp only [splitScheme?, List.span_eq_takeWhile_dropWhile] at h
  split at h
  · next first name rest' hname hrest =>
    split at h
    · obtain ⟨rfl, rfl⟩ := Prod.mk.inj (Option.some.inj h)
      constructor
      · rw [String.toList_ofList]
        intro hmem
        obtain ⟨c, hc, hlower⟩ := List.mem_map.1 hmem
        have hallowed := List.mem_takeWhile_imp hc
        rw [eq_sign_of_toLower hlower] at hallowed
        exact absurd hallowed (by decide)
      · refine List.Subset.trans (List.subset_cons_self ':' _) ?_
        exact hrest ▸ List.dropWhile_subset _
    · cases h
  · cases h

theorem clean_subset (s : String) : clean s ⊆ s.toList := by
  intro c hc
  have htrimmed := (List.mem_filter.1 hc).1
  rw [List.mem_reverse] at htrimmed
  have hback := List.dropWhile_subset _ htrimmed
  rw [List.mem_reverse] at hback
  exact List.dropWhile_subset _ hback

/-- What a URL has that is read from a text. -/
theorem parse_isReadFrom {s : String} (h : parse s = .ok u) : u.IsReadFrom s.toList := by
  unfold parse at h
  split at h
  · next scheme rest hsplit =>
    obtain ⟨hscheme, hrest⟩ := splitScheme?_spec hsplit
    exact (readWithScheme_isReadFrom (by simp) hscheme h).mono
      (List.Subset.trans hrest (clean_subset s))
  · cases h

/-- What a URL has that a reference is resolved to. -/
theorem join_isReadFrom (hbase : base.IsBare) {reference : String}
    (h : base.join reference = .ok u) : u.IsReadFrom reference.toList := by
  suffices hclean : u.IsReadFrom (clean reference) from hclean.mono (clean_subset reference)
  unfold join at h
  dsimp only at h
  split at h
  · next scheme rest hsplit =>
    obtain ⟨hscheme, hrest⟩ := splitScheme?_spec hsplit
    refine (readWithScheme_isReadFrom ?_ hscheme h).mono hrest
    exact fun b hb => Option.some.inj hb ▸ hbase
  · split at h
    · next rest hclean =>
      obtain rfl := Except.ok.inj h
      rw [hclean]
      exact hbase.withFragment_isReadFrom _
    · split at h
      · cases h
      · split at h
        · exact readFile_isReadFrom (fun b hb => Option.some.inj hb ▸ hbase) h
        · exact readRelative_isReadFrom hbase h

end Url
end MessageContract
