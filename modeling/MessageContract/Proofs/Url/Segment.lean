import MessageContract.FilePath
import MessageContract.Proofs.Except
import MessageContract.Proofs.Remote
import MessageContract.Proofs.Url.Percent
import Mathlib.Data.List.Basic

/-!
# Segments of paths

`.` and `..` take effect when segments are appended to a path, in all their spellings. So no segment
of a `file` URL that was read leads up, not even with its escapes undone (`Url.parse_isDescent`).
-/

namespace MessageContract

/-! ## Pieces of texts -/

namespace Text

variable {sep : Char} {cs : List Char}

theorem splitAt_of_not_mem (h : sep ∉ cs) : splitAt sep cs = [cs] := by
  induction cs with
  | nil => rfl
  | cons c cs ih =>
    obtain ⟨hc, hcs⟩ := not_or.1 (List.mem_cons.not.1 h)
    simp only [splitAt, beq_iff_eq, Ne.symm hc, if_false, ih hcs]

theorem splitAt_append (h : sep ∉ cs) (rest : List Char) :
    splitAt sep (cs ++ sep :: rest) = cs :: splitAt sep rest := by
  induction cs with
  | nil => simp [splitAt]
  | cons c cs ih =>
    obtain ⟨hc, hcs⟩ := not_or.1 (List.mem_cons.not.1 h)
    simp only [List.cons_append, splitAt, beq_iff_eq, Ne.symm hc, if_false, ih hcs]

theorem not_mem_of_mem_splitAt {piece : List Char} (h : piece ∈ splitAt sep cs) : sep ∉ piece := by
  induction cs generalizing piece with
  | nil =>
    rw [List.mem_singleton.1 h]
    exact List.not_mem_nil
  | cons c cs ih =>
    rw [splitAt] at h
    split at h
    · obtain rfl | h := List.mem_cons.1 h
      · exact List.not_mem_nil
      · exact ih h
    · next hc =>
      have hc : sep ≠ c := fun heq => hc (beq_iff_eq.2 heq.symm)
      split at h
      · rw [List.mem_singleton.1 h]
        exact List.not_mem_cons_of_ne_of_not_mem hc List.not_mem_nil
      · next first rest hpieces =>
        obtain rfl | h := List.mem_cons.1 h
        · exact List.not_mem_cons_of_ne_of_not_mem hc (ih (hpieces ▸ List.mem_cons_self))
        · exact ih (hpieces ▸ List.mem_cons_of_mem _ h)

end Text

namespace Url

/-! ## Appending segments -/

theorem stepUp_subset (segs : List (List Char)) : stepUp segs ⊆ segs := by
  unfold stepUp
  split
  · exact List.Subset.refl segs
  · exact List.dropLast_subset segs

/-- What a path keeps to which segments are appended. Only segments that do not lead up are
written. -/
theorem forall_mem_appendSegments {P : List Char → Prop} {kind : Kind}
    {path segs : List (List Char)} (hempty : P [])
    (hdrive : ∀ seg, isDriveLetter seg = true → P [seg.headD 'c', ':'])
    (hsegs : ∀ seg ∈ segs, decodeBytes seg ≠ [FilePath.dot, FilePath.dot] → P (encode inPath seg))
    (hpath : ∀ seg ∈ path, P seg) : ∀ seg ∈ appendSegments kind path segs, P seg := by
  induction segs generalizing path with
  | nil => exact hpath
  | cons seg rest ih =>
    obtain ⟨hseg, hrest⟩ := List.forall_mem_cons.1 hsegs
    have happend : ∀ {path : List (List Char)} {last : List Char},
        (∀ seg ∈ path, P seg) → P last → ∀ seg ∈ path ++ [last], P seg := by
      intro path last hpath hlast seg hmem
      obtain hmem | hmem := List.mem_append.1 hmem
      · exact hpath seg hmem
      · exact List.mem_singleton.1 hmem ▸ hlast
    have hup : ∀ seg ∈ stepUp path, P seg := fun seg hmem => hpath seg (stepUp_subset path hmem)
    rw [appendSegments]
    refine ih hrest ?_
    split
    · split
      · exact happend hup hempty
      · exact hup
    · next hdots =>
      split
      · split
        · exact happend hpath hempty
        · exact hpath
      · split
        · next hletter => exact happend hpath (hdrive seg (Bool.and_eq_true_iff.1 hletter).2)
        · refine happend hpath (hseg fun heq => hdots ?_)
          -- every spelling of two dots takes effect
          obtain ⟨first, hfirst, second, hsecond, rfl⟩ := exists_dots heq
          simp only [dots, List.mem_cons, List.not_mem_nil, or_false] at hfirst hsecond
          obtain rfl | rfl | rfl := hfirst <;> obtain rfl | rfl | rfl := hsecond <;> rfl

/-! ## Segments that are names -/

/-- A segment that is one piece of a path and does not lead up when its escapes are undone. -/
structure IsName (seg : List Char) : Prop where
  whole : '/' ∉ seg
  down : decodeBytes seg ≠ [FilePath.dot, FilePath.dot]

theorem isName_nil : IsName [] := ⟨List.not_mem_nil, by decide⟩

theorem isName_drive {seg : List Char} (h : isDriveLetter seg = true) :
    IsName [seg.headD 'c', ':'] := by
  unfold isDriveLetter at h
  split at h
  · next a b =>
    have ha := (Bool.and_eq_true_iff.1 h).1
    constructor
    · intro hmem
      obtain rfl | hmem := List.mem_cons.1 hmem
      · exact absurd ha (by decide)
      · exact absurd hmem (by decide)
    · intro hdots
      obtain ⟨first, hfirst, second, hsecond, heq⟩ := exists_dots hdots
      simp only [dots, List.mem_cons, List.not_mem_nil, or_false] at hfirst hsecond
      obtain rfl | rfl | rfl := hfirst <;> obtain rfl | rfl | rfl := hsecond <;> cases heq
  · cases h

theorem inPath_of_hexDigit? {c : Char} {n : Nat} (h : hexDigit? c = some n) :
    inPath c = false := by
  have hascii : ∀ k < 128, ∀ n ∈ hexDigit? (Char.ofNat k), inPath (Char.ofNat k) = false := by
    decide
  have hc := hascii c.toNat (Nat.lt_succ_of_le (toNat_le_of_hexDigit? h))
  rw [Char.ofNat_toNat] at hc
  exact hc n h

theorem isName_encode {seg : List Char} (hwhole : '/' ∉ seg)
    (hdown : decodeBytes seg ≠ [FilePath.dot, FilePath.dot]) : IsName (encode inPath seg) := by
  constructor
  · exact fun h => hwhole (mem_of_mem_encode (by decide) (by decide) h).1
  · rwa [decodeBytes_encode_of_digits (by decide) fun c n => inPath_of_hexDigit?]

/-- A path that begins at the root and goes down names only. -/
def IsDescent (path : String) : Prop :=
  segmentsOf path ≠ [] ∧ ∀ seg ∈ segmentsOf path, IsName seg

theorem segmentsOf_flatMap {segs : List (List Char)} (hne : segs ≠ [])
    (h : ∀ seg ∈ segs, '/' ∉ seg) :
    segmentsOf (String.ofList (segs.flatMap ('/' :: ·))) = segs := by
  have hsplit : ∀ seg segs, (∀ s ∈ seg :: segs, '/' ∉ s) →
      Text.splitAt '/' (seg ++ segs.flatMap ('/' :: ·)) = seg :: segs := by
    intro seg segs h
    induction segs generalizing seg with
    | nil =>
      rw [List.flatMap_nil, List.append_nil, Text.splitAt_of_not_mem (h seg List.mem_cons_self)]
    | cons next segs ih =>
      rw [List.flatMap_cons, List.cons_append, Text.splitAt_append (h seg List.mem_cons_self),
        ih next (List.forall_mem_cons.1 h).2]
  obtain ⟨seg, segs, rfl⟩ := List.exists_cons_of_ne_nil hne
  rw [segmentsOf, String.toList_ofList, List.flatMap_cons]
  exact hsplit seg segs h

/-- What is written from names is read back as names. -/
theorem isDescent_writeSegments {segs : List (List Char)} (h : ∀ seg ∈ segs, IsName seg) :
    IsDescent (writeSegments .file segs) := by
  have hread : ∀ segs : List (List Char), segs ≠ [] → (∀ seg ∈ segs, IsName seg) →
      IsDescent (String.ofList (segs.flatMap ('/' :: ·))) := by
    intro segs hne h
    rw [IsDescent, segmentsOf_flatMap hne fun seg hseg => (h seg hseg).whole]
    exact ⟨hne, h⟩
  unfold writeSegments
  rw [if_pos rfl]
  dsimp only
  refine hread _ ?_ ?_
  · split
    · exact List.cons_ne_nil _ _
    · next hne => exact fun heq => hne (List.isEmpty_iff.2 heq)
  · split
    · exact fun seg hseg => List.mem_singleton.1 hseg ▸ isName_nil
    · exact fun seg hseg => h seg (List.dropWhile_sublist _ |>.subset hseg)

/-! ## URLs of files -/

theorem isDescent_appendSegments {segs : List (List Char)} (h : ∀ seg ∈ segs, '/' ∉ seg) :
    IsDescent (writeSegments .file (appendSegments .file [] segs)) :=
  isDescent_writeSegments (forall_mem_appendSegments isName_nil (fun _ => isName_drive)
    (fun seg hseg => isName_encode (h seg hseg)) (by simp))

theorem isDescent_fileUrl (cs : List Char) : IsDescent (fileUrl [] cs).path :=
  isDescent_appendSegments fun _ => Text.not_mem_of_mem_splitAt

theorem isDescent_hostedFileUrl (host : String) (cs : List Char) :
    IsDescent (hostedFileUrl host cs).path :=
  isDescent_appendSegments fun _ => Text.not_mem_of_mem_splitAt

variable {u : Url}

/-- Without a base, all path segments come from the text. -/
theorem readFile_none_cases {cs : List Char} (h : readFile none cs = .ok u) :
    (∃ rest, u = fileUrl [] rest) ∨ ∃ host rest, u = hostedFileUrl host rest := by
  have hpure : ∀ rest, (pure (fileUrl [] rest) : Except UrlError Url) = .ok u →
      ∃ rest, u = fileUrl [] rest := fun rest heq => ⟨rest, (Except.ok.inj heq).symm⟩
  unfold readFile at h
  extract_lets beside at h
  have hbeside : ∃ rest, beside = fileUrl [] rest := by
    simp only [beside]
    split
    · next heq => cases heq
    · exact ⟨_, rfl⟩
    · exact ⟨_, rfl⟩
  clear_value beside
  obtain ⟨text, rfl⟩ := hbeside
  split at h
  · dsimp only at h
    split at h
    · split at h
      · exact .inl (hpure _ h)
      · split at h
        · exact .inl (hpure _ h)
        · obtain ⟨host, -, h⟩ := bind_eq_ok h
          split at h
          · exact .inl (hpure _ h)
          · exact .inr ⟨host, _, (Except.ok.inj h).symm⟩
    · exact .inl (hpure _ h)
  · exact .inl (hpure _ h)

/-- The path of a `file` URL that is read goes down only. -/
theorem parse_isDescent {s : String} (h : parse s = .ok u) (hscheme : u.scheme = "file") :
    IsDescent u.path := by
  unfold parse at h
  split at h
  · next scheme rest hsplit =>
    unfold readWithScheme at h
    have hkind : kindOf scheme ≠ .file → u.scheme ≠ scheme := by
      rintro hkind rfl
      exact hkind (by rw [hscheme]; rfl)
    split at h
    · obtain ⟨cs, rfl⟩ | ⟨host, cs, rfl⟩ := readFile_none_cases h
      · exact isDescent_fileUrl cs
      · exact isDescent_hostedFileUrl host cs
    · next hspecial =>
      dsimp only [Option.filter_none] at h
      exact absurd (readAuthority_scheme h) (hkind (by simp [hspecial]))
    · next hplain =>
      have hne := hkind (by simp [hplain])
      split at h
      · exact absurd (readAuthority_scheme h) hne
      · dsimp only at h
        split at h
        · exact absurd (Except.ok.inj h ▸ rfl) hne
        · exact absurd (Except.ok.inj h ▸ rfl) hne
  · cases h

end Url
end MessageContract
