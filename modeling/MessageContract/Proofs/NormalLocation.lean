import MessageContract.Proofs.FilePath
import MessageContract.Proofs.Location
import MessageContract.Proofs.Url.Segment

/-!
# Normal locations

Normalizing a path once is enough (`FilePath.normalize_normalize`), and a path that is joined to
another one is normalized (`FilePath.normalize_joinTo`). So a chain of references leads to a file
whose path is normal, unless the last one is a `file` URL: its path is taken as it is, and a `..`
stands in it where it was hidden behind an escaped slash (`Location.joins_isNormal_iff`).
-/

namespace MessageContract

namespace FilePath

/-! ## Normal paths -/

/-- Normalizing leaves a path as it is. -/
def IsNormal (p : FilePath) : Prop := (p.normalize == p) = true

instance (p : FilePath) : Decidable p.IsNormal := inferInstanceAs (Decidable (_ = true))

theorem isNormal_iff (p : FilePath) : p.IsNormal ↔ p.normalize.components = p.components :=
  beq_iff_eq (α := List Component)

theorem Trail.Legible.normalize_written {t : Trail} (ht : t.Legible) :
    (ofComponents t.written).normalize = ofComponents t.written := by
  rw [normalize, ht.components, ht.normalizeComponents_written]

/-- Normalizing a second time changes nothing. -/
theorem normalize_normalize (p : FilePath) : p.normalize.normalize = p.normalize := by
  have hwritten : p.normalize = ofComponents p.trail.written := by
    rw [normalize, normalizeComponents_components]
  rw [hwritten, p.legible_trail.normalize_written]

/-- A trail that goes on by the components of a path stays one that can be written. -/
theorem exists_trail_follow {t : Trail} (ht : t.Legible) {cs components : List Component}
    (hcs : ∀ c ∈ cs, Legible c) (h : components = .current :: cs ∨ components = cs) :
    ∃ u : Trail, u.Legible ∧ components.foldl follow t.written = u.written := by
  refine ⟨cs.foldl Trail.follow t, ht.foldl hcs, ?_⟩
  rw [← Trail.foldl_written t (root_not_mem hcs)]
  obtain rfl | rfl := h <;> rfl

/-- A directory is legible past what only stands at the start of a path. -/
theorem directory_cases (p : FilePath) : ∃ cs, (∀ c ∈ cs, Legible c) ∧
    (p.directory = .root :: cs ∨ p.directory = .current :: cs ∨ p.directory = cs) := by
  obtain ⟨cs, hcs, hp⟩ := p.components_cases
  obtain rfl | ⟨init, c, rfl⟩ := cs.eq_nil_or_concat'
  · refine ⟨[], by simp, .inr (.inr ?_)⟩
    obtain ⟨h, -⟩ | ⟨-, h | h⟩ := hp <;> rw [directory, h] <;> rfl
  · obtain ⟨hinit, hc⟩ := List.forall_mem_append.1 hcs
    have hup := fun front => above?_append front (hc c List.mem_cons_self).ne_root
    refine ⟨init, hinit, ?_⟩
    obtain ⟨h, -⟩ | ⟨-, h | h⟩ := hp
    · exact .inl (by rw [directory, h, ← List.cons_append, hup, Option.getD_some])
    · exact .inr (.inl (by rw [directory, h, ← List.cons_append, hup, Option.getD_some]))
    · exact .inr (.inr (by rw [directory, h, hup, Option.getD_some]))

/-- A path that is joined to another one is normal. -/
theorem normalize_joinTo (base reference : FilePath) :
    (base.joinTo reference).normalize = base.joinTo reference := by
  obtain ⟨cs, hcs, ⟨-, habs⟩ | ⟨habs, hr⟩⟩ := reference.components_cases
  · rw [joinTo, if_pos habs, normalize_normalize]
  · obtain ⟨t, ht, hdirectory⟩ : ∃ t : Trail, t.Legible ∧
        base.directory.foldl follow [] = t.written := by
      obtain ⟨ds, hds, h | h⟩ := base.directory_cases
      · rw [h]
        exact exists_trail_follow (t := ⟨true, 0, []⟩) (by simp [Trail.Legible]) hds (.inr rfl)
      · exact exists_trail_follow (t := ⟨false, 0, []⟩) (by simp [Trail.Legible]) hds h
    obtain ⟨u, hu, hnormal⟩ := exists_trail_follow ht hcs hr
    rw [joinTo, habs, if_neg Bool.false_ne_true, normalizeComponents, List.foldl_append, hdirectory,
      hnormal, hu.normalize_written]

theorem IsNormal.of_eq {p : FilePath} (h : p.normalize = p) : p.IsNormal := by
  rw [isNormal_iff, h]

/-- What is legible and does not lead up goes down by names. -/
theorem exists_names {cs : List Component} (h : ∀ c ∈ cs, Legible c) (hparent : .parent ∉ cs) :
    ∃ names : List (List UInt8), cs = names.map .name := by
  induction cs with
  | nil => exact ⟨[], rfl⟩
  | cons c cs ih =>
    obtain ⟨hc, hcs⟩ := List.forall_mem_cons.1 h
    obtain ⟨hne, hrest⟩ := not_or.1 (List.mem_cons.not.1 hparent)
    obtain ⟨names, rfl⟩ := ih hcs hrest
    cases c with
    | root => exact absurd rfl hc.ne_root
    | current => exact absurd rfl hc.bytes_ne_dot
    | parent => exact absurd rfl hne
    | name n => exact ⟨n :: names, rfl⟩

/-- Normalizing leaves one `..` at most, in front of all names. -/
theorem Trail.parent_not_mem_written (t : Trail) : .parent ∉ t.written.drop 2 := by
  obtain ⟨a, s, names⟩ := t
  have hdrop : ∀ n, .parent ∉ (names.map Component.name).drop n :=
    fun n h => by simpa using List.mem_of_mem_drop h
  have htail : .parent ∉ (names.map Component.name).tail := List.drop_one ▸ hdrop 1
  obtain hs | hs := Nat.mod_two_eq_zero_or_one s <;> cases a <;> simp [written, hs, hdrop, htail]

/-- An absolute path is normal exactly if no `..` stands behind its first component. -/
theorem isNormal_iff_of_isAbsolute {p : FilePath} (h : p.isAbsolute = true) :
    p.IsNormal ↔ .parent ∉ p.components.drop 2 := by
  rw [isNormal_iff, components_normalize]
  constructor
  · intro heq
    rw [← heq]
    exact p.trail.parent_not_mem_written
  · intro hparent
    -- behind the root stand a name or a `..`, and then names
    obtain ⟨cs, hcs, ⟨hp, -⟩ | ⟨habs, -⟩⟩ := p.components_cases
    · rw [trail, hp]
      rw [hp] at hparent
      cases cs with
      | nil => rfl
      | cons c cs =>
        obtain ⟨hc, hcs⟩ := List.forall_mem_cons.1 hcs
        obtain ⟨names, rfl⟩ := exists_names hcs hparent
        rw [List.foldl_cons, List.foldl_cons, Trail.foldl_names]
        cases c with
        | root => exact absurd rfl hc.ne_root
        | current => exact absurd rfl hc.bytes_ne_dot
        | parent => rfl
        | name n => rfl
    · exact absurd (h.symm.trans habs) (by decide)

/-! ## Paths of URLs -/

/-- The components within a path. -/
def within (bytes : List UInt8) : List Component := (pieces bytes).filterMap componentOf?

theorem within_append_slash (a b : List UInt8) :
    within (a ++ slash :: b) = within a ++ within b := by
  rw [within, pieces_append_slash, List.filterMap_append]
  rfl

theorem within_flatMap {α : Type} (f : α → List UInt8) (xs : List α) :
    within (xs.flatMap fun x => slash :: f x) = xs.flatMap fun x => within (f x) := by
  have hfront : ∀ (a : List UInt8) (xs : List α),
      within (a ++ xs.flatMap fun x => slash :: f x) =
        within a ++ xs.flatMap fun x => within (f x) := by
    intro a xs
    induction xs generalizing a with
    | nil => simp
    | cons x xs ih =>
      rw [List.flatMap_cons, List.flatMap_cons, List.cons_append, within_append_slash, ih]
  exact hfront [] xs

theorem components_of_isAbsolute {p : FilePath} (h : p.isAbsolute = true) :
    p.components = .root :: within p.bytes := by
  rw [components, h]
  rfl

/-- A piece without slashes that is no `..` does not lead up. -/
theorem parent_not_mem_within {bytes : List UInt8} (hslash : slash ∉ bytes)
    (hdots : bytes ≠ [dot, dot]) : .parent ∉ within bytes := by
  intro hmem
  rw [within, pieces_of_not_mem hslash] at hmem
  obtain ⟨piece, hpiece, hparent⟩ := List.mem_filterMap.1 hmem
  obtain rfl := List.mem_singleton.1 hpiece
  rw [componentOf?, if_neg hdots] at hparent
  split at hparent <;> cases hparent

end FilePath

namespace Url

/-- A slash is escaped in a segment of the path. -/
def HasEscapedSlash (u : Url) : Prop :=
  ∃ seg ∈ segmentsOf u.path, FilePath.slash ∈ decodeBytes seg

variable {u : Url} {bytes : List UInt8}

/-- Behind a drive letter the path of a file gets one more slash. -/
theorem filePath?_cases (h : u.filePath? = some bytes) :
    let path := (segmentsOf u.path).flatMap fun seg => FilePath.slash :: decodeBytes seg
    bytes = path ∨ bytes = path ++ [FilePath.slash] := by
  unfold filePath? at h
  split at h
  · cases h
  · dsimp only at h
    split at h
    · split at h
      · exact .inr (Option.some.inj h).symm
      · exact .inl (Option.some.inj h).symm
    · exact .inl (Option.some.inj h).symm

theorem isAbsolute_filePath? (hpath : IsDescent u.path) (h : u.filePath? = some bytes) :
    (FilePath.mk bytes).isAbsolute = true := by
  obtain ⟨seg, segs, hsegs⟩ := List.exists_cons_of_ne_nil hpath.1
  obtain rfl | rfl := filePath?_cases h <;> rw [hsegs] <;> rfl

/-- The file of a URL has the components of the segments, with their escapes undone. -/
theorem components_filePath? (hpath : IsDescent u.path) (h : u.filePath? = some bytes) :
    (FilePath.mk bytes).components =
      .root :: (segmentsOf u.path).flatMap fun seg => FilePath.within (decodeBytes seg) := by
  rw [FilePath.components_of_isAbsolute (isAbsolute_filePath? hpath h),
    ← FilePath.within_flatMap]
  obtain rfl | rfl := filePath?_cases h
  · rfl
  · rw [FilePath.within_append_slash]
    exact congrArg _ (List.append_nil _)

/-- A file URL leads up only behind an escaped slash. -/
theorem hasEscapedSlash_of_parent_mem (hpath : IsDescent u.path) (h : u.filePath? = some bytes)
    (hparent : .parent ∈ (FilePath.mk bytes).components) : u.HasEscapedSlash := by
  rw [components_filePath? hpath h, List.mem_cons] at hparent
  obtain hroot | hparent := hparent
  · cases hroot
  · obtain ⟨seg, hseg, hparent⟩ := List.mem_flatMap.1 hparent
    by_contra hslash
    refine FilePath.parent_not_mem_within ?_ (hpath.2 seg hseg).down hparent
    exact fun hmem => hslash ⟨seg, hseg, hmem⟩

end Url

namespace Location

/-! ## Chains of references -/

/-- Where references are resolved from first: a file, a URL, or what was given in memory. -/
inductive IsRoot : Location → Prop
  | ofPath (path : FilePath) : IsRoot (ofPath path)
  | url (u : Url) : IsRoot (.url u)
  | inline : IsRoot .inline

/-- Where a chain of references leads. -/
def joins (l : Location) (references : List String) : Except JoinError Location :=
  references.foldlM join l

/-- The path that a reference names as a `file` URL. -/
def urlPath? (reference : String) : Option FilePath :=
  match Url.parse reference with
  | .ok u => if u.scheme == "file" then u.filePath?.map FilePath.mk else none
  | .error _ => none

/-- A reference names, as a `file` URL, a path with a `..` behind its first component. -/
def climbs (reference : String) : Bool :=
  (urlPath? reference).any fun path => (path.components.drop 2).contains .parent

theorem urlPath?_of_parse {reference : String} {u : Url} (h : Url.parse reference = .ok u) :
    urlPath? reference = if u.scheme == "file" then u.filePath?.map FilePath.mk else none := by
  rw [urlPath?, h]

/-- What a reference names on its own: the path of a `file` URL as it is, an absolute path
normalized, a URL, or nothing. -/
inductive Names (reference : String) : Option Location → Prop
  | fileUrl {p : FilePath} (named : urlPath? reference = some p) : Names reference (some (.file p))
  | path {p : FilePath} (named : urlPath? reference = none) (normal : p.normalize = p) :
      Names reference (some (.file p))
  | url (u : Url) (named : urlPath? reference = none) : Names reference (some (.url u))
  | nothing (named : urlPath? reference = none) : Names reference none

theorem names_absolute? (reference : String) : Names reference (absolute? reference) := by
  have hpath : urlPath? reference = none →
      Names reference (if (FilePath.ofString reference).isAbsolute = true then
        some (Location.file (FilePath.ofString reference).normalize) else none) := by
    intro hnone
    split
    · exact .path hnone (FilePath.normalize_normalize _)
    · exact .nothing hnone
  unfold absolute?
  dsimp only
  split
  · next u hu =>
    have hurl := urlPath?_of_parse hu
    split
    · next hweb =>
      have hfile : (u.scheme == "file") = false := by
        simp only [Bool.or_eq_true, beq_iff_eq] at hweb
        obtain hscheme | hscheme := hweb <;> rw [hscheme] <;> rfl
      exact .url u (by rw [hurl, hfile, if_neg Bool.false_ne_true])
    · split
      · next hfile =>
        rw [if_pos hfile] at hurl
        cases hbytes : u.filePath? with
        | none => exact .nothing (by rw [hurl, hbytes, Option.map_none])
        | some bytes => exact .fileUrl (by rw [hurl, hbytes, Option.map_some])
      · next hfile => exact hpath (by rw [hurl, if_neg hfile])
  · next hu => exact hpath (by rw [urlPath?, hu])

/-- A file that is joined is that of a `file` URL, or has a normal path. -/
theorem join_file_cases {base : Location} {reference : String} {p : FilePath}
    (h : base.join reference = .ok (.file p)) :
    urlPath? reference = some p ∨ urlPath? reference = none ∧ p.normalize = p := by
  have hnames := names_absolute? reference
  unfold join at h
  split at h
  · next habs =>
    rw [habs, Except.ok.inj h] at hnames
    cases hnames with
    | fileUrl named => exact .inl named
    | path named normal => exact .inr ⟨named, normal⟩
  · next habs =>
    rw [habs] at hnames
    cases hnames with
    | nothing named =>
      refine .inr ⟨named, ?_⟩
      cases base with
      | file q =>
        cases h
        exact FilePath.normalize_joinTo _ _
      | url u =>
        -- against a URL, what is joined is a URL
        dsimp only at h
        split at h <;> cases h
      | inline => cases h

/-- The last reference decides where a chain leads; without any, the root is a normal file. -/
theorem joins_file_cases {root : Location} (hroot : root.IsRoot) {references : List String}
    {p : FilePath} (h : root.joins references = .ok (.file p)) :
    (references.getLast?.bind urlPath?) = some p ∨
      (references.getLast?.bind urlPath?) = none ∧ p.normalize = p := by
  obtain rfl | ⟨front, reference, rfl⟩ := references.eq_nil_or_concat'
  · refine .inr ⟨rfl, ?_⟩
    have hfile := Except.ok.inj h
    cases hroot with
    | ofPath path =>
      cases hfile
      exact FilePath.normalize_normalize path
    | url u => cases hfile
    | inline => cases hfile
  · rw [joins, List.foldlM_append] at h
    obtain ⟨base, -, hjoin⟩ := bind_eq_ok h
    rw [List.getLast?_concat, Option.bind_some]
    obtain ⟨l, hl, hlast⟩ := bind_eq_ok hjoin
    cases hlast
    exact join_file_cases hl

/-- The path of a `file` URL is normal exactly if no `..` stands behind its first component, and
otherwise a slash is escaped in the URL. -/
theorem urlPath?_spec {reference : String} {p : FilePath} (h : urlPath? reference = some p) :
    (p.IsNormal ↔ climbs reference = false) ∧
      (climbs reference = true → ∃ u, Url.parse reference = .ok u ∧ u.scheme = "file" ∧
        u.HasEscapedSlash) := by
  have hclimbs : climbs reference = true ↔ .parent ∈ p.components.drop 2 := by
    simp [climbs, h]
  unfold urlPath? at h
  split at h
  · next u hu =>
    split at h
    · next hfile =>
      have hscheme := beq_iff_eq.1 hfile
      obtain ⟨bytes, hbytes, rfl⟩ := Option.map_eq_some_iff.1 h
      have hpath := Url.parse_isDescent hu hscheme
      constructor
      · rw [FilePath.isNormal_iff_of_isAbsolute (Url.isAbsolute_filePath? hpath hbytes), ← hclimbs,
          Bool.not_eq_true]
      · intro hup
        exact ⟨u, hu, hscheme, Url.hasEscapedSlash_of_parent_mem hpath hbytes
          (List.mem_of_mem_drop (hclimbs.1 hup))⟩
    · cases h
  · cases h

/-- Normalizing twice is normalizing once, and a chain of references leads to a file whose path
normalizing leaves as it is, exactly unless the last one is a `file` URL with a `..` that an escaped
slash keeps from taking effect. Files with such paths are equal exactly if their normalized paths
are. -/
theorem joins_isNormal_iff {root : Location} (hroot : root.IsRoot) {references : List String}
    {p : FilePath} (h : root.joins references = .ok (.file p)) :
    (∀ path : FilePath, path.normalize.normalize = path.normalize) ∧
    (p.IsNormal ↔ references.getLast?.any climbs = false) ∧
    (references.getLast?.bind urlPath? = none → p.normalize = p) ∧
    (¬ p.IsNormal → ∃ reference ∈ references.getLast?, ∃ u, Url.parse reference = .ok u ∧
      u.scheme = "file" ∧ u.HasEscapedSlash) ∧
    (p.IsNormal → ∀ q : FilePath, q.IsNormal →
      ((Location.file p == Location.file q) = true ↔ p.normalize = q.normalize)) := by
  refine ⟨FilePath.normalize_normalize, ?_⟩
  have heq : p.IsNormal → ∀ q : FilePath, q.IsNormal →
      ((Location.file p == Location.file q) = true ↔ p.normalize = q.normalize) := by
    intro hp q hq
    rw [beq_file, ← p.isNormal_iff.1 hp, ← q.isNormal_iff.1 hq, FilePath.components_normalize,
      FilePath.components_normalize, FilePath.normalize_eq_iff]
  obtain hurl | ⟨hurl, hnormal⟩ := joins_file_cases hroot h
  · obtain ⟨reference, hlast, hpath⟩ := Option.bind_eq_some_iff.1 hurl
    obtain ⟨hiff, hslash⟩ := urlPath?_spec hpath
    rw [hurl, hlast, Option.any_some]
    refine ⟨hiff, nofun, fun hp => ⟨reference, rfl, hslash ?_⟩, heq⟩
    exact (Bool.not_eq_false _).mp (hiff.not.1 hp)
  · have hp := FilePath.IsNormal.of_eq hnormal
    refine ⟨iff_of_true hp ?_, fun _ => hnormal, fun hne => absurd hp hne, heq⟩
    cases hlast : references.getLast? with
    | none => rfl
    | some reference =>
      rw [hlast, Option.bind_some] at hurl
      rw [Option.any_some, climbs, hurl, Option.any_none]

theorem join_of_fileUrl (base : Location) {reference : String} (u : Url) {bytes : List UInt8}
    (hparse : Url.parse reference = .ok u) (hscheme : u.scheme = "file")
    (hbytes : u.filePath? = some bytes) : base.join reference = .ok (.file ⟨bytes⟩) := by
  have habs : absolute? reference = some (.file ⟨bytes⟩) := by
    simp only [absolute?, hparse, hscheme, hbytes]
    rfl
  simp only [join, habs]

theorem joins_isNormal_iff_spaced :
    ∃ p, (Location.ofPath (.ofString "specs/a.yaml")).joins
        ["../b.yaml", "file:///specs/%2e%2E/a%20b.yaml"] = .ok (.file p) ∧ p.IsNormal := by
  have hnone : absolute? "../b.yaml" = none := by decide +kernel
  have hfirst : ∀ path : FilePath, (Location.file path).join "../b.yaml" =
      .ok (.file (path.joinTo (.ofString "../b.yaml"))) := by
    intro path
    simp only [join, hnone]
  have hlast : ∀ base : Location, base.join "file:///specs/%2e%2E/a%20b.yaml" =
      .ok (.file (.ofString "/a b.yaml")) :=
    fun base => join_of_fileUrl base ⟨"file", "", none, none, "/a%20b.yaml", false, none, none⟩
      (by decide +kernel) rfl (by decide +kernel)
  have hjoin : (Location.ofPath (.ofString "specs/a.yaml")).joins
      ["../b.yaml", "file:///specs/%2e%2E/a%20b.yaml"] =
        .ok (.file (.ofString "/a b.yaml")) := by
    simp only [joins, List.foldlM_cons, ofPath, hfirst, hlast]
    rfl
  exact ⟨_, hjoin, (joins_isNormal_iff (.ofPath _) hjoin).2.1.2 (by decide +kernel)⟩

/-- A `..` between escaped slashes stays in the path of a file, which is then another location than
the same file without it. -/
theorem join_escaped_slash :
    Location.inline.join "file:///x%2F..%2Fb.yaml" = .ok (.file (.ofString "/x/../b.yaml")) ∧
    Location.inline.join "file:///b.yaml" = .ok (.file (.ofString "/b.yaml")) ∧
    ¬ (FilePath.ofString "/x/../b.yaml").IsNormal ∧
    (FilePath.ofString "/x/../b.yaml").normalize = .ofString "/b.yaml" ∧
    (Location.file (.ofString "/x/../b.yaml") == Location.file (.ofString "/b.yaml")) = false := by
  refine ⟨?_, ?_, by decide +kernel, by decide +kernel, by decide +kernel⟩
  · exact join_of_fileUrl _ ⟨"file", "", none, none, "/x%2F..%2Fb.yaml", false, none, none⟩
      (by decide +kernel) rfl (by decide +kernel)
  · exact join_of_fileUrl _ ⟨"file", "", none, none, "/b.yaml", false, none, none⟩
      (by decide +kernel) rfl (by decide +kernel)

end Location
end MessageContract
