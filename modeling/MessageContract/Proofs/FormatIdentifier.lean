import MessageContract.SchemaFormat.Basic
import Mathlib.Data.List.Permutation
import Mathlib.Data.List.TakeWhile

/-!
# Identifiers of formats

What an identifier may look like is one grammar for both built-in formats: a name, possibly an
encoding, possibly parameters with a fixed start (`SchemaFormat.Spells`). The formats cover exactly
the identifiers of the grammar, and no identifier belongs to both, so the order in which they are
asked does not matter. Blanks and the case of letters do not matter either
(`SchemaFormat.normalizeId_eq_iff`, `Registry.find?_default`).
-/

namespace MessageContract

variable {c d : Char} {cs ds sep before rest : List Char} {s t id : String}

/-- A separator is found in front of its first occurrence. -/
theorem Text.cut?_append (hd : d ∉ before) :
    Text.cut? (d :: sep) (before ++ (d :: sep ++ rest)) = some (before, rest) := by
  induction before with
  | nil =>
    have hafter : Text.after? (d :: sep) (d :: (sep ++ rest)) = some rest :=
      Text.after?_eq_some_iff.2 rfl
    simp only [List.nil_append, List.cons_append, Text.cut?, hafter]
  | cons b before ih =>
    rw [List.mem_cons, not_or] at hd
    have hafter : Text.after? (d :: sep) (b :: (before ++ (d :: sep ++ rest))) = none := by
      rw [Text.after?, if_neg hd.1]
    rw [List.cons_append, Text.cut?, hafter, ih hd.2]
    rfl

namespace SchemaFormat

/-! ## Two texts with the same letters -/

/-- Two texts that differ only in blanks and in the case of ASCII letters. -/
inductive SameLetters : List Char → List Char → Prop
  | nil : SameLetters [] []
  | blankLeft {c : Char} {cs ds : List Char} (blank : isBlank c = true)
      (rest : SameLetters cs ds) : SameLetters (c :: cs) ds
  | blankRight {d : Char} {cs ds : List Char} (blank : isBlank d = true)
      (rest : SameLetters cs ds) : SameLetters cs (d :: ds)
  | letter {c d : Char} {cs ds : List Char} (same : c.toLower = d.toLower)
      (rest : SameLetters cs ds) : SameLetters (c :: cs) (d :: ds)

/-- The characters of a normal identifier. -/
def lettersOf (cs : List Char) : List Char := (cs.filter (!isBlank ·)).map Char.toLower

theorem lettersOf_blank (h : isBlank c = true) : lettersOf (c :: cs) = lettersOf cs := by
  simp [lettersOf, h]

theorem lettersOf_letter (h : isBlank c = false) :
    lettersOf (c :: cs) = c.toLower :: lettersOf cs := by
  simp [lettersOf, h]

/-- No blank has a case. -/
theorem isBlank_toLower (c : Char) : isBlank c.toLower = isBlank c := by
  have hascii : ∀ n < 128, isBlank (Char.ofNat n).toLower = isBlank (Char.ofNat n) := by decide
  by_cases h : c.toNat < 128
  · have hc := hascii c.toNat h
    rwa [Char.ofNat_toNat] at hc
  · have hlower : c.toLower = c := by
      unfold Char.toLower
      split
      · next hupper =>
        have hhigh : c.val.toNat ≤ 90 := hupper.2
        exact absurd (Nat.lt_of_le_of_lt hhigh (by decide)) h
      · rfl
    rw [hlower]

/-- Blanks in front of a first letter can be taken away. -/
theorem sameLetters_of_lettersOf_eq (h : lettersOf cs = lettersOf ds) : SameLetters cs ds := by
  induction cs generalizing ds with
  | nil =>
    induction ds with
    | nil => exact .nil
    | cons d ds ih =>
      cases hd : isBlank d with
      | true => exact .blankRight hd (ih (h.trans (lettersOf_blank hd)))
      | false =>
        rw [lettersOf_letter hd] at h
        simp [lettersOf] at h
  | cons c cs ihc =>
    cases hc : isBlank c with
    | true => exact .blankLeft hc (ihc ((lettersOf_blank hc).symm.trans h))
    | false =>
      induction ds with
      | nil =>
        rw [lettersOf_letter hc] at h
        simp [lettersOf] at h
      | cons d ds ihd =>
        cases hd : isBlank d with
        | true => exact .blankRight hd (ihd (h.trans (lettersOf_blank hd)))
        | false =>
          rw [lettersOf_letter hc, lettersOf_letter hd, List.cons.injEq] at h
          exact .letter h.1 (ihc h.2)

theorem SameLetters.lettersOf_eq (h : SameLetters cs ds) : lettersOf cs = lettersOf ds := by
  induction h with
  | nil => rfl
  | blankLeft blank _ ih => rw [lettersOf_blank blank, ih]
  | blankRight blank _ ih => rw [lettersOf_blank blank, ih]
  | @letter c d cs ds same _ ih =>
    have hblank : isBlank c = isBlank d := by
      rw [← isBlank_toLower c, same, isBlank_toLower d]
    cases hd : isBlank d with
    | true => rw [lettersOf_blank (hblank.trans hd), lettersOf_blank hd, ih]
    | false => rw [lettersOf_letter (hblank.trans hd), lettersOf_letter hd, same, ih]

/-- Texts have the same normal identifier if and only if they differ in nothing that is dropped. -/
theorem normalizeId_eq_iff : normalizeId s = normalizeId t ↔ SameLetters s.toList t.toList := by
  rw [normalizeId, normalizeId, String.ofList_inj]
  exact ⟨sameLetters_of_lettersOf_eq, SameLetters.lettersOf_eq⟩

/-! ## The grammar -/

/-- One of some names, then possibly an encoding, then nothing or parameters with a start. -/
def Spells (names : List String) (start id : String) : Prop :=
  ∃ name ∈ names, ∃ encoding ∈ ["", "+json", "+yaml"], ∃ tail,
    (tail = "" ∨ ∃ more, tail = start ++ more) ∧ id = name ++ encoding ++ tail

def nativeNames : List String := ["application/vnd.aai.asyncapi", "application/schema"]

def openApiNames : List String := ["application/vnd.oai.openapi"]

/-- The identifiers of AsyncAPI schema objects and JSON Schema. -/
def SpellsNative (id : String) : Prop := Spells nativeNames ";" id

/-- The identifiers of schema objects of OpenAPI 3.0. -/
def SpellsOpenApi (id : String) : Prop := Spells openApiNames ";version=3.0" id

/-- What follows the name of a format. -/
def Trails (start rest : List Char) : Prop :=
  ∃ encoding ∈ encodings, rest = encoding ∨ ∃ more, rest = encoding ++ (start ++ more)

theorem spells_iff {names : List String} {start : String} : Spells names start id ↔
    ∃ name ∈ names, ∃ rest, id.toList = name.toList ++ rest ∧ Trails start.toList rest := by
  constructor
  · rintro ⟨name, hname, encoding, hencoding, tail, htail, rfl⟩
    have hin : encoding.toList ∈ encodings :=
      List.mem_map_of_mem (f := String.toList) hencoding
    refine ⟨name, hname, encoding.toList ++ tail.toList, by simp, encoding.toList, hin, ?_⟩
    obtain rfl | ⟨more, rfl⟩ := htail
    · exact .inl (by simp)
    · exact .inr ⟨more.toList, by simp⟩
  · rintro ⟨name, hname, rest, hid, encoding, hencoding, hrest⟩
    obtain ⟨text, htext, rfl⟩ : ∃ text ∈ ["", "+json", "+yaml"], text.toList = encoding := by
      simpa [encodings, eq_comm] using hencoding
    obtain rfl | ⟨more, rfl⟩ := hrest
    · refine ⟨name, hname, text, htext, "", .inl rfl, ?_⟩
      rw [← String.toList_inj, hid]
      simp
    · refine ⟨name, hname, text, htext, start ++ String.ofList more, .inr ⟨_, rfl⟩, ?_⟩
      rw [← String.toList_inj, hid]
      simp

/-! ## The formats -/

/-- No encoding has a semicolon, so what stands before the first one is the encoding. -/
theorem semicolon_not_mem : ∀ encoding ∈ encodings, ';' ∉ encoding := by decide

theorem contains_beforeSemicolon_iff :
    encodings.contains (beforeSemicolon rest) = true ↔ Trails [';'] rest := by
  rw [List.contains_iff_mem]
  constructor
  · intro h
    refine ⟨beforeSemicolon rest, h, ?_⟩
    have hsplit : rest = beforeSemicolon rest ++ rest.dropWhile (· != ';') :=
      List.takeWhile_append_dropWhile.symm
    cases hdrop : rest.dropWhile (· != ';') with
    | nil => exact .inl (by rw [hdrop, List.append_nil] at hsplit; exact hsplit)
    | cons d more =>
      have hd : d = ';' := by
        have hhead := List.head?_dropWhile_not (· != ';') rest
        rw [hdrop] at hhead
        simpa using hhead
      subst hd
      exact .inr ⟨more, by rw [hdrop] at hsplit; exact hsplit⟩
  · rintro ⟨encoding, hencoding, hrest⟩
    have hkeep : ∀ c ∈ encoding, (c != ';') = true := by
      intro c hc
      rw [bne_iff_ne]
      rintro rfl
      exact semicolon_not_mem encoding hencoding hc
    have hbefore : beforeSemicolon rest = encoding := by
      obtain rfl | ⟨more, rfl⟩ := hrest
      · exact List.takeWhile_eq_self_iff.2 hkeep
      · rw [beforeSemicolon, List.takeWhile_append_of_pos hkeep]
        simp
    rwa [hbefore]

theorem supports_native : native.supports = isNativeId := rfl

theorem supports_openApi : openApi.supports = isOpenApiId := rfl

theorem isNativeId_iff : isNativeId id = true ↔ SpellsNative id := by
  rw [SpellsNative, spells_iff, isNativeId, List.any_eq_true]
  refine exists_congr fun name => and_congr_right fun _ => ?_
  simp only [← Text.after?_eq_some_iff]
  cases Text.after? name.toList id.toList with
  | none => simp
  | some rest => simpa using contains_beforeSemicolon_iff

/-- The version is read behind the first place where one starts. -/
theorem version_iff :
    (match Text.cut? ";version=".toList rest with
      | some (media, version) =>
        encodings.contains media && (Text.after? "3.0".toList version).isSome
      | none => encodings.contains rest) = true ↔ Trails ";version=3.0".toList rest := by
  constructor
  · intro h
    cases hcut : Text.cut? ";version=".toList rest with
    | none =>
      rw [hcut, List.contains_iff_mem] at h
      exact ⟨rest, h, .inl rfl⟩
    | some parts =>
      obtain ⟨media, version⟩ := parts
      rw [hcut, Bool.and_eq_true, List.contains_iff_mem] at h
      obtain ⟨more, hmore⟩ := Option.isSome_iff_exists.1 h.2
      refine ⟨media, h.1, .inr ⟨more, ?_⟩⟩
      rw [Text.eq_of_cut? hcut, Text.after?_eq_some_iff.1 hmore]
      rfl
  · rintro ⟨encoding, hencoding, rfl | ⟨more, rfl⟩⟩
    · have hnone : ∀ encoding ∈ encodings, Text.cut? ";version=".toList encoding = none := by decide
      rw [hnone rest hencoding]
      exact List.contains_iff_mem.2 hencoding
    · have hcut : Text.cut? ";version=".toList (encoding ++ (";version=3.0".toList ++ more)) =
          some (encoding, "3.0".toList ++ more) :=
        Text.cut?_append (semicolon_not_mem encoding hencoding)
      rw [hcut, Bool.and_eq_true, List.contains_iff_mem, Text.after?_eq_some_iff.2 rfl]
      exact ⟨hencoding, rfl⟩

theorem isOpenApiId_iff : isOpenApiId id = true ↔ SpellsOpenApi id := by
  rw [SpellsOpenApi, spells_iff, isOpenApiId]
  simp only [openApiNames, List.mem_singleton, exists_eq_left, ← Text.after?_eq_some_iff]
  cases Text.after? "application/vnd.oai.openapi".toList id.toList with
  | none => simp
  | some rest =>
    simp only [Option.some.injEq, exists_eq_left']
    exact version_iff

/-- The names part before the seventeenth character is over. -/
theorem spells_disjoint : ¬(SpellsNative id ∧ SpellsOpenApi id) := by
  rintro ⟨hnative, hopen⟩
  obtain ⟨name, hname, rest, hid, -⟩ := spells_iff.1 hnative
  obtain ⟨other, hother, rest', hid', -⟩ := spells_iff.1 hopen
  have hlong : ∀ text ∈ nativeNames ++ openApiNames, 17 ≤ text.toList.length := by decide
  have hapart : ∀ name ∈ nativeNames, ∀ other ∈ openApiNames,
      name.toList.take 17 ≠ other.toList.take 17 := by decide
  refine hapart name hname other hother ?_
  have hsame := congrArg (List.take 17) (hid.symm.trans hid')
  rwa [List.take_append_of_le_length (hlong name (List.mem_append_left _ hname)),
    List.take_append_of_le_length (hlong other (List.mem_append_right _ hother))] at hsame

end SchemaFormat

/-! ## The built-in registry -/

open SchemaFormat

/-- A format that none of the others overlaps is found wherever it stands. -/
theorem Registry.find?_pair {f g : SchemaFormat} (s : String)
    (h : ¬(f.supports (normalizeId s) = true ∧ g.supports (normalizeId s) = true)) :
    Registry.find? [f, g] s = Registry.find? [g, f] s := by
  simp only [Registry.find?, List.find?_cons, List.find?_nil]
  cases hf : f.supports (normalizeId s) with
  | true =>
    cases hg : g.supports (normalizeId s) with
    | true => exact absurd ⟨hf, hg⟩ h
    | false => rfl
  | false => cases g.supports (normalizeId s) <;> rfl

theorem SchemaFormat.native_ne_openApi : native ≠ openApi := by
  intro h
  exact absurd (congrArg SchemaFormat.name h) (by decide)

/-- The built-in formats are found by the grammar alone: in whatever order they are asked, and
whatever blanks and capital letters an identifier has. -/
theorem Registry.find?_default (s : String) :
    (Registry.default.find? s = some .native ↔ SpellsNative (normalizeId s)) ∧
      (Registry.default.find? s = some .openApi ↔ SpellsOpenApi (normalizeId s)) ∧
      (Registry.default.find? s = none ↔
        ¬SpellsNative (normalizeId s) ∧ ¬SpellsOpenApi (normalizeId s)) ∧
      (∀ id, ¬(SpellsNative id ∧ SpellsOpenApi id)) ∧
      (∀ r : Registry, r.Perm Registry.default → r.find? s = Registry.default.find? s) ∧
      ∀ (r : Registry) t, SameLetters s.toList t.toList → r.find? s = r.find? t := by
  have hnative : native.supports (normalizeId s) = true ↔ SpellsNative (normalizeId s) := by
    rw [supports_native, isNativeId_iff]
  have hopen : openApi.supports (normalizeId s) = true ↔ SpellsOpenApi (normalizeId s) := by
    rw [supports_openApi, isOpenApiId_iff]
  have hapart : ¬(SpellsNative (normalizeId s) ∧ SpellsOpenApi (normalizeId s)) := spells_disjoint
  have hdefault : Registry.default.find? s =
      if native.supports (normalizeId s) then some native
      else if openApi.supports (normalizeId s) then some openApi else none := by
    simp only [Registry.default, Registry.find?, List.find?_cons, List.find?_nil]
    cases native.supports (normalizeId s) <;> cases openApi.supports (normalizeId s) <;> rfl
  have hne : some native ≠ some openApi := fun h => native_ne_openApi (Option.some.inj h)
  refine ⟨?native, ?openApi, ?none, fun id => spells_disjoint, ?order, ?letters⟩
  case native =>
    rw [hdefault, ← hnative]
    split
    · next h => exact iff_of_true rfl h
    · next h =>
      refine iff_of_false ?_ h
      split
      · exact hne.symm
      · exact nofun
  case openApi =>
    rw [hdefault, ← hopen]
    split
    · next h =>
      refine iff_of_false hne ?_
      intro ho
      exact hapart ⟨hnative.1 h, hopen.1 ho⟩
    · simp
  case none =>
    rw [hdefault, ← hnative, ← hopen]
    split
    · next h => simp [h]
    · next h => simp [h]
  case order =>
    intro r hr
    obtain rfl | rfl := List.perm_pair.1 hr
    · rfl
    · refine Registry.find?_pair s ?_
      rintro ⟨ho, hn⟩
      exact hapart ⟨hnative.1 hn, hopen.1 ho⟩
  case letters =>
    intro r t h
    rw [Registry.find?, Registry.find?, normalizeId_eq_iff.2 h]

end MessageContract
