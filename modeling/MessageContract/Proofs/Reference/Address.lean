import MessageContract.Proofs.Json.Place
import MessageContract.Proofs.Reference.Stack
import MessageContract.Proofs.Uri.Fragment
import MessageContract.Proofs.Url.Percent

/-!
# Addresses of nodes

The names and indices that lead to a node make a JSON Pointer (`Pointer.ofPath`), and a URI fragment
once the characters that a fragment cannot have are escaped (`Pointer.fragmentOfPath`). A reference
with the pointer behind the number sign leads to exactly that node, whatever the names are. In a
fragment the escapes are never undone: it leads to the place whose names are spelled with them
(`Sources.addressed`), so to the node if all characters of the names can stand in a fragment.
-/

namespace MessageContract

namespace Uri

/-- A text with the characters escaped that a fragment cannot have. -/
def escape (text : String) : String :=
  String.ofList (Url.encode (!isFragmentChar ·) text.toList)

theorem toList_escape (text : String) :
    (escape text).toList = Url.encode (!isFragmentChar ·) text.toList :=
  String.toList_ofList

theorem decode?_escape (text : String) : decode? (escape text) = some text := by
  rw [decode?, toList_escape, Url.decodeBytes_encode (by decide +kernel), ← Utf8.encode_eq,
    Utf8.decode?_encode]

theorem isHex_upperHex : ∀ n < 16, isHex (Url.upperHex n) = true := by
  decide

theorem take_escapeByte (ok : Char → Bool) (b : UInt8) (rest : List Char) :
    take ok (Url.escapeByte b ++ rest) =
      (take ok rest).map fun (t, r) => (Url.escapeByte b ++ t, r) := by
  have hb : b.toNat < 256 := b.toNat_lt
  have hhigh := isHex_upperHex (b.toNat / 16) (by omega)
  have hlow := isHex_upperHex (b.toNat % 16) (by omega)
  show take ok ('%' :: Url.upperHex (b.toNat / 16) :: Url.upperHex (b.toNat % 16) :: rest) = _
  rw [take, hhigh, hlow, Bool.and_self, if_pos rfl]
  rfl

theorem take_escapeBytes (ok : Char → Bool) (bytes : List UInt8) (rest : List Char) :
    take ok (bytes.flatMap Url.escapeByte ++ rest) =
      (take ok rest).map fun (t, r) => (bytes.flatMap Url.escapeByte ++ t, r) := by
  induction bytes with
  | nil =>
    show take ok rest = _
    cases take ok rest <;> rfl
  | cons b bytes ih =>
    rw [List.flatMap_cons, List.append_assoc, take_escapeByte, ih]
    cases take ok rest with
    | error e => rfl
    | ok x => simp [Except.map]

/-- Escaped, every text is a legal fragment. -/
theorem isFragment_escape (text : String) : IsFragment (escape text) := by
  rw [isFragment_iff, toList_escape]
  induction text.toList with
  | nil => exact ⟨[], rfl⟩
  | cons c cs ih =>
    obtain ⟨t, ht⟩ := ih
    rw [Url.encode_cons]
    split
    · rw [take_escapeBytes, ht]
      exact ⟨_, rfl⟩
    · next hc =>
      rw [Bool.or_eq_true, not_or, Bool.not_eq_true', Bool.not_eq_false] at hc
      have hne : c ≠ '%' := by
        rintro rfl
        exact absurd hc.1 (by decide +kernel)
      rw [List.singleton_append, take_cons hne, if_pos hc.1, ht]
      exact ⟨_, rfl⟩

/-- The characters of a fragment are all of ASCII. -/
theorem toNat_le_of_isFragmentChar {c : Char} (h : isFragmentChar c = true) : c.toNat ≤ 0x7F := by
  have hupto : ∀ d : Char, d.toNat ≤ 0x7F → c ≤ d → c.toNat ≤ 0x7F := fun _ hd hc =>
    Nat.le_trans hc hd
  have hlisted : ∀ s : String, (s.toList.all fun d => decide (d.toNat ≤ 0x7F)) = true →
      c ∈ s.toList → c.toNat ≤ 0x7F :=
    fun _ hs hc => of_decide_eq_true (List.all_eq_true.1 hs c hc)
  simp only [isFragmentChar, Charset.fragment, Charset.path, Charset.userInfo, Charset.host,
    Charset.letter, isUnreserved, isDelimiter, isLetter, isDigit, Bool.or_eq_true, Bool.and_eq_true,
    decide_eq_true_eq, Bool.false_and, Bool.or_false, List.contains_iff_mem, beq_iff_eq] at h
  rcases h with (((((((⟨_, h⟩ | ⟨_, h⟩) | ⟨_, h⟩) | h) | h) | rfl) | rfl) | rfl) | rfl
  · exact hupto 'z' (by decide) h
  · exact hupto 'Z' (by decide) h
  · exact hupto '9' (by decide) h
  · exact hlisted _ (by decide +kernel) h
  · exact hlisted _ (by decide +kernel) h
  all_goals decide

/-- Escaping keeps a character of a fragment, and writes more for any other. -/
theorem length_escapeChar (c : Char) :
    (isFragmentChar c = true → Url.encode (!isFragmentChar ·) [c] = [c]) ∧
      (isFragmentChar c = false → 1 < (Url.encode (!isFragmentChar ·) [c]).length) := by
  rw [Url.encode_cons]
  constructor
  · intro hc
    have hascii := toNat_le_of_isFragmentChar hc
    rw [if_neg (by simp [hc]; omega)]
    rfl
  · intro hc
    rw [if_pos (by simp [hc]), Utf8.encode_singleton]
    obtain ⟨b, bytes, hbytes⟩ := List.exists_cons_of_ne_nil (String.utf8EncodeChar_ne_nil (c := c))
    rw [hbytes]
    simp [Url.escapeByte]

theorem length_le_escape (cs : List Char) :
    cs.length ≤ (Url.encode (!isFragmentChar ·) cs).length := by
  induction cs with
  | nil => exact Nat.le_refl _
  | cons c cs ih =>
    obtain ⟨hkept, hmore⟩ := length_escapeChar c
    rw [← List.singleton_append, Url.encode_append, List.length_append, List.length_append]
    cases hc : isFragmentChar c with
    | true => rw [hkept hc]; omega
    | false =>
      have := hmore hc
      simp only [List.length_singleton]
      omega

/-- A text is its own escape exactly if all its characters can stand in a fragment. -/
theorem escape_eq_self_iff (text : String) :
    escape text = text ↔ ∀ c ∈ text.toList, isFragmentChar c = true := by
  rw [← String.toList_inj, toList_escape]
  induction text.toList with
  | nil => exact iff_of_true rfl (by simp)
  | cons c cs ih =>
    obtain ⟨hkept, hmore⟩ := length_escapeChar c
    rw [← List.singleton_append, Url.encode_append, List.singleton_append, List.forall_mem_cons]
    cases hc : isFragmentChar c with
    | true => rw [hkept hc, List.singleton_append, List.cons_inj_right, ih, and_iff_right rfl]
    | false =>
      refine iff_of_false (fun heq => ?_) (by simp)
      have hlength := congrArg List.length heq
      have hfirst := hmore hc
      have hrest := length_le_escape cs
      rw [List.length_append, List.length_cons] at hlength
      omega

end Uri

/-! ## Pointers of paths -/

namespace Pointer

/-- The pointer to the place that names and indices lead to. -/
def ofPath (path : List String) : String :=
  String.ofList ((path.map String.toList).flatMap fun cs => '/' :: escape cs)

/-- The same as a URI fragment. -/
def fragmentOfPath (path : List String) : String := Uri.escape (ofPath path)

theorem toList_ofPath (path : List String) :
    (ofPath path).toList = (path.map String.toList).flatMap fun cs => '/' :: escape cs :=
  String.toList_ofList

theorem segments?_ofPath (path : List String) :
    segments? (ofPath path).toList = some (path.map String.toList) := by
  rw [toList_ofPath]
  cases path with
  | nil => rfl
  | cons k path => exact segments?_flatMap (by simp)

/-- The pointer of a path leads where the path leads. -/
theorem pointer?_ofPath (v : Json) (path : List String) :
    v.pointer? (ofPath path) = v.at? path := by
  rw [Json.pointer?, segments?_ofPath, Option.bind_some]
  rfl

/-- A tilde or a slash is no part of an escaped byte. -/
theorem not_mem_escapeBytes {c : Char} (hc : c ∈ ['~', '/']) (bytes : List UInt8) :
    c ∉ bytes.flatMap Url.escapeByte := by
  have hhex : ∀ n < 16, c ≠ Url.upperHex n := by
    rcases List.mem_pair.1 hc with rfl | rfl <;> decide
  have hpercent : c ≠ '%' := by
    rcases List.mem_pair.1 hc with rfl | rfl <;> decide
  intro hmem
  obtain ⟨b, _, hb⟩ := List.mem_flatMap.1 hmem
  have hlt : b.toNat < 256 := b.toNat_lt
  have hhigh := hhex (b.toNat / 16) (by omega)
  have hlow := hhex (b.toNat % 16) (by omega)
  simp [Url.escapeByte, hpercent, hhigh, hlow] at hb

/-- It is the same to escape a name for a pointer first and for a fragment first. -/
theorem encode_escape {special : Char → Bool} (h : ∀ c ∈ ['~', '/', '0', '1'], special c = false)
    (cs : List Char) : Url.encode special (escape cs) = escape (Url.encode special cs) := by
  induction cs with
  | nil => rfl
  | cons c cs ih =>
    rw [← List.singleton_append, escape_append, Url.encode_append, Url.encode_append, escape_append,
      ih]
    congr 1
    by_cases htilde : c = '~'
    · subst htilde
      simp [escape, Url.encode, h]
    · by_cases hslash : c = '/'
      · subst hslash
        simp [escape, Url.encode, h]
      · have hc : escape [c] = [c] := by
          simp [escape, htilde, hslash]
        rw [hc, Url.encode_cons, show Url.encode special [] = [] from rfl, List.append_nil]
        split
        · rw [escape_of_not_mem (not_mem_escapeBytes (by simp) _)
            (not_mem_escapeBytes (by simp) _)]
        · exact hc.symm

/-- The fragment of a path is the pointer of the path with its names escaped. -/
theorem fragmentOfPath_eq (path : List String) :
    fragmentOfPath path = ofPath (path.map Uri.escape) := by
  rw [← String.toList_inj, fragmentOfPath, Uri.toList_escape, toList_ofPath, toList_ofPath]
  induction path with
  | nil => rfl
  | cons k path ih =>
    have hslash : Url.encode (!Uri.isFragmentChar ·) ['/'] = ['/'] := by decide +kernel
    have hplain : (['~', '/', '0', '1'].all Uri.isFragmentChar) = true := by decide +kernel
    rw [List.map_cons, List.map_cons, List.map_cons, List.flatMap_cons, List.flatMap_cons,
      Url.encode_append, ih, ← List.singleton_append, Url.encode_append, hslash,
      encode_escape (by simpa using hplain), Uri.toList_escape, List.singleton_append]

end Pointer

/-! ## References to nodes -/

namespace Sources

variable (s : Sources)

/-- A reference in the document at `base` leads to a value: unless the value is being inlined, the
value with its references inlined takes the place of the reference. -/
structure Resolves (base : Location) (reference : String) (t : Target) (v : Json) : Prop where
  target : s.target? base reference = some (t, v)
  follow : ∀ fuel stack path holder, stack.any (· == t) = false →
    s.follow (fuel + 1) stack base path reference holder =
      walk (s.follow fuel (t :: stack) t.location) path v

/-- How references lead to the node of the document at `base` that a path leads to. -/
structure Addressed (base location : Location) (document : Json) (path : List String)
    (v : Json) : Prop where
  /-- The fragment is legal, and is the pointer with its escapes undone. -/
  legal : Uri.IsFragment (Pointer.fragmentOfPath path) ∧
    Uri.decode? (Pointer.fragmentOfPath path) = some (Pointer.ofPath path)
  /-- The pointer as it is leads to the node. -/
  pointer : s.Resolves base ("#" ++ Pointer.ofPath path) ⟨location, Pointer.ofPath path⟩ v
  /-- The fragment leads to the place whose names are the escaped ones. -/
  fragment : ∀ t w, s.Resolves base ("#" ++ Pointer.fragmentOfPath path) t w ↔
    t = ⟨location, Pointer.fragmentOfPath path⟩ ∧ document.at? (path.map Uri.escape) = some w
  /-- This is the same place exactly if all characters of the names can stand in a fragment. -/
  same_iff : path.map Uri.escape = path ↔ ∀ k ∈ path, ∀ c ∈ k.toList, Uri.isFragmentChar c = true

variable {s}

theorem resolves_iff {base : Location} {reference : String} {t : Target} {v : Json} :
    s.Resolves base reference t v ↔ s.target? base reference = some (t, v) := by
  refine ⟨Resolves.target, fun h => ⟨h, fun fuel stack path holder hfresh => ?_⟩⟩
  have hentered : s.encounter stack base reference = .entered t v := by
    simp [encounter, h, hfresh]
  rw [follow_eq, hentered]
  rfl

/-- What a pointer behind the number sign leads to. -/
theorem target?_ofPath {base location : Location} {document : Json}
    (h : s.find? base "" = some (location, document)) (path : List String) :
    s.target? base ("#" ++ Pointer.ofPath path) =
      (document.at? path).map fun v => (⟨location, Pointer.ofPath path⟩, v) := by
  rw [target?, Reference.document_hash, Reference.fragment_hash, h, Option.bind_some,
    Pointer.pointer?_ofPath]

/-- Every node can be referred to by its pointer. By its fragment it is only if no character on the
way is escaped. -/
theorem addressed {base location : Location} {document : Json}
    (h : s.find? base "" = some (location, document)) {path : List String} {v : Json}
    (hv : document.at? path = some v) : s.Addressed base location document path v where
  legal := ⟨Uri.isFragment_escape _, Uri.decode?_escape _⟩
  pointer := by
    rw [resolves_iff, target?_ofPath h, hv]
    rfl
  fragment := by
    intro t w
    rw [resolves_iff, Pointer.fragmentOfPath_eq, target?_ofPath h, Option.map_eq_some_iff]
    constructor
    · rintro ⟨x, hx, heq⟩
      obtain ⟨rfl, rfl⟩ := Prod.mk.inj heq
      exact ⟨rfl, hx⟩
    · rintro ⟨rfl, hw⟩
      exact ⟨w, hw, rfl⟩
  same_iff := by
    have heach : path.map Uri.escape = path ↔ ∀ k ∈ path, Uri.escape k = k := by
      conv_lhs => rw [← List.map_id path, List.map_map]
      exact List.map_inj_left
    rw [heach]
    exact forall₂_congr fun k _ => Uri.escape_eq_self_iff k

/-- A channel with a name, and nothing else. -/
def channel (name : String) : Sources :=
  ⟨.obj [("channels", .obj [(name, .arr [.bool true])])], .inline, []⟩

theorem at?_channel (name : String) :
    (channel name).root.at? ["channels", name] = some (.arr [.bool true]) := by
  simp [channel, Json.at?, Pointer.follow?, Pointer.step?, Members.get?]

theorem addressed_channel :
    (channel "user/~me").root.at? ["channels", "user/~me"] = some (.arr [.bool true]) ∧
      (channel "user/~me").Addressed .inline .inline (channel "user/~me").root
        ["channels", "user/~me"] (.arr [.bool true]) :=
  ⟨at?_channel _, addressed rfl (at?_channel _)⟩

/-- The fragment of a channel with braces in its name leads nowhere. -/
theorem not_resolves_braces :
    (channel "user/\x7bid\x7d").root.at? ["channels", "user/\x7bid\x7d"] =
        some (.arr [.bool true]) ∧
      "#" ++ Pointer.fragmentOfPath ["channels", "user/\x7bid\x7d"] =
        "#/channels/user~1%7Bid%7D" ∧
      ∀ t v, ¬ (channel "user/\x7bid\x7d").Resolves .inline "#/channels/user~1%7Bid%7D" t v := by
  have hform : Pointer.fragmentOfPath ["channels", "user/\x7bid\x7d"] =
      "/channels/user~1%7Bid%7D" := by
    decide +kernel
  have hpath : ["channels", "user/\x7bid\x7d"].map Uri.escape = ["channels", "user/%7Bid%7D"] := by
    decide +kernel
  have hnone : (channel "user/\x7bid\x7d").root.at? ["channels", "user/%7Bid%7D"] = none := by
    simp [channel, Json.at?, Pointer.follow?, Pointer.step?, Members.get?]
  have htext : "#/channels/user~1%7Bid%7D" =
      "#" ++ Pointer.ofPath ["channels", "user/%7Bid%7D"] := by
    rw [← hpath, ← Pointer.fragmentOfPath_eq, hform]
    decide
  have hroot : (channel "user/\x7bid\x7d").find? .inline "" =
      some (.inline, (channel "user/\x7bid\x7d").root) := rfl
  refine ⟨at?_channel _, by rw [hform]; decide, fun t v h => ?_⟩
  rw [resolves_iff, htext, target?_ofPath hroot, hnone] at h
  cases h

end Sources
end MessageContract
