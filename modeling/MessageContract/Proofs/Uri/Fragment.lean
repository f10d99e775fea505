import MessageContract.Proofs.Utf8
import MessageContract.Schema.Resources

/-!
# Reading fragments of the document

A reference into the document is read as a whole: what stands behind the number sign has to be made
of the characters of a fragment and of percent escapes (`Uri.isFragment_iff`), and names, with its
escapes undone, a place in the document. Without escapes the text names itself (`Uri.decode?_plain`).
-/

namespace MessageContract
namespace Uri

/-- The characters of a fragment. -/
abbrev isFragmentChar : Char → Bool := Charset.fragment ⟨false⟩

/-- The text behind the number sign can stand in a reference into the document. -/
def IsFragment (fragment : String) : Prop :=
  (Uri.reference (documentUri ++ "#" ++ fragment)).toOption.isSome = true

instance (fragment : String) : Decidable (IsFragment fragment) :=
  inferInstanceAs (Decidable (_ = true))

/-- The text of a fragment with its escapes undone. -/
def decode? (fragment : String) : Option String :=
  Utf8.decode? (Url.decodeBytes fragment.toList)

/-! ## Taking characters -/

theorem take_cons {ok : Char → Bool} {c : Char} (hc : c ≠ '%') (rest : List Char) :
    take ok (c :: rest) =
      if ok c then (take ok rest).map fun (t, r) => (c :: t, r) else .ok ([], c :: rest) := by
  rw [take.eq_def]
  split
  · next heq => exact absurd (List.cons.inj heq).1 hc
  · next heq => exact absurd (List.cons.inj heq).1 hc
  · next heq =>
    obtain ⟨rfl, rfl⟩ := List.cons.inj heq
    rfl
  · next heq => cases heq

theorem take_append {ok : Char → Bool} {cs rest : List Char}
    (h : ∀ c ∈ cs, ok c = true ∧ c ≠ '%') :
    take ok (cs ++ rest) = (take ok rest).map fun (t, r) => (cs ++ t, r) := by
  induction cs with
  | nil =>
    rw [List.nil_append]
    cases take ok rest <;> rfl
  | cons c cs ih =>
    obtain ⟨hok, hc⟩ := h c List.mem_cons_self
    rw [List.cons_append, take_cons hc, if_pos hok, ih fun x hx => h x (List.mem_cons_of_mem _ hx)]
    cases take ok rest <;> rfl

/-- Without escapes all characters are taken if and only if all are of the class. -/
theorem take_plain {ok : Char → Bool} {cs : List Char} (h : ∀ c ∈ cs, c ≠ '%') :
    (∃ t, take ok cs = .ok (t, [])) ↔ ∀ c ∈ cs, ok c = true := by
  constructor
  · rintro ⟨t, ht⟩
    induction cs generalizing t with
    | nil => simp
    | cons c cs ih =>
      rw [take_cons (h c List.mem_cons_self)] at ht
      split at ht
      · next hok =>
        cases hrest : take ok cs with
        | error e =>
          rw [hrest] at ht
          cases ht
        | ok x =>
          obtain ⟨t', r⟩ := x
          rw [hrest] at ht
          obtain ⟨_, rfl⟩ := Prod.mk.inj (Except.ok.inj ht)
          intro x hx
          rcases List.mem_cons.1 hx with rfl | hx
          · exact hok
          · exact ih (fun y hy => h y (List.mem_cons_of_mem _ hy)) t' hrest x hx
      · cases (Prod.mk.inj (Except.ok.inj ht)).2
  · intro hok
    have hall : take ok (cs ++ []) = _ := take_append fun c hc => ⟨hok c hc, h c hc⟩
    rw [List.append_nil] at hall
    exact ⟨cs ++ [], hall⟩

/-! ## Legal fragments -/

theorem documentUri_toList : documentUri.toList =
    "https".toList ++ ':' :: '/' :: '/' :: ("aapi.invalid".toList ++ "/asyncapi.json".toList) := by
  decide +kernel

theorem take_stop {ok : Char → Bool} {cs rest : List Char} {c : Char}
    (h : (cs.all fun x => ok x && x != '%') = true) (hok : ok c = false) (hc : c ≠ '%') :
    take ok (cs ++ c :: rest) = .ok (cs, c :: rest) := by
  have hpass : ∀ x ∈ cs, ok x = true ∧ x ≠ '%' := fun x hx => by
    simpa using List.all_eq_true.1 h x hx
  rw [take_append hpass, take_cons hc, hok]
  simp [Except.map]

theorem readPath_document (u : Uri) (cs : List Char) :
    readPath ⟨false⟩ u ("/asyncapi.json".toList ++ '#' :: cs) =
      (take isFragmentChar cs).bind fun x =>
        finish { u with path := "/asyncapi.json", fragment := some (String.ofList x.1) } x.2 := by
  have hpath : take (Charset.path ⟨false⟩) ("/asyncapi.json".toList ++ '#' :: cs) =
      .ok ("/asyncapi.json".toList, '#' :: cs) := take_stop (by decide +kernel) rfl (by decide)
  have hhead : ("/asyncapi.json".toList.head?.any (· != '/')) = false := by decide +kernel
  rw [readPath, hpath]
  simp only [Except.bind, bind, hhead, Bool.and_false]
  rfl

theorem readAuthority_document (u : Uri) (cs : List Char) :
    readAuthority ⟨false⟩ u ("aapi.invalid".toList ++ ("/asyncapi.json".toList ++ '#' :: cs)) =
      readPath ⟨false⟩ { u with authority := some "aapi.invalid" }
        ("/asyncapi.json".toList ++ '#' :: cs) := by
  have hhost : take (Charset.userInfo ⟨false⟩)
      ("aapi.invalid".toList ++ ("/asyncapi.json".toList ++ '#' :: cs)) =
        .ok ("aapi.invalid".toList, "/asyncapi.json".toList ++ '#' :: cs) := by
    rw [show "/asyncapi.json".toList = '/' :: "asyncapi.json".toList by decide +kernel]
    exact take_stop (by decide +kernel) rfl (by decide)
  have hrest : "/asyncapi.json".toList = '/' :: "asyncapi.json".toList := by decide +kernel
  have hchars : "aapi.invalid".toList =
      ['a', 'a', 'p', 'i', '.', 'i', 'n', 'v', 'a', 'l', 'i', 'd'] := by decide +kernel
  rw [readAuthority, hhost, hrest, hchars]
  rfl

theorem reference_document (fragment : String) :
    Uri.reference (documentUri ++ "#" ++ fragment) =
      (take isFragmentChar fragment.toList).bind fun (t, rest) =>
        finish ⟨some "https", some "aapi.invalid", "/asyncapi.json", none, some (String.ofList t)⟩
          rest := by
  have htext : (documentUri ++ "#" ++ fragment).toList = "https".toList ++ ':' :: '/' :: '/' ::
      ("aapi.invalid".toList ++ ("/asyncapi.json".toList ++ '#' :: fragment.toList)) := by
    rw [String.toList_append, String.toList_append, documentUri_toList]
    simp
  have hscheme : "https".toList = ['h', 't', 't', 'p', 's'] := by decide +kernel
  have hread := readAuthority_document ⟨some "https", none, "", none, none⟩ fragment.toList
  rw [readPath_document] at hread
  rw [Uri.reference, parse, htext, hscheme]
  exact hread

/-- A fragment alone is read like one behind the name of the document. -/
theorem parse_hash (fragment : String) :
    parse ⟨false⟩ false ("#" ++ fragment) =
      (take isFragmentChar fragment.toList).bind fun (t, rest) =>
        finish ⟨none, none, "", none, some (String.ofList t)⟩ rest := by
  have htext : ("#" ++ fragment).toList = '#' :: fragment.toList := by
    rw [String.toList_append]
    rfl
  have htake : ∀ ok : Char → Bool, ok '#' = false →
      take ok ('#' :: fragment.toList) = .ok ([], '#' :: fragment.toList) :=
    fun ok hok => @take_stop ok [] _ _ rfl hok (by decide)
  have hread : readPath ⟨false⟩ ⟨none, none, "", none, none⟩ ('#' :: fragment.toList) =
      (take isFragmentChar fragment.toList).bind fun (t, rest) =>
        finish ⟨none, none, "", none, some (String.ofList t)⟩ rest := by
    rw [readPath, htake _ rfl]
    rfl
  rw [parse, htext]
  simp only [← hread]
  rfl

/-- With the name of the document in front it is a reference if and only if it is one without. -/
theorem isSome_reference_hash {s : String} (hash : s.startsWith "#" = true) :
    (parse ⟨false⟩ false (documentUri ++ s)).toOption.isSome =
      (parse ⟨false⟩ false s).toOption.isSome := by
  obtain ⟨t, ht⟩ := String.startsWith_string_iff.1 hash
  have hs : s = "#" ++ String.ofList t := by
    apply String.toList_injective
    rw [String.toList_append, String.toList_ofList, String.toList_ofList]
    exact ht.symm
  have hdocument := reference_document (String.ofList t)
  rw [reference] at hdocument
  rw [hs, ← String.append_assoc, hdocument, parse_hash]
  cases take isFragmentChar (String.ofList t).toList with
  | error e => rfl
  | ok x =>
    obtain ⟨u, rest⟩ := x
    cases rest <;> rfl

/-- It names nothing by itself. -/
theorem parse_absolute_hash {s : String} (hash : s.startsWith "#" = true) (c : Charset) :
    (parse c true s).toOption = none := by
  obtain ⟨t, ht⟩ := String.startsWith_string_iff.1 hash
  have htext : s.toList = '#' :: t := ht.symm
  rw [parse, htext]
  rfl

theorem isFragment_iff (fragment : String) :
    IsFragment fragment ↔ ∃ t, take isFragmentChar fragment.toList = .ok (t, []) := by
  rw [IsFragment, reference_document]
  constructor
  · intro h
    cases ht : take isFragmentChar fragment.toList with
    | error e =>
      rw [ht] at h
      cases h
    | ok x =>
      obtain ⟨t, rest⟩ := x
      rw [ht] at h
      cases rest with
      | nil => exact ⟨t, rfl⟩
      | cons c rest => cases h
  · rintro ⟨t, ht⟩
    rw [ht]
    rfl

/-- Without escapes a fragment is legal if and only if all its characters are. -/
theorem isFragment_plain {fragment : String} (h : '%' ∉ fragment.toList) :
    IsFragment fragment ↔ ∀ c ∈ fragment.toList, isFragmentChar c = true := by
  rw [isFragment_iff]
  exact take_plain fun c hc heq => h (heq ▸ hc)

/-! ## Undoing escapes -/

theorem decodeBytes_plain {cs : List Char} (h : '%' ∉ cs) :
    Url.decodeBytes cs = cs.flatMap fun c => Utf8.encode (String.singleton c) := by
  induction cs with
  | nil => rfl
  | cons c cs ih =>
    rw [List.mem_cons, not_or] at h
    rw [Url.decodeBytes.eq_def]
    split
    · next heq => cases heq
    · next heq => exact absurd (List.cons.inj heq).1.symm h.1
    · next heq =>
      obtain ⟨rfl, rfl⟩ := List.cons.inj heq
      rw [ih h.2, List.flatMap_cons]

/-- Without escapes a text is its own decoding. -/
theorem decode?_plain {fragment : String} (h : '%' ∉ fragment.toList) :
    decode? fragment = some fragment := by
  have hbytes : Url.decodeBytes fragment.toList = Utf8.encode fragment := by
    rw [decodeBytes_plain h, Utf8.encode_eq]
    exact List.flatMap_congr fun c _ => Utf8.encode_singleton c
  rw [decode?, hbytes, Utf8.decode?_encode]

end Uri
end MessageContract
