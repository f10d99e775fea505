import MessageContract.Proofs.Schema.Evaluation.Position

/-!
# How a keyword fails

A keyword fails by itself if what it asks of a value does not hold: `Keyword.Fails` tells for every
kind of keyword when that is, which keyword of the schema object it is, and what is said. All else
that is found at a keyword was found by a schema inside it, in the value or further in
(`Keyword.Comes`, shown by `Keyword.comes_of_mem_violations`).
-/

namespace MessageContract

/-- A value itself, its members and its items. -/
inductive Spot.Enters (s : Spot) : Spot → Prop
  | here : Enters s s
  | member {ms : Members} {k : String} {v : Json} (object : s.value = .obj ms)
      (member : (k, v) ∈ ms) : Enters s (s.member k v)
  | item {xs : List Json} {i : Nat} {v : Json} (list : s.value = .arr xs)
      (item : xs[i]? = some v) : Enters s (s.item i v)

namespace Keyword

open Evaluation

/-- A keyword fails by itself: the steps from the schema object to what fails, and the violation.
A violation is told at the path of the object and those steps; two are told elsewhere. -/
inductive Fails (inner : Inner) (path : List String) (spot : Spot) :
    Keyword → List Step → Violation → Prop
  | type {names : List TypeName} {strict : Bool}
      (other : ∀ t ∈ names, hasType strict t spot.value = false) :
      Fails inner path spot (.type names strict) [.keyword "type"]
        ⟨.type names, spot, path ++ ["type"]⟩
  | enum {options : List Json} (other : ∀ o ∈ options, Json.same o spot.value = false) :
      Fails inner path spot (.enum options) [.keyword "enum"]
        ⟨.enum options, spot, path ++ ["enum"]⟩
  | constant {c : Json} (other : Json.isConstant c spot.value = false) :
      Fails inner path spot (.constant c) [.keyword "const"]
        ⟨.constant c, spot, path ++ ["const"]⟩
  | bound {kind : Bound} {limit n : Number} (number : spot.value = .num n)
      (beyond : keepsBound kind limit n = false) :
      Fails inner path spot (.bound kind limit) [.keyword kind.keyword]
        ⟨.bound kind limit, spot, path ++ [kind.keyword]⟩
  | multipleOf {divisor : Double} {n : Number} (number : spot.value = .num n)
      (rest : n.isMultipleOf divisor = false) :
      Fails inner path spot (.multipleOf divisor) [.keyword "multipleOf"]
        ⟨.multipleOf divisor, spot, path ++ ["multipleOf"]⟩
  | size {kind : Size} {limit n : Nat} (measured : measure? kind.measure spot.value = some n)
      (beyond : if kind.atMost then limit < n else n < limit) :
      Fails inner path spot (.size kind limit) [.keyword kind.keyword]
        ⟨.size kind limit, spot, path ++ [kind.keyword]⟩
  | pattern {p : Pattern} {s : String} (text : spot.value = .str s)
      (absent : p.matcher.search s = .absent) :
      Fails inner path spot (.pattern p) [.keyword "pattern"]
        ⟨.pattern p.text, spot, path ++ ["pattern"]⟩
  | exhausted {p : Pattern} {s : String} (text : spot.value = .str s)
      (exhausted : p.matcher.search s = .exhausted) :
      Fails inner path spot (.pattern p) [.keyword "pattern"]
        ⟨.gaveUp true, spot, path ++ ["pattern"]⟩
  | overfull {p : Pattern} {s : String} (text : spot.value = .str s)
      (overfull : p.matcher.search s = .overfull) :
      Fails inner path spot (.pattern p) [.keyword "pattern"]
        ⟨.gaveUp false, spot, path ++ ["pattern"]⟩
  | format {name : String} {f : Format} {s : String} (text : spot.value = .str s)
      (other : f.accepts s = false) :
      Fails inner path spot (.format name f) [.keyword "format"]
        ⟨.format name, spot, path ++ ["format"]⟩
  | required {names : List String} {ms : Members} {n : String} (object : spot.value = .obj ms)
      (listed : n ∈ names) (missing : ms.get? n = none) :
      Fails inner path spot (.required names) [.keyword "required"]
        ⟨.required n, spot, path ++ ["required"]⟩
  | dependency {keyword name n : String} {entries : List (String × Dependency)}
      {names : List String} {ms : Members} (entry : (name, .names names) ∈ entries)
      (object : spot.value = .obj ms) (present : (ms.get? name).isSome = true) (listed : n ∈ names)
      (missing : ms.get? n = none) :
      Fails inner path spot (.dependencies keyword entries) [.keyword keyword]
        ⟨.required n, spot, path ++ [keyword]⟩
  | uniqueItems {xs : List Json} (list : spot.value = .arr xs)
      (repeats : Json.allDistinct xs = false) :
      Fails inner path spot .uniqueItems [.keyword "uniqueItems"]
        ⟨.uniqueItems, spot, path ++ ["uniqueItems"]⟩
  | additionalItems {allowed : Nat} {xs : List Json} (list : spot.value = .arr xs)
      (more : allowed < xs.length) :
      Fails inner path spot (.additionalItems allowed none) [.keyword "additionalItems"]
        ⟨.additionalItems allowed, spot, path ++ ["additionalItems"]⟩
  | never {keyword : String} :
      Fails inner path spot (.never keyword) [.keyword keyword]
        ⟨.falseSchema, spot, path ++ [keyword]⟩
  | contains {s : Json} {xs : List Json} (list : spot.value = .arr xs)
      (nothing : acceptedItems inner ⟨["contains"], s⟩ spot = []) :
      Fails inner path spot (.contains s none none) [.keyword "contains"]
        ⟨.contains, spot, path ++ ["contains"]⟩
  | minContains {s : Json} {xs : List Json} {least : Nat} (list : spot.value = .arr xs)
      (few : (acceptedItems inner ⟨["contains"], s⟩ spot).length < least) :
      Fails inner path spot (.contains s (some least) .none) [.keyword "minContains"]
        ⟨.contains, spot, path ++ ["minContains"]⟩
  | maxContains {s : Json} {xs : List Json} {most : Nat} (list : spot.value = .arr xs)
      (many : most < (acceptedItems inner ⟨["contains"], s⟩ spot).length) :
      Fails inner path spot (.contains s .none (some most)) [.keyword "maxContains"]
        ⟨.contains, spot, path ++ ["maxContains"]⟩
  /-- No item is accepted, which is told as if there were too many. -/
  | containsNone {s : Json} {xs : List Json} {most : Nat} (list : spot.value = .arr xs)
      (nothing : acceptedItems inner ⟨["contains"], s⟩ spot = []) :
      Fails inner path spot (.contains s .none (some most)) [.keyword "contains"]
        ⟨.contains, spot, path ++ ["maxContains"]⟩
  | containsMost {s : Json} {xs : List Json} {least most : Nat} (list : spot.value = .arr xs)
      (many : most < (acceptedItems inner ⟨["contains"], s⟩ spot).length) :
      Fails inner path spot (.contains s (some least) (some most))
        [.keyword "contains", .keyword "maxContains"]
        ⟨.contains, spot, path ++ ["contains", "maxContains"]⟩
  | containsLeast {s : Json} {xs : List Json} {least most : Nat} (list : spot.value = .arr xs)
      (few : (acceptedItems inner ⟨["contains"], s⟩ spot).length < least) :
      Fails inner path spot (.contains s (some least) (some most))
        [.keyword "contains", .keyword "minContains"]
        ⟨.contains, spot, path ++ ["contains", "minContains"]⟩
  | members {named : Members} {patterns : List (Pattern × Json)} {ms : Members}
      {m : String × Json} (object : spot.value = .obj ms) (member : m ∈ ms)
      (other : isCovered named patterns m.1 = false) :
      Fails inner path spot (.members named patterns none) [.keyword "additionalProperties"]
        ⟨.additionalProperties, spot, path ++ ["additionalProperties"]⟩
  | noMembers {ms : Members} {m : String × Json} (object : spot.value = .obj (m :: ms)) :
      Fails inner path spot .noMembers [.keyword "additionalProperties"]
        ⟨.falseSchema, ⟨m.2, spot.path⟩, path ++ ["additionalProperties"]⟩
  | noNames {ms : Members} {m : String × Json} (object : spot.value = .obj (m :: ms)) :
      Fails inner path spot (.propertyNames (.bool false)) [.keyword "propertyNames"]
        ⟨.falseSchema, spot, path ++ ["propertyNames"]⟩
  | anyOf {ss : List Json} (other : ∀ p ∈ (Keyword.anyOf ss).parts, accepts inner spot p = false) :
      Fails inner path spot (.anyOf ss) [.keyword "anyOf"] ⟨.anyOf, spot, path ++ ["anyOf"]⟩
  | oneOfNone {ss : List Json}
      (other : ∀ p ∈ (Keyword.oneOf ss).parts, accepts inner spot p = false) :
      Fails inner path spot (.oneOf ss) [.keyword "oneOf"] ⟨.oneOfNone, spot, path ++ ["oneOf"]⟩
  | oneOfSeveral {ss : List Json}
      (several : 2 ≤ ((Keyword.oneOf ss).parts.filter (accepts inner spot)).length) :
      Fails inner path spot (.oneOf ss) [.keyword "oneOf"]
        ⟨.oneOfSeveral, spot, path ++ ["oneOf"]⟩
  | not {s : Json} (accepted : accepts inner spot ⟨["not"], s⟩ = true) :
      Fails inner path spot (.not s) [.keyword "not"] ⟨.not s, spot, path ++ ["not"]⟩
  | contentEncoding {name s : String} (text : spot.value = .str s)
      (other : Content.isEncoded s = false) :
      Fails inner path spot (.contentEncoding name) [.keyword "contentEncoding"]
        ⟨.contentEncoding name, spot, path ++ ["contentEncoding"]⟩
  | contentMediaType {name s : String} (text : spot.value = .str s)
      (other : Content.isJson s = false) :
      Fails inner path spot (.contentMediaType name) [.keyword "contentMediaType"]
        ⟨.contentMediaType name, spot, path ++ ["contentMediaType"]⟩
  | encodedBytes {encoding mediaType s : String} (text : spot.value = .str s)
      (other : Content.decode? s.toList = none) :
      Fails inner path spot (.encodedContent encoding mediaType) [.keyword "contentEncoding"]
        ⟨.contentEncoding encoding, spot, path ++ ["contentEncoding"]⟩
  /-- Bytes that are no text hold no document, and are told without a place. -/
  | encodedText {encoding mediaType s : String} {bytes : List UInt8} (text : spot.value = .str s)
      (decoded : Content.decode? s.toList = some bytes) (other : Utf8.decode? bytes = none) :
      Fails inner path spot (.encodedContent encoding mediaType) [.keyword "contentMediaType"]
        ⟨.contentText (Content.faultOf bytes).1 (Content.faultOf bytes).2, ⟨spot.value, []⟩, []⟩
  | encodedJson {encoding mediaType s t : String} {bytes : List UInt8} (text : spot.value = .str s)
      (decoded : Content.decode? s.toList = some bytes) (inside : Utf8.decode? bytes = some t)
      (other : Content.isJson t = false) :
      Fails inner path spot (.encodedContent encoding mediaType) [.keyword "contentMediaType"]
        ⟨.contentMediaType mediaType, spot, path ++ ["contentMediaType"]⟩
  | unevaluatedItems {s : Json} {found : List (Spot × Nat)} (nonempty : found ≠ [])
      (unseen : ∀ t ∈ found, t ∈ (itemSpots spot).zipIdx ∧
        t.2 ∉ (inner.marked spot).items ∧ accepts inner t.1 ⟨["unevaluatedItems"], s⟩ = false) :
      Fails inner path spot (.unevaluatedItems s) [.keyword "unevaluatedItems"]
        ⟨.unevaluatedItems (found.map (·.1.value)), spot, path ++ ["unevaluatedItems"]⟩
  | unevaluatedProperties {s : Json} {found : Members} (nonempty : found ≠ [])
      (unseen : ∀ m ∈ found, m ∈ membersOf spot ∧ m.1 ∉ (inner.marked spot).names ∧
        accepts inner (spot.member m.1 m.2) ⟨["unevaluatedProperties"], s⟩ = false) :
      Fails inner path spot (.unevaluatedProperties s) [.keyword "unevaluatedProperties"]
        ⟨.unevaluatedProperties (found.map (·.1)), spot, path ++ ["unevaluatedProperties"]⟩

/-- Where a violation at a keyword comes from. -/
inductive Comes (inner : Inner) (path : List String) (spot : Spot) (kw : Keyword)
    (v : Violation) : Prop
  | fails {steps : List Step} (failure : Fails inner path spot kw steps v)
  | inside {p : Part} {s : Spot} (part : p ∈ kw.handsOn) (enters : spot.Enters s)
      (found : v ∈ inner.check p s)
  | named {schema : Json} {ms : Members} {m : String × Json} {w : Violation}
      (keyword : kw = .propertyNames schema) (object : spot.value = .obj ms) (member : m ∈ ms)
      (found : w ∈ inner.check ⟨["propertyNames"], schema⟩ ⟨.str m.1, spot.path⟩)
      (told : v = ⟨.propertyName m.1 w.cause, spot, w.schemaPath⟩)
  | follows {kind : ReferenceKind} {target : String} (keyword : kw = .reference kind target)
      (found : v ∈ inner.follow kind target spot)

variable {inner : Inner} {path : List String} {spot s : Spot} {kw : Keyword} {v : Violation}

/-! ## Values inside -/

theorem enters_of_mem_itemSpots (h : s ∈ itemSpots spot) : spot.Enters s := by
  unfold itemSpots at h
  split at h
  · next xs hxs =>
    obtain ⟨⟨x, i⟩, hx, rfl⟩ := List.mem_map.1 h
    exact .item hxs (List.mem_zipIdx_iff_getElem?.1 hx)
  · cases h

theorem obj_of_mem_membersOf {m : String × Json} (h : m ∈ membersOf spot) :
    ∃ ms, spot.value = .obj ms ∧ m ∈ ms := by
  unfold membersOf at h
  split at h
  · next ms hms => exact ⟨ms, hms, h⟩
  · cases h

theorem enters_of_mem_membersOf {m : String × Json} (h : m ∈ membersOf spot) :
    spot.Enters (spot.member m.1 m.2) := by
  obtain ⟨ms, hms, hm⟩ := obj_of_mem_membersOf h
  exact .member hms hm

/-! ## What is demanded -/

theorem mem_demand {holds : Bool} {cause : Cause} {k : String} :
    v ∈ demand holds cause path k spot ↔ holds = false ∧ v = ⟨cause, spot, path ++ [k]⟩ := by
  cases holds <;> simp [demand]

theorem num_of_isNumberSuch {p : Number → Bool} {x : Json} (h : isNumberSuch p x = false) :
    ∃ n, x = .num n ∧ p n = false := by
  cases x with
  | num n => exact ⟨n, rfl, h⟩
  | _ => cases h

theorem str_of_isTextSuch {p : String → Bool} {x : Json} (h : isTextSuch p x = false) :
    ∃ s, x = .str s ∧ p s = false := by
  cases x with
  | str s => exact ⟨s, rfl, h⟩
  | _ => cases h

theorem arr_of_isListSuch {p : List Json → Bool} {x : Json} (h : isListSuch p x = false) :
    ∃ xs, x = .arr xs ∧ p xs = false := by
  cases x with
  | arr xs => exact ⟨xs, rfl, h⟩
  | _ => cases h

theorem comes_pattern {p : Pattern} (h : v ∈ patternViolation path p spot) :
    Comes inner path spot (.pattern p) v := by
  unfold patternViolation at h
  dsimp only at h
  split at h
  · next t ht =>
    split at h
    · cases h
    · next hsearch => exact List.mem_singleton.1 h ▸ .fails (.pattern ht hsearch)
    · next hsearch => exact List.mem_singleton.1 h ▸ .fails (.exhausted ht hsearch)
    · next hsearch => exact List.mem_singleton.1 h ▸ .fails (.overfull ht hsearch)
  · cases h

theorem mem_requiredViolations {k : String} {names : List String}
    (h : v ∈ requiredViolations path k names spot) :
    ∃ (ms : Members) (n : String), spot.value = .obj ms ∧ n ∈ names ∧ ms.get? n = none ∧
      v = ⟨.required n, spot, path ++ [k]⟩ := by
  unfold requiredViolations at h
  split at h
  · next ms hms =>
    obtain ⟨n, hn, rfl⟩ := List.mem_map.1 h
    obtain ⟨hlisted, hmissing⟩ := List.mem_filter.1 hn
    exact ⟨ms, n, hms, hlisted, Option.isNone_iff_eq_none.1 hmissing, rfl⟩
  · cases h

theorem comes_contains {schema : Json} {least most : Option Nat}
    (h : v ∈ containsViolations inner path schema least most spot) :
    Comes inner path spot (.contains schema least most) v := by
  have hcheck : ∀ {holds : Bool} {steps : List String},
      v ∈ (if isListSuch (fun _ => holds) spot.value then []
        else [⟨.contains, spot, path ++ steps⟩] : List Violation) →
      (∃ xs, spot.value = .arr xs) ∧ holds = false ∧ v = ⟨.contains, spot, path ++ steps⟩ := by
    intro holds steps h
    split at h
    · cases h
    · next hnot =>
      obtain ⟨xs, hxs, hholds⟩ := arr_of_isListSuch (Bool.not_eq_true _ ▸ hnot)
      exact ⟨⟨xs, hxs⟩, hholds, List.mem_singleton.1 h⟩
  unfold containsViolations at h
  dsimp only at h
  split at h
  · obtain ⟨⟨xs, hxs⟩, hholds, rfl⟩ := hcheck h
    exact .fails (.contains hxs (by simpa using hholds))
  · obtain ⟨⟨xs, hxs⟩, hholds, rfl⟩ := hcheck h
    exact .fails (.minContains hxs (by simpa using hholds))
  · obtain ⟨⟨xs, hxs⟩, hholds, rfl⟩ := hcheck h
    by_cases hnone : acceptedItems inner ⟨["contains"], schema⟩ spot = []
    · exact .fails (.containsNone hxs hnone)
    · have hpos := List.length_pos_iff.2 hnone
      exact .fails (.maxContains hxs (by simpa [hpos] using hholds))
  · split at h
    · next hmany =>
      obtain ⟨⟨xs, hxs⟩, -, rfl⟩ := hcheck h
      exact .fails (.containsMost hxs hmany)
    · obtain ⟨⟨xs, hxs⟩, hholds, rfl⟩ := hcheck h
      exact .fails (.containsLeast hxs (by simpa using hholds))

/-! ## Members -/

theorem part_of_named {named : Members} {ps : List (Pattern × Json)} {others : Option Json}
    {name : String} {x : Json} (h : named.get? name = some x) :
    (⟨["properties", name], x⟩ : Part) ∈ (Keyword.members named ps others).handsOn := by
  refine List.mem_append_left _ (List.mem_append_right _ ?_)
  exact List.mem_map.2 ⟨(name, x), Members.mem_of_get? h, rfl⟩

theorem comes_members {named : Members} {ps : List (Pattern × Json)} {others : Option Json}
    (h : v ∈ violations inner path spot (.members named ps others)) :
    Comes inner path spot (.members named ps others) v := by
  unfold violations at h
  obtain h | h := List.mem_append.1 h
  · obtain ⟨m, hm, h⟩ := List.mem_flatMap.1 h
    have henters := enters_of_mem_membersOf hm
    unfold memberViolations at h
    obtain h | h := List.mem_append.1 h
    · obtain h | h := List.mem_append.1 h
      · unfold namedViolations at h
        split at h
        · next x hx => exact .inside (part_of_named hx) henters h
        · cases h
      · obtain ⟨p, hp, h⟩ := List.mem_flatMap.1 h
        have hpart : (⟨["patternProperties", p.1.text], p.2⟩ : Part) ∈
            (Keyword.members named ps others).handsOn :=
          List.mem_append_left _ (List.mem_append_left _
            (List.mem_map.2 ⟨p, (List.mem_filter.1 hp).1, rfl⟩))
        exact .inside hpart henters h
    · split at h
      · next x =>
        split at h
        · cases h
        · exact .inside (List.mem_append_right _ (List.mem_singleton.2 rfl)) henters h
      · cases h
  · obtain ⟨hholds, rfl⟩ := mem_demand.1 h
    obtain ⟨hothers, hall⟩ := Bool.or_eq_false_iff.1 hholds
    obtain rfl := Option.isNone_iff_eq_none.1 (Option.isSome_eq_false_iff.1 hothers)
    obtain ⟨m, hm, hother⟩ := List.all_eq_false.1 hall
    obtain ⟨ms, hms, hmem⟩ := obj_of_mem_membersOf hm
    exact .fails (.members hms hmem (Bool.not_eq_true _ ▸ hother))

theorem comes_noMembers (h : v ∈ violations inner path spot .noMembers) :
    Comes inner path spot .noMembers v := by
  unfold violations at h
  dsimp only at h
  split at h
  · cases h
  · next name x rest hmembers =>
    have hobject : spot.value = .obj ((name, x) :: rest) := by
      unfold membersOf at hmembers
      split at hmembers
      · next hms => rw [hms, hmembers]
      · cases hmembers
    exact List.mem_singleton.1 h ▸ .fails (.noMembers hobject)

theorem comes_propertyNames {schema : Json} (h : v ∈ nameViolations inner path schema spot) :
    Comes inner path spot (.propertyNames schema) v := by
  unfold nameViolations at h
  split at h
  · obtain ⟨hholds, rfl⟩ := mem_demand.1 h
    cases hmembers : membersOf spot with
    | nil =>
      rw [hmembers] at hholds
      cases hholds
    | cons m rest =>
      have hobject : spot.value = .obj (m :: rest) := by
        unfold membersOf at hmembers
        split at hmembers
        · next hms => rw [hms, hmembers]
        · cases hmembers
      exact .fails (.noNames hobject)
  · obtain ⟨m, hm, h⟩ := List.mem_flatMap.1 h
    obtain ⟨w, hw, rfl⟩ := List.mem_map.1 h
    obtain ⟨ms, hms, hmem⟩ := obj_of_mem_membersOf hm
    exact .named rfl hms hmem hw rfl

theorem comes_dependencies {keyword : String} {entries : List (String × Dependency)}
    (h : v ∈ violations inner path spot (.dependencies keyword entries)) :
    Comes inner path spot (.dependencies keyword entries) v := by
  unfold violations at h
  obtain ⟨⟨name, dependency⟩, hentry, h⟩ := List.mem_flatMap.1 h
  dsimp only at h
  split at h
  · next hpresent =>
    cases dependency with
    | names ns =>
      obtain ⟨ms, n, hms, hlisted, hmissing, rfl⟩ := mem_requiredViolations h
      rw [membersOf, hms] at hpresent
      exact .fails (.dependency hentry hms hpresent hlisted hmissing)
    | schema x =>
      have hpart : (⟨[keyword, name], x⟩ : Part) ∈
          (Keyword.dependencies keyword entries).handsOn :=
        List.mem_filterMap.2 ⟨(name, .schema x), hentry, rfl⟩
      exact .inside hpart .here h
  · cases h

/-! ## Encoded content -/

theorem comes_encodedContent {encoding mediaType : String}
    (h : v ∈ contentViolations path encoding mediaType spot) :
    Comes inner path spot (.encodedContent encoding mediaType) v := by
  unfold contentViolations at h
  split at h
  · next t ht =>
    unfold Content.fault? at h
    cases hbytes : Content.decode? t.toList with
    | none =>
      simp only [hbytes] at h
      exact List.mem_singleton.1 h ▸ .fails (.encodedBytes ht hbytes)
    | some bytes =>
      cases htext : Utf8.decode? bytes with
      | none =>
        simp only [hbytes, htext] at h
        exact List.mem_singleton.1 h ▸ .fails (.encodedText ht hbytes htext)
      | some u =>
        simp only [hbytes, htext] at h
        cases hjson : Content.isJson u with
        | true =>
          rw [hjson] at h
          cases h
        | false =>
          rw [hjson] at h
          exact List.mem_singleton.1 h ▸ .fails (.encodedJson ht hbytes htext hjson)
  · cases h

/-! ## What is left over -/

theorem comes_unevaluatedItems {schema : Json}
    (h : v ∈ unevaluatedItemViolations inner path schema spot) :
    Comes inner path spot (.unevaluatedItems schema) v := by
  unfold unevaluatedItemViolations at h
  obtain ⟨hholds, rfl⟩ := mem_demand.1 h
  refine .fails (.unevaluatedItems (by simpa using hholds) fun t ht => ?_)
  obtain ⟨hmem, hunseen⟩ := List.mem_filter.1 ht
  simpa [hmem] using hunseen

theorem comes_unevaluatedProperties {schema : Json}
    (h : v ∈ unevaluatedMemberViolations inner path schema spot) :
    Comes inner path spot (.unevaluatedProperties schema) v := by
  unfold unevaluatedMemberViolations at h
  obtain ⟨hholds, rfl⟩ := mem_demand.1 h
  refine .fails (.unevaluatedProperties (by simpa using hholds) fun m hm => ?_)
  obtain ⟨hmem, hunseen⟩ := List.mem_filter.1 hm
  simpa [hmem] using hunseen

/-! ## All keywords -/

/-- What is found at a keyword is its own failure, or was found by a schema inside it. -/
theorem comes_of_mem_violations (h : v ∈ violations inner path spot kw) :
    Comes inner path spot kw v := by
  cases kw with
  | reference kind target => exact .follows rfl h
  | type names strict =>
    obtain ⟨hholds, rfl⟩ := mem_demand.1 h
    exact .fails (.type fun t ht => Bool.not_eq_true _ ▸ List.any_eq_false.1 hholds t ht)
  | enum options =>
    obtain ⟨hholds, rfl⟩ := mem_demand.1 h
    exact .fails (.enum fun o ho => Bool.not_eq_true _ ▸ List.any_eq_false.1 hholds o ho)
  | constant c =>
    obtain ⟨hholds, rfl⟩ := mem_demand.1 h
    exact .fails (.constant hholds)
  | bound kind limit =>
    obtain ⟨hholds, rfl⟩ := mem_demand.1 h
    obtain ⟨n, hn, hbeyond⟩ := num_of_isNumberSuch hholds
    exact .fails (.bound hn hbeyond)
  | multipleOf divisor =>
    obtain ⟨hholds, rfl⟩ := mem_demand.1 h
    obtain ⟨n, hn, hrest⟩ := num_of_isNumberSuch hholds
    exact .fails (.multipleOf hn hrest)
  | size kind limit =>
    obtain ⟨hholds, rfl⟩ := mem_demand.1 h
    unfold keepsSize at hholds
    split at hholds
    · next n hn =>
      refine .fails (.size hn ?_)
      split at hholds
      · next hmost => simpa [hmost] using hholds
      · next hleast => simpa [hleast] using hholds
    · cases hholds
  | pattern p => exact comes_pattern h
  | format name f =>
    obtain ⟨hholds, rfl⟩ := mem_demand.1 h
    obtain ⟨s, hs, hother⟩ := str_of_isTextSuch hholds
    exact .fails (.format hs hother)
  | required names =>
    obtain ⟨ms, n, hms, hlisted, hmissing, rfl⟩ := mem_requiredViolations h
    exact .fails (.required hms hlisted hmissing)
  | uniqueItems =>
    obtain ⟨hholds, rfl⟩ := mem_demand.1 h
    obtain ⟨xs, hxs, hrepeats⟩ := arr_of_isListSuch hholds
    exact .fails (.uniqueItems hxs hrepeats)
  | items schema first =>
    obtain ⟨s, hs, h⟩ := List.mem_flatMap.1 h
    exact .inside (List.mem_singleton.2 rfl) (enters_of_mem_itemSpots (List.mem_of_mem_drop hs)) h
  | tuple keyword ss =>
    obtain ⟨⟨⟨x, i⟩, s⟩, hzip, h⟩ := List.mem_flatMap.1 h
    obtain ⟨hx, hs⟩ := List.of_mem_zip hzip
    have hpart : (⟨[keyword, toString i], x⟩ : Part) ∈ (Keyword.tuple keyword ss).handsOn :=
      List.mem_map.2 ⟨(x, i), hx, rfl⟩
    exact .inside hpart (enters_of_mem_itemSpots hs) h
  | additionalItems allowed schema =>
    cases schema with
    | some x =>
      obtain ⟨s, hs, h⟩ := List.mem_flatMap.1 h
      exact .inside (List.mem_singleton.2 rfl)
        (enters_of_mem_itemSpots (List.mem_of_mem_drop hs)) h
    | none =>
      obtain ⟨hholds, rfl⟩ := mem_demand.1 h
      obtain ⟨xs, hxs, hmore⟩ := arr_of_isListSuch hholds
      exact .fails (.additionalItems hxs (by simpa using hmore))
  | never keyword => exact List.mem_singleton.1 h ▸ .fails .never
  | contains schema least most => exact comes_contains h
  | properties named =>
    obtain ⟨⟨name, x⟩, hmem, h⟩ := List.mem_flatMap.1 h
    dsimp only at h
    split at h
    · next value hvalue =>
      have hpart : (⟨["properties", name], x⟩ : Part) ∈ (Keyword.properties named).handsOn :=
        List.mem_map.2 ⟨(name, x), hmem, rfl⟩
      exact .inside hpart (enters_of_mem_membersOf (Members.mem_of_get? hvalue)) h
    · cases h
  | patternProperties patterns =>
    obtain ⟨p, hp, h⟩ := List.mem_flatMap.1 h
    obtain ⟨m, hm, h⟩ := List.mem_flatMap.1 h
    have hpart : (⟨["patternProperties", p.1.text], p.2⟩ : Part) ∈
        (Keyword.patternProperties patterns).handsOn := List.mem_map.2 ⟨p, hp, rfl⟩
    exact .inside hpart (enters_of_mem_membersOf (List.mem_filter.1 hm).1) h
  | members named patterns others => exact comes_members h
  | noMembers => exact comes_noMembers h
  | propertyNames schema => exact comes_propertyNames h
  | dependencies keyword entries => exact comes_dependencies h
  | allOf ss =>
    obtain ⟨p, hp, h⟩ := List.mem_flatMap.1 h
    exact .inside hp .here h
  | anyOf ss =>
    obtain ⟨hholds, rfl⟩ := mem_demand.1 h
    exact .fails (.anyOf fun p hp => Bool.not_eq_true _ ▸ List.any_eq_false.1 hholds p hp)
  | oneOf ss =>
    unfold violations at h
    dsimp only at h
    split at h
    · next hcount =>
      refine List.mem_singleton.1 h ▸ .fails (.oneOfNone fun p hp => ?_)
      have hnone := List.filter_eq_nil_iff.1 (List.length_eq_zero_iff.1 hcount) p hp
      exact Bool.not_eq_true _ ▸ hnone
    · cases h
    · next hzero hone =>
      have hseveral : 2 ≤ ((Keyword.oneOf ss).parts.filter (accepts inner spot)).length := by
        have hne_zero := mt hzero not_false
        have hne_one := mt hone not_false
        omega
      exact List.mem_singleton.1 h ▸ .fails (.oneOfSeveral hseveral)
  | not schema =>
    obtain ⟨hholds, rfl⟩ := mem_demand.1 h
    exact .fails (.not (by simpa using hholds))
  | conditional condition yes no =>
    unfold violations at h
    dsimp only at h
    split at h
    · cases yes with
      | none => cases h
      | some x =>
        exact .inside (List.mem_append_left _ (List.mem_singleton.2 rfl)) .here h
    · cases no with
      | none => cases h
      | some x =>
        exact .inside (List.mem_append_right _ (List.mem_singleton.2 rfl)) .here h
  | contentEncoding name =>
    obtain ⟨hholds, rfl⟩ := mem_demand.1 h
    obtain ⟨s, hs, hother⟩ := str_of_isTextSuch hholds
    exact .fails (.contentEncoding hs hother)
  | contentMediaType name =>
    obtain ⟨hholds, rfl⟩ := mem_demand.1 h
    obtain ⟨s, hs, hother⟩ := str_of_isTextSuch hholds
    exact .fails (.contentMediaType hs hother)
  | encodedContent encoding mediaType => exact comes_encodedContent h
  | unevaluatedItems schema => exact comes_unevaluatedItems h
  | unevaluatedProperties schema => exact comes_unevaluatedProperties h

end Keyword
end MessageContract
