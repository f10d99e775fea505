import MessageContract.Proofs.Members
import MessageContract.Proofs.Schema.Replacement
import MessageContract.Proofs.Schema.Served

/-!
# The conversion of OpenAPI schemas

A schema object of OpenAPI 3.0 (`OpenApi.IsForm`) says in Draft 7, once it is converted, what it said
in OpenAPI (`OpenApi.admits_convert`), and its rules are about the schemas in it, converted
(`OpenApi.rules_convert`). References and the place they are led to do not matter to the conversion
(`OpenApi.rebase_convert`).
-/

namespace MessageContract.OpenApi

open Draft7 (Keywords)

/-- Keywords of Draft 7 with schemas that OpenAPI 3.0 does not have. -/
def foreignKeywords : List String :=
  ["additionalItems", "contains", "propertyNames", "dependencies", "if", "then", "else"]

/-- Keywords that are set in the end. -/
def setKeywords : List String :=
  ["type", "enum", "minimum", "exclusiveMinimum", "maximum", "exclusiveMaximum"]

/-- A schema object of OpenAPI 3.0: one type, one schema for all items, and no schemas under other
keywords than its own. -/
structure IsForm (ms : Members) : Prop where
  type : ∀ x, Members.get? ms "type" = some x → ∃ name, x = .str name
  items : ∀ xs, Members.get? ms "items" ≠ some (.arr xs)
  foreign : ∀ k ∈ foreignKeywords, k ∉ ms.map (·.1)

/-! ## Keywords one by one -/

theorem convertAll_eq (xs : List Json) : convertAll xs = xs.map convert := by
  induction xs with
  | nil => rfl
  | cons x xs ih => rw [convertAll, List.map_cons, ih]

theorem convertEach_eq (ms : Members) : convertEach ms = ms.map fun m => (m.1, convert m.2) := by
  induction ms with
  | nil => rfl
  | cons m ms ih => rw [convertEach, List.map_cons, ih]

theorem convertKeywords_eq (ms : Members) : convertKeywords ms =
    (ms.filter fun m => !isDropped m.1).map fun m => (m.1, convertValue m.1 m.2) := by
  induction ms with
  | nil => rfl
  | cons m ms ih =>
    obtain ⟨k, v⟩ := m
    rw [convertKeywords, List.filter_cons]
    cases isDropped k with
    | true => exact ih
    | false => exact congrArg (List.cons (k, convertValue k v)) ih

theorem get?_convertKeywords (ms : Members) (k : String) :
    Members.get? (convertKeywords ms) k =
      if isDropped k then none else (Members.get? ms k).map (convertValue k) := by
  rw [convertKeywords_eq, Members.get?_map, Members.get?_filter fun k => !isDropped k]
  cases isDropped k <;> rfl

theorem nodup_convertKeywords {ms : Members} (h : (ms.map (·.1)).Nodup) :
    ((convertKeywords ms).map (·.1)).Nodup := by
  rw [convertKeywords_eq, List.map_map]
  exact h.sublist (List.Sublist.map _ List.filter_sublist)

/-- Values of keywords without schemas stay. -/
theorem convertValue_eq {k : String} (hmap : mapKeywords.contains k = false)
    (hschema : schemaKeywords.contains k = false) (hlist : listKeywords.contains k = false)
    (v : Json) : convertValue k v = v := by
  cases v with
  | obj ms => rw [convertValue, hmap, hschema]; rfl
  | arr xs => rw [convertValue, hlist]; rfl
  | _ => rfl

/-- There are no schemas in bounds. -/
theorem map_convertValue_bound {k : String}
    (hk : k ∈ ["minimum", "maximum", "exclusiveMinimum", "exclusiveMaximum"]) (x : Option Json) :
    x.map (convertValue k) = x := by
  have hsame : convertValue k = id := by
    funext v
    exact convertValue_eq (by revert k; decide) (by revert k; decide) (by revert k; decide) v
  rw [hsame, Option.map_id, id]

theorem get?_convertKeywords_bound {k : String} (hk : k ∈ ["minimum", "maximum"])
    (ms : Members) : Members.get? (convertKeywords ms) k = Members.get? ms k := by
  have hdropped : isDropped k = false := by
    revert k
    decide
  rw [get?_convertKeywords, hdropped, map_convertValue_bound (by revert k; decide)]
  rfl

theorem get?_convertKeywords_flag {k : String}
    (hk : k ∈ ["exclusiveMinimum", "exclusiveMaximum"]) (ms : Members) :
    Members.get? (convertKeywords ms) k = none := by
  rw [get?_convertKeywords, if_pos (by revert k; decide)]

theorem convertValue_schema {k : String} (hk : schemaKeywords.contains k = true)
    (hmap : mapKeywords.contains k = false) (hlist : listKeywords.contains k = false)
    (v : Json) : convertValue k v = convert v := by
  cases v with
  | obj ms => rw [convertValue, convert, hmap, hk]; rfl
  | arr xs => rw [convertValue, hlist]; rfl
  | _ => rfl

/-! ## Bounds -/

section

variable {bound exclusive : String} {source out : Members}

theorem get?_setStrictBound_ne (hout : (out.map (·.1)).Nodup) {k : String} (hb : k ≠ bound)
    (he : k ≠ exclusive) :
    Members.get? (setStrictBound bound exclusive source out) k = Members.get? out k := by
  unfold setStrictBound
  split
  · split
    · rw [Members.get?_insert_ne _ he, Members.get?_swapRemove hout, if_neg hb]
    · rfl
  · rfl
  · rfl
  · exact Members.get?_insert_ne _ he _

theorem nodup_setStrictBound (hout : (out.map (·.1)).Nodup) :
    ((setStrictBound bound exclusive source out).map (·.1)).Nodup := by
  unfold setStrictBound
  split
  · split
    · exact Members.nodup_insert (Members.nodup_swapRemove hout _) _ _
    · exact hout
  · exact hout
  · exact hout
  · exact Members.nodup_insert hout _ _

/-- The two bounds that are set say what the bound and the flag said. -/
theorem isWithin_setStrictBound (hout : (out.map (·.1)).Nodup) (hne : bound ≠ exclusive)
    (hnone : Members.get? out exclusive = none) (loose strict : Json → Json → Bool) (v : Json) :
    ((Members.get? (setStrictBound bound exclusive source out) bound).all (loose · v) &&
      (Members.get? (setStrictBound bound exclusive source out) exclusive).all (strict · v)) =
      isWithin (Members.get? out bound) (Members.get? source exclusive) loose strict v := by
  cases hflag : Members.get? source exclusive with
  | none =>
    simp only [setStrictBound, hflag, isWithin]
    rw [hnone]
  | some flag =>
    cases flag with
    | bool strictly =>
      cases strictly with
      | true =>
        cases hlimit : Members.get? out bound with
        | some limit =>
          simp only [setStrictBound, hflag, hlimit, isWithin]
          rw [Members.get?_insert_ne _ hne, Members.get?_swapRemove hout, if_pos rfl,
            Members.get?_insert_self]
          rfl
        | none =>
          simp only [setStrictBound, hflag, hlimit, isWithin]
          rw [hnone]
          rfl
      | false =>
        simp only [setStrictBound, hflag, isWithin]
        rw [hnone]
        exact Bool.and_true _
    | _ =>
      simp only [setStrictBound, hflag, isWithin]
      rw [Members.get?_insert_ne _ hne, Members.get?_insert_self]

end

/-! ## Null -/

theorem hasType_withNull (name : String) (v : Json) :
    Draft7.hasType (.arr [.str name, .str "null"]) v =
      (v.isNull || Draft7.hasType (.str name) v) := by
  have hnull : Draft7.hasTypeNamed v "null" = v.isNull := by
    cases v <;> rfl
  show (Draft7.hasTypeNamed v name || (Draft7.hasTypeNamed v "null" || false)) = _
  rw [hnull, Bool.or_false, Bool.or_comm]
  rfl

theorem equal_null (v o : Json) (ho : o.isNull = true) : Draft7.equal v o = v.isNull := by
  cases o with
  | null => cases v <;> simp [Draft7.equal, Json.isNull]
  | _ => cases ho

theorem isListed_withNull (options : List Json) (v : Json) :
    Draft7.isListed (.arr (withNull options)) v =
      (v.isNull || Draft7.isListed (.arr options) v) := by
  show (withNull options).any (Draft7.equal v) = (v.isNull || options.any (Draft7.equal v))
  rw [withNull]
  split
  · next hany =>
    obtain ⟨o, ho, hnull⟩ := List.any_eq_true.1 hany
    cases hv : v.isNull with
    | false => rfl
    | true => exact List.any_eq_true.2 ⟨o, ho, (equal_null v o hnull).trans hv⟩
  · rw [List.any_append, List.any_cons, List.any_nil, equal_null v .null rfl, Bool.or_false,
      Bool.or_comm]

theorem get?_typeWithNull_ne (out : Members) {k : String} (hk : k ≠ "type") :
    Members.get? (typeWithNull out) k = Members.get? out k := by
  unfold typeWithNull
  split
  · exact Members.get?_insert_ne _ hk _
  · rfl

theorem get?_enumWithNull_ne (out : Members) {k : String} (hk : k ≠ "enum") :
    Members.get? (enumWithNull out) k = Members.get? out k := by
  unfold enumWithNull
  split
  · exact Members.get?_insert_ne _ hk _
  · rfl

theorem get?_allowNull_ne (out : Members) {k : String} (ht : k ≠ "type") (he : k ≠ "enum") :
    Members.get? (allowNull out) k = Members.get? out k := by
  rw [allowNull, get?_enumWithNull_ne _ he, get?_typeWithNull_ne _ ht]

theorem admits_typeWithNull {out : Members}
    (htype : ∀ x, Members.get? out "type" = some x → ∃ name, x = .str name) (v : Json) :
    (Members.get? (typeWithNull out) "type").all (Draft7.hasType · v) =
      (v.isNull || (Members.get? out "type").all (Draft7.hasType · v)) := by
  cases ht : Members.get? out "type" with
  | none =>
    rw [typeWithNull, ht]
    exact (congrArg _ ht).trans (Bool.or_true _).symm
  | some x =>
    obtain ⟨name, rfl⟩ := htype x ht
    simp only [typeWithNull, ht]
    rw [Members.get?_insert_self]
    exact hasType_withNull name v

theorem admits_enumWithNull (out : Members) (v : Json) :
    (Members.get? (enumWithNull out) "enum").all (Draft7.isListed · v) =
      (v.isNull || (Members.get? out "enum").all (Draft7.isListed · v)) := by
  cases he : Members.get? out "enum" with
  | none =>
    rw [enumWithNull, he]
    exact (congrArg _ he).trans (Bool.or_true _).symm
  | some x =>
    cases x with
    | arr options =>
      simp only [enumWithNull, he]
      rw [Members.get?_insert_self]
      exact isListed_withNull options v
    | _ =>
      simp only [enumWithNull, he]
      exact (Bool.or_true _).symm

/-- Type and enumeration let `null` pass besides what they let pass before. -/
theorem admits_allowNull {out : Members}
    (htype : ∀ x, Members.get? out "type" = some x → ∃ name, x = .str name) (v : Json) :
    ((Members.get? (allowNull out) "type").all (Draft7.hasType · v) &&
      (Members.get? (allowNull out) "enum").all (Draft7.isListed · v)) =
      (v.isNull || (Members.get? out "type").all (Draft7.hasType · v) &&
        (Members.get? out "enum").all (Draft7.isListed · v)) := by
  rw [allowNull, get?_enumWithNull_ne _ (by decide), admits_typeWithNull htype,
    admits_enumWithNull, get?_typeWithNull_ne _ (by decide), Bool.or_and_distrib_left]

/-! ## Schema objects -/

/-- The members of a schema object with its bounds set. -/
def bounded (source out : Members) : Members :=
  setStrictBound "maximum" "exclusiveMaximum" source
    (setStrictBound "minimum" "exclusiveMinimum" source out)

theorem finish_eq (source out : Members) : finish source out =
    if isNullable source then allowNull (bounded source out) else bounded source out := rfl

section

variable {source out : Members}

theorem get?_finish_of_ne {k : String} (ht : k ≠ "type") (he : k ≠ "enum") :
    Members.get? (finish source out) k = Members.get? (bounded source out) k := by
  rw [finish_eq]
  split
  · exact get?_allowNull_ne _ ht he
  · rfl

theorem get?_bounded_ne (hout : (out.map (·.1)).Nodup) {k : String}
    (hk : k ∉ ["minimum", "exclusiveMinimum", "maximum", "exclusiveMaximum"]) :
    Members.get? (bounded source out) k = Members.get? out k := by
  simp only [List.mem_cons, List.not_mem_nil, or_false, not_or] at hk
  obtain ⟨hmin, hmin', hmax, hmax'⟩ := hk
  rw [bounded, get?_setStrictBound_ne (nodup_setStrictBound hout) hmax hmax',
    get?_setStrictBound_ne hout hmin hmin']

/-- Other keywords are not touched in the end. -/
theorem get?_finish_ne (hout : (out.map (·.1)).Nodup) {k : String} (hk : k ∉ setKeywords) :
    Members.get? (finish source out) k = Members.get? out k := by
  rw [setKeywords, List.mem_cons, List.mem_cons, not_or, not_or] at hk
  rw [get?_finish_of_ne hk.1 hk.2.1, get?_bounded_ne hout hk.2.2]

theorem admits_null (source : Members) (hout : (out.map (·.1)).Nodup)
    (htype : ∀ x, Members.get? out "type" = some x → ∃ name, x = .str name) (v : Json) :
    ((Members.get? (finish source out) "type").all (Draft7.hasType · v) &&
      (Members.get? (finish source out) "enum").all (Draft7.isListed · v)) =
      (isNullable source && v.isNull || (Members.get? out "type").all (Draft7.hasType · v) &&
        (Members.get? out "enum").all (Draft7.isListed · v)) := by
  have htyped : Members.get? (bounded source out) "type" = Members.get? out "type" :=
    get?_bounded_ne hout (by decide)
  have hlisted : Members.get? (bounded source out) "enum" = Members.get? out "enum" :=
    get?_bounded_ne hout (by decide)
  rw [finish_eq]
  split
  · next hnull =>
    rw [admits_allowNull (htyped ▸ htype), htyped, hlisted, hnull, Bool.true_and]
  · next hnull =>
    rw [htyped, hlisted, Bool.eq_false_iff.2 hnull, Bool.false_and, Bool.false_or]

theorem admits_minimum (source : Members) (hout : (out.map (·.1)).Nodup)
    (hnone : Members.get? out "exclusiveMinimum" = none) (v : Json) :
    ((Members.get? (finish source out) "minimum").all (Draft7.isAtLeast · v) &&
      (Members.get? (finish source out) "exclusiveMinimum").all (Draft7.isAbove · v)) =
      isWithin (Members.get? out "minimum") (Members.get? source "exclusiveMinimum")
        Draft7.isAtLeast Draft7.isAbove v := by
  have hmin : ((setStrictBound "minimum" "exclusiveMinimum" source out).map (·.1)).Nodup :=
    nodup_setStrictBound hout
  rw [get?_finish_of_ne (by decide) (by decide), get?_finish_of_ne (by decide) (by decide), bounded,
    get?_setStrictBound_ne hmin (by decide) (by decide),
    get?_setStrictBound_ne hmin (by decide) (by decide)]
  exact isWithin_setStrictBound hout (by decide) hnone _ _ v

theorem admits_maximum (source : Members) (hout : (out.map (·.1)).Nodup)
    (hnone : Members.get? out "exclusiveMaximum" = none) (v : Json) :
    ((Members.get? (finish source out) "maximum").all (Draft7.isAtMost · v) &&
      (Members.get? (finish source out) "exclusiveMaximum").all (Draft7.isBelow · v)) =
      isWithin (Members.get? out "maximum") (Members.get? source "exclusiveMaximum")
        Draft7.isAtMost Draft7.isBelow v := by
  have hmin : ∀ k, k ≠ "minimum" → k ≠ "exclusiveMinimum" → Members.get?
      (setStrictBound "minimum" "exclusiveMinimum" source out) k = Members.get? out k :=
    fun _ => get?_setStrictBound_ne hout
  rw [get?_finish_of_ne (by decide) (by decide), get?_finish_of_ne (by decide) (by decide), bounded,
    isWithin_setStrictBound (nodup_setStrictBound hout) (by decide)
      ((hmin _ (by decide) (by decide)).trans hnone), hmin _ (by decide) (by decide)]

end

variable {ms : Members}

/-- What stands under a keyword that stays. -/
theorem get?_convert (hms : (ms.map (·.1)).Nodup) {k : String} (hk : k ∉ setKeywords)
    (hdropped : isDropped k = false) :
    Members.get? (finish ms (convertKeywords ms)) k =
      (Members.get? ms k).map (convertValue k) := by
  rw [get?_finish_ne (nodup_convertKeywords hms) hk, get?_convertKeywords, hdropped]
  rfl

/-- What stands under a keyword that the conversion does not look at. -/
theorem get?_convert_same (hms : (ms.map (·.1)).Nodup) {k : String} (hk : k ∉ setKeywords)
    (hdropped : isDropped k = false) (hmap : mapKeywords.contains k = false)
    (hschema : schemaKeywords.contains k = false) (hlist : listKeywords.contains k = false) :
    Members.get? (finish ms (convertKeywords ms)) k = Members.get? ms k := by
  rw [get?_convert hms hk hdropped]
  cases Members.get? ms k with
  | none => rfl
  | some x => exact congrArg some (convertValue_eq hmap hschema hlist x)

/-- References stay, and nothing becomes one. -/
theorem reference?_convert {v : Json} (hv : ∀ ms, v = .obj ms → (ms.map (·.1)).Nodup) :
    (convert v).reference? = v.reference? := by
  cases v with
  | obj ms =>
    rw [convert, Json.reference?, get?_convert_same (hv ms rfl) (by decide) (by decide) (by decide)
      (by decide) (by decide)]
    rfl
  | _ => rfl

/-- What a schema object asks for by itself is the same once it is converted. -/
theorem admits_convert (hms : (ms.map (·.1)).Nodup) (hform : IsForm ms) :
    Draft7.admits (Members.get? (finish ms (convertKeywords ms))) =
      admits (Members.get? ms) := by
  have hout := nodup_convertKeywords hms
  have hsame : ∀ k, isDropped k = false → mapKeywords.contains k = false →
      schemaKeywords.contains k = false → listKeywords.contains k = false →
      Members.get? (convertKeywords ms) k = Members.get? ms k := by
    intro k hdropped hmap hschema hlist
    rw [get?_convertKeywords, hdropped]
    cases Members.get? ms k with
    | none => rfl
    | some x => exact congrArg some (convertValue_eq hmap hschema hlist x)
  have hdropped : ∀ k, isDropped k = true → Members.get? (convertKeywords ms) k = none := by
    intro k hk
    rw [get?_convertKeywords, hk]
    rfl
  have htype := hsame "type" (by decide) (by decide) (by decide) (by decide)
  have hcommon : Draft7.common (Members.get? (finish ms (convertKeywords ms))) =
      Draft7.common (Members.get? ms) := by
    refine Draft7.common_congr fun k hk => get?_convert_same hms ?_ ?_ ?_ ?_ ?_
    all_goals
      revert k
      decide
  funext v
  have hnull := admits_null ms hout (by rw [htype]; exact hform.type) v
  have hmin := admits_minimum ms hout (hdropped "exclusiveMinimum" (by decide)) v
  have hmax := admits_maximum ms hout (hdropped "exclusiveMaximum" (by decide)) v
  rw [htype, hsame "enum" (by decide) (by decide) (by decide) (by decide)] at hnull
  rw [hsame "minimum" (by decide) (by decide) (by decide) (by decide)] at hmin
  rw [hsame "maximum" (by decide) (by decide) (by decide) (by decide)] at hmax
  calc Draft7.admits (Members.get? (finish ms (convertKeywords ms))) v
      = (((Members.get? (finish ms (convertKeywords ms)) "type").all (Draft7.hasType · v) &&
          (Members.get? (finish ms (convertKeywords ms)) "enum").all (Draft7.isListed · v)) &&
        ((Members.get? (finish ms (convertKeywords ms)) "minimum").all (Draft7.isAtLeast · v) &&
          (Members.get? (finish ms (convertKeywords ms)) "exclusiveMinimum").all
            (Draft7.isAbove · v)) &&
        ((Members.get? (finish ms (convertKeywords ms)) "maximum").all (Draft7.isAtMost · v) &&
          (Members.get? (finish ms (convertKeywords ms)) "exclusiveMaximum").all
            (Draft7.isBelow · v)) &&
        Draft7.common (Members.get? (finish ms (convertKeywords ms))) v) := by
        simp only [Draft7.admits, Bool.and_assoc]
    _ = admits (Members.get? ms) v := by
        rw [hnull, hmin, hmax, hcommon]
        rfl

theorem schemaList_convertValue {k : String} (hk : k ∈ Draft7.listKeywords) (x : Option Json) :
    Draft7.schemaList (x.map (convertValue k)) = (Draft7.schemaList x).map (List.map convert) := by
  have hlist : listKeywords.contains k = true := by
    revert k
    decide
  have hmap : mapKeywords.contains k = false := by
    revert k
    decide
  have hschema : schemaKeywords.contains k = false := by
    revert k
    decide
  cases x with
  | none => rfl
  | some v =>
    cases v with
    | arr xs =>
      rw [Option.map_some, convertValue, hlist, convertAll_eq]
      rfl
    | obj ms =>
      rw [Option.map_some, convertValue, hmap, hschema]
      rfl
    | _ => rfl

theorem schemasOf_convertValue {k : String} (hk : k ∈ ["properties", "patternProperties"])
    (x : Option Json) : Draft7.schemasOf (x.map (convertValue k)) =
      (Draft7.schemasOf x).map fun m => (m.1, convert m.2) := by
  have hmap : mapKeywords.contains k = true := by
    revert k
    decide
  have hlist : listKeywords.contains k = false := by
    revert k
    decide
  cases x with
  | none => rfl
  | some v =>
    cases v with
    | arr xs =>
      rw [Option.map_some, convertValue, hlist]
      rfl
    | obj ms =>
      rw [Option.map_some, convertValue, hmap, convertEach_eq]
      rfl
    | _ => rfl

theorem map_convertValue {k : String} (hk : k ∈ schemaKeywords) (x : Option Json) :
    x.map (convertValue k) = x.map convert := by
  have hschema : schemaKeywords.contains k = true := List.contains_iff_mem.2 hk
  have hmap : mapKeywords.contains k = false := by
    revert k
    decide
  have hlist : listKeywords.contains k = false := by
    revert k
    decide
  cases x with
  | none => rfl
  | some v => exact congrArg some (convertValue_schema hschema hmap hlist v)

theorem IsForm.get?_foreign (h : IsForm ms) {k : String} (hk : k ∈ foreignKeywords) :
    Members.get? ms k = none :=
  Members.get?_eq_none_iff.2 (h.foreign k hk)

/-- The schemas in a schema object are converted with it. -/
theorem replaces_convert (hms : (ms.map (·.1)).Nodup) (hform : IsForm ms) :
    Draft7.Replaces convert (Members.get? ms)
      (Members.get? (finish ms (convertKeywords ms))) where
  single := by
    intro k hk
    by_cases hmem : k ∈ foreignKeywords
    · rw [get?_convert hms (by revert k; decide) (by revert k; decide), hform.get?_foreign hmem]
      rfl
    · have hrest : k ∈ schemaKeywords := by
        revert k
        decide
      rw [get?_convert hms (by revert k; decide) (by revert k; decide), map_convertValue hrest]
  tuple := fun xs hxs => absurd hxs (hform.items xs)
  items := by
    intro _
    have hitems : Members.get? (finish ms (convertKeywords ms)) "items" =
        (Members.get? ms "items").map convert := by
      rw [get?_convert hms (by decide) (by decide), map_convertValue (by decide)]
    refine ⟨hitems, fun xs hxs => ?_⟩
    rw [hitems] at hxs
    obtain ⟨x, hx, hconvert⟩ := Option.map_eq_some_iff.1 hxs
    cases x with
    | arr ys => exact hform.items ys hx
    | _ => cases hconvert
  lists := by
    intro k hk
    rw [get?_convert hms (by revert k; decide) (by revert k; decide)]
    exact schemaList_convertValue hk _
  maps := by
    intro k hk
    by_cases hdependencies : k = "dependencies"
    · subst hdependencies
      rw [get?_convert hms (by decide) (by decide), hform.get?_foreign (by decide)]
      rfl
    · rw [get?_convert hms (by revert k; decide) (by revert k; decide)]
      exact schemasOf_convertValue (by revert k; decide) _
  dependencies := by
    intro d hd
    rw [hform.get?_foreign (by decide)] at hd
    cases hd

/-- The rules of a schema object are about the schemas in it, converted, once it is. -/
theorem rules_convert (hms : (ms.map (·.1)).Nodup) (hform : IsForm ms) :
    Draft7.rules (Members.get? (finish ms (convertKeywords ms))) =
      (Draft7.rules (Members.get? ms)).map (·.map convert) :=
  Draft7.rules_replaced (replaces_convert hms hform)

/-! ## Rebasing -/

theorem insert_rebaseMembers {k : String} (hk : k ≠ "$ref") (ms : Members) (x : Json) :
    Members.insert (rebaseMembers ms) k (rebase x) = rebaseMembers (Members.insert ms k x) := by
  rw [rebaseMembers_eq, rebaseMembers_eq, Members.insert_map, rebaseMember_keyword hk]

theorem swapRemove_rebaseMembers (ms : Members) (k : String) :
    Members.swapRemove (rebaseMembers ms) k = rebaseMembers (Members.swapRemove ms k) := by
  rw [rebaseMembers_eq, rebaseMembers_eq, Members.swapRemove_map]

theorem isNull_rebase (v : Json) : (rebase v).isNull = v.isNull := by
  cases v <;> rfl

theorem setStrictBound_rebase {bound exclusive : String} (hbound : bound ≠ "$ref")
    (hexclusive : exclusive ≠ "$ref") (source out : Members) :
    setStrictBound bound exclusive (rebaseMembers source) (rebaseMembers out) =
      rebaseMembers (setStrictBound bound exclusive source out) := by
  unfold setStrictBound
  rw [get?_rebaseMembers hexclusive, get?_rebaseMembers hbound]
  cases Members.get? source exclusive with
  | none => rfl
  | some flag =>
    cases flag with
    | bool strictly =>
      cases strictly with
      | true =>
        cases Members.get? out bound with
        | none => rfl
        | some limit =>
          show Members.insert (Members.swapRemove (rebaseMembers out) bound) exclusive
            (rebase limit) = _
          rw [swapRemove_rebaseMembers, insert_rebaseMembers hexclusive]
      | false => rfl
    | _ => exact insert_rebaseMembers hexclusive out _

theorem isNullable_rebase (source : Members) :
    isNullable (rebaseMembers source) = isNullable source := by
  unfold isNullable
  rw [get?_rebaseMembers (by decide)]
  cases Members.get? source "nullable" with
  | none => rfl
  | some x => cases x <;> rfl

theorem typeWithNull_rebase (out : Members) :
    typeWithNull (rebaseMembers out) = rebaseMembers (typeWithNull out) := by
  unfold typeWithNull
  rw [get?_rebaseMembers (by decide)]
  cases Members.get? out "type" with
  | none => rfl
  | some x =>
    cases x with
    | str name => exact insert_rebaseMembers (by decide) out (.arr [.str name, .str "null"])
    | _ => rfl

theorem withNull_rebase (options : List Json) :
    withNull (options.map rebase) = (withNull options).map rebase := by
  have hany : (options.map rebase).any Json.isNull = options.any Json.isNull := by
    rw [List.any_map]
    congr 1
    funext v
    exact isNull_rebase v
  rw [withNull, withNull, hany]
  split
  · rfl
  · rw [List.map_append]
    rfl

theorem enumWithNull_rebase (out : Members) :
    enumWithNull (rebaseMembers out) = rebaseMembers (enumWithNull out) := by
  unfold enumWithNull
  rw [get?_rebaseMembers (by decide)]
  cases Members.get? out "enum" with
  | none => rfl
  | some x =>
    cases x with
    | arr options =>
      show Members.insert _ "enum" (.arr (withNull (rebaseItems options))) = _
      have hlist : Json.arr (withNull (rebaseItems options)) = rebase (.arr (withNull options)) := by
        rw [rebase, rebaseItems_eq, rebaseItems_eq, withNull_rebase]
      rw [hlist]
      exact insert_rebaseMembers (by decide) out _
    | _ => rfl

theorem finish_rebase (source out : Members) :
    finish (rebaseMembers source) (rebaseMembers out) = rebaseMembers (finish source out) := by
  rw [finish_eq, finish_eq, isNullable_rebase, bounded, bounded,
    setStrictBound_rebase (by decide) (by decide), setStrictBound_rebase (by decide) (by decide)]
  split
  · rw [allowNull, typeWithNull_rebase, enumWithNull_rebase]
    rfl
  · rfl

theorem convert_ne_str {v : Json} (h : ∀ t, v ≠ .str t) (t : String) : convert v ≠ .str t := by
  cases v with
  | str t => exact absurd rfl (h t)
  | _ => simp [convert]

/-- A schema may be converted before or after its references are led into the document. -/
theorem rebase_convert (v : Json) : rebase (convert v) = convert (rebase v) := by
  suffices h : rebase (convert v) = convert (rebase v) ∧
      ∀ k, convertValue k (rebaseMember k v) = rebaseMember k (convertValue k v) from h.1
  induction v using Json.children_induction with
  | _ v ih =>
    cases v with
    | obj ms =>
      have hchild : ∀ m ∈ ms, m.2 ∈ (Json.obj ms).children := fun m hm =>
        List.mem_map.2 ⟨m, hm, rfl⟩
      have hkeywords : convertKeywords (rebaseMembers ms) = rebaseMembers (convertKeywords ms) := by
        rw [convertKeywords_eq, convertKeywords_eq, rebaseMembers_eq, rebaseMembers_eq,
          List.filter_map, List.map_map, List.map_map]
        refine List.map_congr_left fun m hm => congrArg (Prod.mk m.1) ?_
        exact (ih m.2 (hchild m (List.mem_filter.1 hm).1)).2 m.1
      have hobj : rebase (convert (.obj ms)) = convert (rebase (.obj ms)) := by
        rw [convert, rebase, rebase, convert, hkeywords, finish_rebase]
      have heach : convertEach (rebaseMembers ms) = rebaseMembers (convertEach ms) := by
        rw [convertEach_eq, convertEach_eq, rebaseMembers_eq, rebaseMembers_eq, List.map_map,
          List.map_map]
        refine List.map_congr_left fun m hm => congrArg (Prod.mk m.1) ?_
        show convert (rebaseMember m.1 m.2) = rebaseMember m.1 (convert m.2)
        by_cases htext : ∃ t, m.2 = .str t
        · obtain ⟨t, ht⟩ := htext
          rw [ht]
          rfl
        · have hne : ∀ t, m.2 ≠ .str t := fun t ht => htext ⟨t, ht⟩
          rw [rebaseMember_eq fun _ => hne, rebaseMember_eq fun _ => convert_ne_str hne,
            (ih m.2 (hchild m hm)).1]
      refine ⟨hobj, fun k => ?_⟩
      show convertValue k (.obj (rebaseMembers ms)) = _
      rw [convertValue, convertValue]
      split
      · rw [heach]
        rfl
      · split
        · rw [hkeywords, finish_rebase]
          rfl
        · rfl
    | arr xs =>
      refine ⟨rfl, fun k => ?_⟩
      show convertValue k (.arr (rebaseItems xs)) = _
      rw [convertValue, convertValue]
      split
      · have hall : convertAll (rebaseItems xs) = rebaseItems (convertAll xs) := by
          rw [convertAll_eq, convertAll_eq, rebaseItems_eq, rebaseItems_eq, List.map_map,
            List.map_map]
          exact List.map_congr_left fun x hx => (ih x hx).1.symm
        rw [hall]
        rfl
      · rfl
    | _ => exact ⟨rfl, fun _ => rfl⟩

end MessageContract.OpenApi
