import MessageContract.Proofs.Schema.Visits

/-!
# The order of keywords in a converted schema

A bound that becomes strict is taken out of a schema object by a removal that puts the last member
into the free place. So the last keyword comes to stand in front of all that stood between the bound
and it (`OpenApi.overtakes`). Besides that the conversion keeps the order of keywords
(`OpenApi.sameOrder_finish_iff`), of names and of lists (`OpenApi.convert_keeps_order`).
-/

namespace MessageContract.OpenApi

variable {bound exclusive k : String} {ms ns out source : Members} {v : Json}

/-! ## The order that is compared -/

/-- Keywords that are set anew, wherever they stood. -/
def flags : List String := ["exclusiveMinimum", "exclusiveMaximum"]

/-- The other keywords of an object, in order. -/
def others (ms : Members) : List String := (ms.map (·.1)).filter fun k => k ∉ flags

/-- The keywords that two objects share stand in one order in both. -/
def SameOrder (ms ns : Members) : Prop :=
  (others ms).filter (others ns).contains = (others ns).filter (others ms).contains

/-- Names keep their order in the objects under a keyword, and items keep their places in lists. -/
structure KeepsEntries (ms ns : Members) : Prop where
  names : ∀ k ∈ mapKeywords, ∀ ps, Members.get? ms k = some (.obj ps) →
    ∃ qs, Members.get? ns k = some (.obj qs) ∧ qs.map (·.1) = ps.map (·.1)
  items : ∀ k ∈ listKeywords, ∀ xs, Members.get? ms k = some (.arr xs) →
    Members.get? ns k = some (.arr (xs.map convert))

/-! ## The keyword that moves -/

/-- The bound becomes strict. -/
def isStrict (bound exclusive : String) (ms : Members) : Bool :=
  match Members.get? ms exclusive with
  | some (.bool true) => (Members.get? ms bound).isSome
  | _ => false

/-- The strict bound is there already. -/
def isLimit (exclusive : String) (ms : Members) : Bool :=
  match Members.get? ms exclusive with
  | none => false
  | some (.bool _) => false
  | some _ => true

/-- The keywords that stay until the bounds are set. -/
def kept (ms : Members) : List String := (ms.map (·.1)).filter fun k => !isDropped k

/-- The bound is taken out. -/
def leaves (ms : Members) (k : String) : Bool :=
  k == "minimum" && isStrict "minimum" "exclusiveMinimum" ms ||
    k == "maximum" && isStrict "maximum" "exclusiveMaximum" ms

/-- The bound whose place is taken by the last keyword: the first that is taken out, if no strict
bound stands behind it by then. -/
def vacated? (ms : Members) : Option String :=
  if isStrict "minimum" "exclusiveMinimum" ms then some "minimum"
  else if isLimit "exclusiveMinimum" ms then none
  else if isStrict "maximum" "exclusiveMaximum" ms then some "maximum"
  else none

/-- The last keyword stays and takes a place in front of another one that stays. -/
def overtakes (ms : Members) : Bool :=
  match vacated? ms with
  | none => false
  | some bound =>
    let behind := ((kept ms).dropWhile (· != bound)).tail
    match behind.getLast? with
    | none => false
    | some last => !leaves ms last && behind.dropLast.any fun k => !leaves ms k

/-! ## Order after a step -/

theorem others_append (ms ns : Members) : others (ms ++ ns) = others ms ++ others ns := by
  rw [others, List.map_append, List.filter_append]
  rfl

theorem others_cons_flag {m : String × Json} (hm : m.1 ∈ flags) (ms : Members) :
    others (m :: ms) = others ms := by
  rw [others, List.map_cons, List.filter_cons_of_neg (by simpa using hm)]
  rfl

theorem others_cons {m : String × Json} (hm : m.1 ∉ flags) (ms : Members) :
    others (m :: ms) = m.1 :: others ms := by
  rw [others, List.map_cons, List.filter_cons_of_pos (by simpa using hm)]
  rfl

theorem mem_others_iff : k ∈ others ms ↔ k ∈ ms.map (·.1) ∧ k ∉ flags := by
  rw [others, List.mem_filter, decide_eq_true_iff]

theorem nodup_others (h : (ms.map (·.1)).Nodup) : (others ms).Nodup := h.filter _

theorem others_insert (hk : k ∈ flags ∨ k ∈ ms.map (·.1)) (x : Json) :
    others (Members.insert ms k x) = others ms := by
  rw [others, Members.insert_names]
  split
  · rfl
  · next hmem =>
    rw [List.filter_append, List.filter_cons_of_neg (by simpa using hk.resolve_right hmem)]
    exact List.append_nil _

theorem others_replace_flag (hbound : bound ∉ flags) {m : String × Json} (hm : m.1 ∈ flags)
    (ms : Members) : others (Members.replace ms bound m) = (others ms).erase bound := by
  induction ms with
  | nil => rfl
  | cons n ms ih =>
    obtain ⟨k, w⟩ := n
    rw [Members.replace_cons]
    split
    · next hk =>
      subst hk
      rw [others_cons_flag hm, others_cons hbound, List.erase_cons_head]
    · next hk =>
      by_cases hflag : k ∈ flags
      · rw [others_cons_flag hflag, others_cons_flag hflag, ih]
      · rw [others_cons hflag, others_cons hflag, ih, List.erase_cons_tail (by simpa using hk)]

/-- Where a strict bound stands at the end, nothing else moves. -/
theorem others_swapRemove_flag (hbound : bound ∉ flags) {m : String × Json} (hm : m.1 ∈ flags)
    (ms : Members) :
    others (Members.swapRemove (ms ++ [m]) bound) = (others ms).erase bound := by
  have hne : m.1 ≠ bound := fun heq => hbound (heq ▸ hm)
  rw [Members.swapRemove_concat, if_neg hne]
  split
  · exact others_replace_flag hbound hm ms
  · next hnone =>
    have hnot : bound ∉ others ms := fun hmem =>
      Members.get?_eq_none_iff.1 (Option.not_isSome_iff_eq_none.1 hnone) (mem_others_iff.1 hmem).1
    rw [others_append, others_cons_flag hm, List.erase_of_not_mem hnot]
    exact List.append_nil _

theorem replace_middle {init : Members} {m : String × Json} (hm : m.1 ∉ init.map (·.1))
    (rest : Members) (last : String × Json) :
    Members.replace (init ++ m :: rest) m.1 last = init ++ last :: rest := by
  induction init with
  | nil => rw [List.nil_append, Members.replace_cons, if_pos rfl, List.nil_append]
  | cons n init ih =>
    obtain ⟨k, w⟩ := n
    rw [List.map_cons, List.mem_cons, not_or] at hm
    rw [List.cons_append, Members.replace_cons, if_neg (Ne.symm hm.1), ih hm.2, List.cons_append]

/-- Otherwise the last member takes the free place. -/
theorem swapRemove_middle {init rest : Members} {m last : String × Json}
    (h : ((init ++ m :: (rest ++ [last])).map (·.1)).Nodup) :
    Members.swapRemove (init ++ m :: (rest ++ [last])) m.1 = init ++ last :: rest := by
  have hsplit : init ++ m :: (rest ++ [last]) = (init ++ m :: rest) ++ [last] := by simp
  have hparts : m.1 ∉ init.map (·.1) ∧ last.1 ≠ m.1 := by
    rw [List.map_append, List.map_cons, List.nodup_append] at h
    refine ⟨fun hm => h.2.2 _ hm m.1 List.mem_cons_self rfl, fun heq => ?_⟩
    exact (List.nodup_cons.1 h.2.1).1 (heq ▸ List.mem_map_of_mem (by simp))
  have hfound : (Members.get? (init ++ m :: rest) m.1).isSome = true := by
    rw [Option.isSome_iff_ne_none, Ne, Members.get?_eq_none_iff]
    simp
  rw [hsplit, Members.swapRemove_concat, if_neg hparts.2, if_pos hfound,
    replace_middle hparts.1]

/-! ## Order in a converted object -/

theorem names_convertKeywords (ms : Members) : (convertKeywords ms).map (·.1) = kept ms := by
  rw [convertKeywords_eq, List.map_map, kept, List.filter_map]
  rfl

theorem isDropped_of_flag : ∀ k ∈ flags, isDropped k = true := by decide

theorem others_convertKeywords (ms : Members) : others (convertKeywords ms) = kept ms := by
  rw [others, names_convertKeywords]
  refine List.filter_eq_self.2 fun k hk => decide_eq_true fun hflag => ?_
  rw [kept, List.mem_filter, isDropped_of_flag k hflag] at hk
  cases hk.2

/-- What becomes of the bound and the strict bound. -/
theorem setStrictBound_cases (bound exclusive : String)
    (hbound : (Members.get? out bound).isSome = (Members.get? source bound).isSome) :
    (isStrict bound exclusive source = true ∧ ∃ x, setStrictBound bound exclusive source out =
      Members.insert (Members.swapRemove out bound) exclusive x) ∨
    (isStrict bound exclusive source = false ∧ isLimit exclusive source = true ∧
      ∃ x, setStrictBound bound exclusive source out = Members.insert out exclusive x) ∨
    (isStrict bound exclusive source = false ∧ isLimit exclusive source = false ∧
      setStrictBound bound exclusive source out = out) := by
  cases hflag : Members.get? source exclusive with
  | none => exact Or.inr (Or.inr (by simp [isStrict, isLimit, setStrictBound, hflag]))
  | some flag =>
    cases flag with
    | bool strictly =>
      cases strictly with
      | false => exact Or.inr (Or.inr (by simp [isStrict, isLimit, setStrictBound, hflag]))
      | true =>
        cases hlimit : Members.get? out bound with
        | none =>
          rw [hlimit] at hbound
          exact Or.inr (Or.inr (by
            simp [isStrict, isLimit, setStrictBound, hflag, hlimit, ← hbound]))
        | some limit =>
          rw [hlimit] at hbound
          exact Or.inl ⟨by simp [isStrict, hflag, ← hbound],
            limit, by simp [setStrictBound, hflag, hlimit]⟩
    | _ =>
      refine Or.inr (Or.inl ⟨by simp [isStrict, hflag], by simp [isLimit, hflag], ?_⟩)
      simp only [setStrictBound, hflag]
      exact ⟨_, rfl⟩

theorem others_allowNull (out : Members) : others (allowNull out) = others out := by
  have htype : others (typeWithNull out) = others out := by
    unfold typeWithNull
    split
    · next h => exact others_insert (Or.inr (List.mem_map_of_mem (Members.mem_of_get? h))) _
    · rfl
  unfold allowNull enumWithNull
  split
  · next h =>
    rw [others_insert (Or.inr (List.mem_map_of_mem (Members.mem_of_get? h))), htype]
  · exact htype

theorem others_finish (source out : Members) :
    others (finish source out) = others (bounded source out) := by
  rw [finish_eq]
  split
  · exact others_allowNull _
  · rfl

/-- Behind the strict bound of one side, the bound of the other side is taken out in order. -/
theorem others_setStrictBound_concat {m : String × Json} (hm : m.1 ∈ flags)
    (hbound : bound ∉ flags) (hexclusive : exclusive ∈ flags) (hout : (out.map (·.1)).Nodup)
    (hfound : (Members.get? (out ++ [m]) bound).isSome = (Members.get? source bound).isSome) :
    others (setStrictBound bound exclusive source (out ++ [m])) =
      (others out).filter fun k => !(k == bound && isStrict bound exclusive source) := by
  have hflag : others (out ++ [m]) = others out := by
    rw [others_append, others_cons_flag hm]
    exact List.append_nil _
  rcases setStrictBound_cases bound exclusive hfound with
    ⟨hstrict, x, heq⟩ | ⟨hstrict, -, x, heq⟩ | ⟨hstrict, -, heq⟩
  · rw [heq, others_insert (Or.inl hexclusive), others_swapRemove_flag hbound hm,
      (nodup_others hout).erase_eq_filter, hstrict]
    simp only [Bool.and_true]
    rfl
  · rw [heq, others_insert (Or.inl hexclusive), hflag, hstrict]
    simp
  · rw [heq, hflag, hstrict]
    simp

theorem fresh_of_flag (hk : k ∈ flags) (ms : Members) :
    k ∉ (convertKeywords ms).map (·.1) := by
  exact Members.get?_eq_none_iff.1 (get?_convertKeywords_flag hk ms)

/-- The bound whose place is taken is gone. -/
theorem ne_of_mem_swapRemove (hms : (ms.map (·.1)).Nodup)
    (hk : k ∈ others (Members.swapRemove ms bound)) : k ≠ bound := by
  rintro rfl
  refine absurd (mem_others_iff.1 hk).1 ?_
  rw [← Members.get?_eq_none_iff, Members.get?_swapRemove hms, if_pos rfl]

/-- What the bound of the upper side does behind the strict one of the lower side. -/
theorem others_setUpperBound_concat {source : Members} (x : Json) (hout : (out.map (·.1)).Nodup)
    (hfound : Members.get? out "maximum" = Members.get? (convertKeywords source) "maximum") :
    others (setStrictBound "maximum" "exclusiveMaximum" source
        (out ++ [("exclusiveMinimum", x)])) =
      (others out).filter fun k =>
        !(k == "maximum" && isStrict "maximum" "exclusiveMaximum" source) := by
  have hmin : "exclusiveMinimum" ∈ flags := by decide
  refine others_setStrictBound_concat hmin (by decide) (by decide) hout ?_
  rw [Members.get?_append, hfound, get?_convertKeywords_bound (by decide)]
  simp [Members.get?]

/-- The keywords of a converted object: those that stay, after the last of them took the place of
the bound. -/
theorem others_bounded (hms : (ms.map (·.1)).Nodup) :
    others (bounded ms (convertKeywords ms)) =
      (match vacated? ms with
      | some bound => others (Members.swapRemove (convertKeywords ms) bound)
      | none => kept ms).filter fun k => !leaves ms k := by
  have hout := nodup_convertKeywords hms
  have hmax : "exclusiveMaximum" ∈ flags := by decide
  have hfresh : "exclusiveMinimum" ∉ (convertKeywords ms).map (·.1) :=
    fresh_of_flag (by decide) ms
  rw [bounded]
  rcases setStrictBound_cases "minimum" "exclusiveMinimum"
    (congrArg Option.isSome (get?_convertKeywords_bound (by decide) ms)) with
    ⟨hstrict, x, heq⟩ | ⟨hstrict, hlimit, x, heq⟩ | ⟨hstrict, hlimit, heq⟩
  · have hleft : "exclusiveMinimum" ∉
        (Members.swapRemove (convertKeywords ms) "minimum").map (·.1) := by
      rw [← Members.get?_eq_none_iff, Members.get?_swapRemove hout, if_neg (by decide),
        Members.get?_eq_none_iff]
      exact hfresh
    rw [heq, Members.insert_of_fresh hleft, others_setUpperBound_concat x
      (Members.nodup_swapRemove hout _) (by rw [Members.get?_swapRemove hout, if_neg (by decide)])]
    simp only [vacated?, hstrict, if_true]
    refine List.filter_congr fun k hk => ?_
    simp [leaves, ne_of_mem_swapRemove hout hk]
  · rw [heq, Members.insert_of_fresh hfresh, others_setUpperBound_concat x hout rfl,
      others_convertKeywords]
    simp only [vacated?, hstrict, hlimit, leaves, Bool.false_eq_true, if_false, if_true,
      Bool.and_false, Bool.false_or]
  · rw [heq]
    rcases setStrictBound_cases "maximum" "exclusiveMaximum"
      (congrArg Option.isSome (get?_convertKeywords_bound (by decide) ms)) with
      ⟨hstrict', x, heq'⟩ | ⟨hstrict', -, x, heq'⟩ | ⟨hstrict', -, heq'⟩
    · rw [heq', others_insert (Or.inl hmax)]
      simp only [vacated?, hstrict, hstrict', hlimit, Bool.false_eq_true, if_false, if_true]
      refine (List.filter_eq_self.2 fun k hk => ?_).symm
      simp [leaves, ne_of_mem_swapRemove hout hk, hstrict]
    · rw [heq', others_insert (Or.inl hmax), others_convertKeywords]
      simp [vacated?, hstrict, hstrict', hlimit, leaves]
    · rw [heq', others_convertKeywords]
      simp [vacated?, hstrict, hstrict', hlimit, leaves]

theorem isSome_of_isStrict (h : isStrict bound exclusive ms = true) :
    (Members.get? ms bound).isSome = true := by
  unfold isStrict at h
  split at h
  · exact h
  · cases h

/-- A bound whose place is taken is one that stays until the bounds are set, and is taken out. -/
theorem of_vacated (h : vacated? ms = some bound) : bound ∈ kept ms ∧ leaves ms bound = true := by
  have hkept : ∀ {bound exclusive}, bound ∈ ["minimum", "maximum"] →
      isStrict bound exclusive ms = true → bound ∈ kept ms := by
    intro bound exclusive hbound hstrict
    rw [← names_convertKeywords]
    by_contra hnot
    have hsome := isSome_of_isStrict hstrict
    rw [← get?_convertKeywords_bound hbound, Members.get?_eq_none_iff.2 hnot] at hsome
    cases hsome
  unfold vacated? at h
  split at h
  · next hstrict =>
    obtain rfl := Option.some.inj h
    exact ⟨hkept (by decide) hstrict, by simp [leaves, hstrict]⟩
  · split at h
    · cases h
    · split at h
      · next hstrict =>
        obtain rfl := Option.some.inj h
        exact ⟨hkept (by decide) hstrict, by simp [leaves, hstrict]⟩
      · cases h

/-- Whether the last of some names can be put in front without being seen. -/
theorem filter_concat_eq_iff {p : String → Bool} {xs : List String} {x : String} (hx : x ∉ xs) :
    (x :: xs).filter p = (xs ++ [x]).filter p ↔ (p x && xs.any p) = false := by
  cases hp : p x with
  | false => simp [List.filter_append, hp]
  | true =>
    rw [List.filter_append, List.filter_cons_of_pos hp, List.filter_cons_of_pos hp,
      List.filter_nil, Bool.true_and]
    constructor
    · intro h
      rw [← Bool.not_eq_true, List.any_eq_true]
      rintro ⟨y, hy, hpy⟩
      obtain ⟨z, zs, hz⟩ := List.exists_cons_of_ne_nil
        (List.ne_nil_of_mem (List.mem_filter.2 ⟨hy, hpy⟩))
      rw [hz] at h
      have hmem : x ∈ xs.filter p := by
        rw [hz, (List.cons.inj h).1]
        exact List.mem_cons_self
      exact hx (List.mem_filter.1 hmem).1
    · intro h
      have hnil : xs.filter p = [] := by
        rw [List.filter_eq_nil_iff]
        intro y hy hpy
        rw [List.any_eq_true.2 ⟨y, hy, hpy⟩] at h
        cases h
      rw [hnil]
      rfl

/-- What is behind a name in a list without repetition. -/
theorem tail_dropWhile_ne {xs ys : List String} (h : k ∉ xs) :
    ((xs ++ k :: ys).dropWhile (· != k)).tail = ys := by
  rw [List.dropWhile_append_of_pos fun x hx => by
    simp only [bne_iff_ne]
    rintro rfl
    exact h hx]
  simp

/-- The keywords that both objects have are those that stay and are not taken out. -/
theorem mem_others_finish_iff (hms : (ms.map (·.1)).Nodup) :
    k ∈ others (finish ms (convertKeywords ms)) ↔ k ∈ kept ms ∧ leaves ms k = false := by
  rw [others_finish, others_bounded hms, List.mem_filter, Bool.not_eq_true']
  refine and_congr_left fun hstays => ?_
  split
  · next bound hbound =>
    have hne : k ≠ bound := by
      rintro rfl
      rw [(of_vacated hbound).2] at hstays
      cases hstays
    rw [← others_convertKeywords, mem_others_iff, mem_others_iff]
    refine and_congr_left fun _ => not_iff_not.1 ?_
    rw [← Members.get?_eq_none_iff, ← Members.get?_eq_none_iff,
      Members.get?_swapRemove (nodup_convertKeywords hms), if_neg hne]
  · exact Iff.rfl

theorem sameOrder_iff (hms : (ms.map (·.1)).Nodup) :
    SameOrder ms (finish ms (convertKeywords ms)) ↔
      others (finish ms (convertKeywords ms)) = (kept ms).filter fun k => !leaves ms k := by
  have hsource : (others ms).filter (others (finish ms (convertKeywords ms))).contains =
      (kept ms).filter fun k => !leaves ms k := by
    have hothers : others ms = (ms.map (·.1)).filter fun k => k ∉ flags := rfl
    rw [kept, List.filter_filter, hothers, List.filter_filter]
    refine List.filter_congr fun k hk => ?_
    rw [Bool.eq_iff_iff, Bool.and_eq_true, List.contains_iff_mem, mem_others_finish_iff hms, kept,
      List.mem_filter, Bool.and_eq_true, Bool.not_eq_true', Bool.not_eq_true', decide_eq_true_iff]
    constructor
    · rintro ⟨⟨⟨-, hdropped⟩, hstays⟩, -⟩
      exact ⟨hstays, hdropped⟩
    · rintro ⟨hstays, hdropped⟩
      refine ⟨⟨⟨hk, hdropped⟩, hstays⟩, fun hflag => ?_⟩
      rw [isDropped_of_flag k hflag] at hdropped
      cases hdropped
  have htarget : (others (finish ms (convertKeywords ms))).filter (others ms).contains =
      others (finish ms (convertKeywords ms)) := by
    refine List.filter_eq_self.2 fun k hk => ?_
    have hkept := ((mem_others_finish_iff hms).1 hk).1
    rw [kept, List.mem_filter] at hkept
    exact List.contains_iff_mem.2 (mem_others_iff.2 ⟨hkept.1, (mem_others_iff.1 hk).2⟩)
  rw [SameOrder, hsource, htarget, eq_comm]

/-- What stays until the bounds are set is compared. -/
theorem others_eq_names {source : Members} (h : ∀ k ∈ out.map (·.1), k ∈ kept source) :
    others out = out.map (·.1) := by
  refine List.filter_eq_self.2 fun k hk => decide_eq_true fun hflag => ?_
  exact fresh_of_flag hflag source (names_convertKeywords source ▸ h k hk)

/-- The keywords of a schema object keep their order in the converted object unless the last one
overtakes others. -/
theorem sameOrder_finish_iff (hms : (ms.map (·.1)).Nodup) :
    SameOrder ms (finish ms (convertKeywords ms)) ↔ overtakes ms = false := by
  rw [sameOrder_iff hms, others_finish, others_bounded hms, overtakes]
  cases hvacated : vacated? ms with
  | none => exact iff_of_true rfl rfl
  | some bound =>
    have hout := nodup_convertKeywords hms
    obtain ⟨hmem, hleaves⟩ := of_vacated hvacated
    rw [← names_convertKeywords] at hmem
    obtain ⟨m, hm, rfl⟩ := List.mem_map.1 hmem
    obtain ⟨init, rest, hsplit⟩ := List.append_of_mem hm
    rw [hsplit] at hout
    have hfresh : m.1 ∉ init.map (·.1) := by
      rw [List.map_append, List.map_cons, List.nodup_append] at hout
      exact fun hmem => hout.2.2 _ hmem m.1 List.mem_cons_self rfl
    have hbehind : ((kept ms).dropWhile (· != m.1)).tail = rest.map (·.1) := by
      rw [← names_convertKeywords, hsplit, List.map_append, List.map_cons]
      exact tail_dropWhile_ne hfresh
    simp only [hbehind]
    have hkept : kept ms = init.map (·.1) ++ m.1 :: rest.map (·.1) := by
      rw [← names_convertKeywords, hsplit, List.map_append, List.map_cons]
    rcases List.eq_nil_or_concat' rest with rfl | ⟨between, last, rfl⟩
    · rw [hsplit, Members.swapRemove_concat, if_pos rfl,
        others_eq_names fun k hk => hkept ▸ List.mem_append_left _ hk, hkept]
      refine iff_of_true ?_ rfl
      rw [List.filter_append, List.filter_cons_of_neg (by simp [hleaves])]
      exact (List.append_nil _).symm
    · have hlast : last.1 ∉ between.map (·.1) := by
        have hrest := hout
        simp only [List.map_append, List.map_cons, List.map_nil] at hrest
        have hbetween := (List.nodup_cons.1 (List.nodup_append.1 hrest).2.1).2
        exact fun hmem => (List.nodup_append.1 hbetween).2.2 _ hmem last.1
          (List.mem_singleton.2 rfl) rfl
      have hstay : ∀ k ∈ (init ++ last :: between).map (·.1), k ∈ kept ms := by
        intro k hk
        rw [hkept]
        simp only [List.map_append, List.map_cons, List.map_nil, List.mem_append,
          List.mem_cons] at hk ⊢
        tauto
      rw [hsplit, swapRemove_middle hout, others_eq_names hstay, hkept, List.map_append,
        List.map_append, List.map_cons, List.filter_append, List.filter_append,
        List.append_cancel_left_eq,
        List.filter_cons_of_neg (a := m.1) (by simp [hleaves])]
      simp only [List.map_cons, List.map_nil, List.getLast?_concat, List.dropLast_concat]
      exact filter_concat_eq_iff hlast

/-! ## The whole schema -/

theorem keepsEntries_finish (hms : (ms.map (·.1)).Nodup) :
    KeepsEntries ms (finish ms (convertKeywords ms)) := by
  have hget : ∀ k ∈ mapKeywords ++ listKeywords,
      Members.get? (finish ms (convertKeywords ms)) k = (Members.get? ms k).map (convertValue k) :=
    fun k hk => get?_convert hms (by revert k; decide) (by revert k; decide)
  constructor
  case names =>
    intro k hk ps hps
    rw [hget k (List.mem_append_left _ hk), hps]
    refine ⟨convertEach ps, congrArg some ((convertValue_eq_obj hk).2 ⟨ps, rfl, rfl⟩), ?_⟩
    rw [convertEach_eq, List.map_map]
    rfl
  case items =>
    intro k hk xs hxs
    rw [hget k (List.mem_append_right _ hk), hxs]
    exact congrArg some ((convertValue_eq_arr hk).2 ⟨xs, rfl, rfl⟩)

/-- Wherever the conversion goes, it keeps the order of names and of lists, and it keeps the order
of keywords unless the last one overtakes others. -/
theorem convert_keeps_order {path : List String} (hv : v.HasDistinctNames)
    (h : Visits v path (.obj ms)) : ∃ ns, Visits (convert v) path (.obj ns) ∧
      (SameOrder ms ns ↔ overtakes ms = false) ∧ KeepsEntries ms ns := by
  have hms : (ms.map (·.1)).Nodup := (hv.holds h.holds).nodup
  exact ⟨finish ms (convertKeywords ms), (visits_convert_iff hv).2 ⟨.obj ms, h, rfl⟩,
    sameOrder_finish_iff hms, keepsEntries_finish hms⟩

/-- A bound behind which nothing stands is taken out unseen. -/
theorem convert_keeps_order_property :
    let ms : Members := [("type", .str "integer"), ("multipleOf", .num (.int 5)),
      ("exclusiveMinimum", .bool true), ("minimum", .num (.int 0))]
    let v : Json := .obj [("type", .str "object"), ("properties", .obj [("n", .obj ms)])]
    ∃ ns, Visits (convert v) ["properties", "n"] (.obj ns) ∧ SameOrder ms ns ∧
      KeepsEntries ms ns := by
  intro ms v
  have hwithin : Within [("type", .str "object"), ("properties", .obj [("n", .obj ms)])]
      ["properties", "n"] (.obj ms) := .entry (by decide) rfl rfl
  have hvisits : Visits v ["properties", "n"] (.obj ms) := .of_within hwithin
  obtain ⟨ns, hns, horder, hentries⟩ :=
    convert_keeps_order (Json.hasDistinctNames_of_parts (by decide)) hvisits
  exact ⟨ns, hns, horder.2 (by decide), hentries⟩

/-- The last keyword overtakes the type, as it takes the place of the bound. -/
theorem not_sameOrder_multipleOf :
    let ms : Members := [("minimum", .num (.int 0)), ("exclusiveMinimum", .bool true),
      ("type", .str "integer"), ("multipleOf", .num (.int 5))]
    let ns : Members := [("multipleOf", .num (.int 5)), ("type", .str "integer"),
      ("exclusiveMinimum", .num (.int 0))]
    convert (.obj ms) = .obj ns ∧ ¬SameOrder ms ns :=
  ⟨rfl, by unfold SameOrder; decide⟩

end MessageContract.OpenApi
