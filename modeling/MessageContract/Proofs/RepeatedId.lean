import MessageContract.Proofs.WellFormed
import Mathlib.Data.Finset.Card
import Mathlib.Data.List.Nodup

/-!
# Repeated ids

The rule on `messageId` goes through the messages once and knows of each id the last message that
had it (`Rules.knows_lookup_seen`). So it finds each message whose id an earlier message has, in
their order, and names the nearest of the earlier ones; there are as many findings as messages with
an id beyond the distinct ids (`Rules.repeatedIds_exact`).
-/

namespace MessageContract
namespace Rules

/-! ## Messages with one id -/

/-- The `messageId`s of messages, in their order. -/
def ids (ms : Members) : List String := ms.filterMap fun m => messageId? m.2

/-- The `messageId` of the message at a position. -/
def idAt? (ms : Members) (i : Nat) : Option String := ms[i]?.bind fun m => messageId? m.2

/-- The key of the message at a position. -/
def keyAt? (ms : Members) (i : Nat) : Option String := ms[i]?.map (·.1)

/-- The message at a position has a `messageId`, and one before it has the same. -/
def IsRepeat (ms : Members) (i : Nat) : Prop :=
  (idAt? ms i).isSome ∧ ∃ j < i, idAt? ms j = idAt? ms i

instance (ms : Members) (i : Nat) : Decidable (IsRepeat ms i) :=
  inferInstanceAs (Decidable (_ ∧ _))

/-- The last message before a position that has an id. -/
structure IsLatest (ms : Members) (id : String) (j i : Nat) : Prop where
  before : j < i
  same : idAt? ms j = some id
  between : ∀ k, j < k → k < i → idAt? ms k ≠ some id

/-- A finding is about the `messageId` of the message at a position, and names the nearest message
before it that has the same. -/
def TellsRepeat (ms : Members) (i : Nat) (d : Diagnostic) : Prop :=
  ∃ key id other j, keyAt? ms i = some key ∧ idAt? ms i = some id ∧
    keyAt? ms j = some other ∧ IsLatest ms id j i ∧
    d = .error .messageIdUniqueness
      ("\"messageId\" must be unique across all the messages: \"" ++ id ++
        "\" is also used by \"" ++ other ++ "\".")
      ["components", "messages", key, "messageId"]

variable {ms rest : Members} {m : String × Json} {i : Nat} {id : String}

theorem idAt?_append_left (h : i < ms.length) : idAt? (ms ++ rest) i = idAt? ms i := by
  rw [idAt?, List.getElem?_append_left h, idAt?]

theorem idAt?_append_length : idAt? (ms ++ m :: rest) ms.length = messageId? m.2 := by
  rw [idAt?, List.getElem?_append_right (Nat.le_refl _), Nat.sub_self]
  rfl

theorem keyAt?_append_left (h : i < ms.length) : keyAt? (ms ++ rest) i = keyAt? ms i := by
  rw [keyAt?, List.getElem?_append_left h, keyAt?]

theorem keyAt?_append_length : keyAt? (ms ++ m :: rest) ms.length = some m.1 := by
  rw [keyAt?, List.getElem?_append_right (Nat.le_refl _), Nat.sub_self]
  rfl

theorem lt_length_of_idAt? (h : idAt? ms i = some id) : i < ms.length := by
  obtain ⟨m, hm, -⟩ := Option.bind_eq_some_iff.1 h
  exact (List.getElem?_eq_some_iff.1 hm).1

theorem IsLatest.append {j : Nat} (h : IsLatest ms id j ms.length) :
    IsLatest (ms ++ rest) id j ms.length :=
  ⟨h.before, (idAt?_append_left h.before).trans h.same,
    fun k hjk hk => (idAt?_append_left hk).symm ▸ h.between k hjk hk⟩

/-! ## What is known on the way -/

/-- Ids and keys of messages, the last message first. -/
def seen (ms : Members) : List (String × String) :=
  (ms.filterMap fun m => (messageId? m.2).map (·, m.1)).reverse

theorem seen_concat_none (h : messageId? m.2 = none) : seen (ms ++ [m]) = seen ms := by
  simp [seen, h]

theorem seen_concat_some (h : messageId? m.2 = some id) :
    seen (ms ++ [m]) = (id, m.1) :: seen ms := by
  simp [seen, h]

/-- What is to be known of an id: the key of the last message that has it, if one has it. -/
inductive Knows (ms : Members) (id : String) : Option String → Prop
  | never (absent : ∀ j, idAt? ms j ≠ some id) : Knows ms id none
  | latest {j : Nat} {other : String} (latest : IsLatest ms id j ms.length)
      (key : keyAt? ms j = some other) : Knows ms id (some other)

/-- A message with another id, or with none, changes nothing. -/
theorem Knows.concat {known : Option String} (h : Knows ms id known)
    (hm : messageId? m.2 ≠ some id) : Knows (ms ++ [m]) id known := by
  have hlength : (ms ++ [m]).length = ms.length + 1 := List.length_append
  have hlast : idAt? (ms ++ [m]) ms.length ≠ some id := idAt?_append_length ▸ hm
  cases h with
  | never absent =>
    refine .never fun j hj => ?_
    have hlt := lt_length_of_idAt? hj
    obtain hjlt | rfl := Nat.lt_succ_iff_lt_or_eq.1 (hlength ▸ hlt)
    · exact absent j ((idAt?_append_left hjlt).symm.trans hj)
    · exact hlast hj
  | latest latest key =>
    refine .latest ⟨?_, latest.append.same, fun k hjk hk => ?_⟩
      ((keyAt?_append_left latest.before).trans key)
    · exact hlength ▸ Nat.lt_succ_of_lt latest.before
    · obtain hklt | rfl := Nat.lt_succ_iff_lt_or_eq.1 (hlength ▸ hk)
      · exact latest.append.between k hjk hklt
      · exact hlast

/-- Looking an id up gives what is to be known of it. -/
theorem knows_lookup_seen (ms : Members) (id : String) : Knows ms id ((seen ms).lookup id) := by
  induction ms using List.reverseRecOn with
  | nil => exact .never fun j hj => absurd (lt_length_of_idAt? hj) (Nat.not_lt_zero j)
  | append_singleton ms m ih =>
    cases hm : messageId? m.2 with
    | none =>
      rw [seen_concat_none hm]
      exact ih.concat (by simp [hm])
    | some new =>
      rw [seen_concat_some hm]
      by_cases hnew : id = new
      · subst hnew
        rw [List.lookup_cons_self]
        refine .latest ⟨?_, idAt?_append_length.trans hm, fun k hk hlt => ?_⟩
          keyAt?_append_length
        · simp
        · rw [List.length_append, List.length_singleton] at hlt
          omega
      · rw [List.lookup_cons, beq_false_of_ne hnew]
        exact ih.concat (by simpa [hm] using Ne.symm hnew)

/-! ## The findings -/

theorem repeatedIds_cons_none {earlier : List (String × String)} (h : messageId? m.2 = none) :
    repeatedIds earlier (m :: rest) = repeatedIds earlier rest := by
  rw [repeatedIds, h]

/-- A message with an id is found if the id is known, and is known from then on. -/
theorem repeatedIds_cons_some {earlier : List (String × String)} (h : messageId? m.2 = some id) :
    repeatedIds earlier (m :: rest) =
      ((earlier.lookup id).map (repeatedId m.1 id)).toList ++
        repeatedIds ((id, m.1) :: earlier) rest := by
  rw [repeatedIds, h]
  dsimp only
  cases earlier.lookup id <;> rfl

theorem isRepeat_length_iff (hid : messageId? m.2 = some id) :
    IsRepeat (ms ++ m :: rest) ms.length ↔ ∃ j, idAt? ms j = some id := by
  rw [IsRepeat, idAt?_append_length, hid]
  constructor
  · rintro ⟨-, j, hj, hsame⟩
    exact ⟨j, (idAt?_append_left hj).symm.trans hsame⟩
  · rintro ⟨j, hsame⟩
    have hj := lt_length_of_idAt? hsame
    exact ⟨rfl, j, hj, (idAt?_append_left hj).trans hsame⟩

/-- Behind messages that are known, the findings are about the repeating messages in their order. -/
theorem tellsRepeat_repeatedIds (ms rest : Members) :
    List.Forall₂ (TellsRepeat (ms ++ rest))
      ((List.range' ms.length rest.length).filter fun i => IsRepeat (ms ++ rest) i)
      (repeatedIds (seen ms) rest) := by
  induction rest generalizing ms with
  | nil => exact .nil
  | cons m rest ih =>
    have hrest := ih (ms ++ [m])
    rw [List.append_assoc, List.singleton_append, List.length_append, List.length_singleton]
      at hrest
    rw [List.length_cons, List.range'_succ]
    cases hid : messageId? m.2 with
    | none =>
      have hrepeat : ¬ IsRepeat (ms ++ m :: rest) ms.length := by
        rintro ⟨hsome, -⟩
        rw [idAt?_append_length, hid] at hsome
        cases hsome
      rw [List.filter_cons_of_neg (by simpa using hrepeat), repeatedIds_cons_none hid]
      rwa [seen_concat_none hid] at hrest
    | some id =>
      rw [seen_concat_some hid] at hrest
      rw [repeatedIds_cons_some hid]
      have hknown := knows_lookup_seen ms id
      generalize (seen ms).lookup id = known at hknown ⊢
      cases hknown with
      | never absent =>
        have hrepeat : ¬ IsRepeat (ms ++ m :: rest) ms.length :=
          fun h => ((isRepeat_length_iff hid).1 h).elim absent
        rw [List.filter_cons_of_neg (by simpa using hrepeat)]
        exact hrest
      | @latest j other latest key =>
        have hrepeat : IsRepeat (ms ++ m :: rest) ms.length :=
          (isRepeat_length_iff hid).2 ⟨j, latest.same⟩
        rw [List.filter_cons_of_pos (by simpa using hrepeat)]
        exact .cons ⟨m.1, id, other, j, keyAt?_append_length, idAt?_append_length.trans hid,
          (keyAt?_append_left latest.before).trans key, latest.append, rfl⟩ hrest

/-- An id that is new counts once, and is no longer new for what follows. -/
theorem card_insert_sdiff (new met : Finset String) (id : String) :
    (insert id new \ met).card = (new \ insert id met).card + if id ∈ met then 0 else 1 := by
  by_cases hmet : id ∈ met
  · rw [if_pos hmet, Finset.insert_sdiff_of_mem _ hmet, Finset.insert_eq_of_mem hmet, Nat.add_zero]
  · rw [if_neg hmet, Finset.insert_sdiff_of_notMem _ hmet, Finset.sdiff_insert,
      ← Finset.erase_insert_eq_erase, Finset.card_erase_add_one (Finset.mem_insert_self _ _)]

theorem length_toList_lookup (earlier : List (String × String)) (id : String)
    (f : String → Diagnostic) : ((earlier.lookup id).map f).toList.length =
      if id ∈ (earlier.map (·.1)).toFinset then 1 else 0 := by
  have hmem : (earlier.lookup id).isSome ↔ id ∈ (earlier.map (·.1)).toFinset := by
    rw [List.mem_toFinset, List.lookup_isSome_iff]
    simp
  cases hlookup : earlier.lookup id with
  | none => exact (if_neg (hmem.not.1 (by simp [hlookup]))).symm
  | some other => exact (if_pos (hmem.1 (by simp [hlookup]))).symm

/-- Beside the ids that were met, each message with an id is found but for the first one with a new
id. -/
theorem length_repeatedIds (earlier : List (String × String)) (ms : Members) :
    (repeatedIds earlier ms).length +
      ((ids ms).toFinset \ (earlier.map (·.1)).toFinset).card = (ids ms).length := by
  induction ms generalizing earlier with
  | nil => simp [repeatedIds, ids]
  | cons m ms ih =>
    cases hid : messageId? m.2 with
    | none =>
      have hids : ids (m :: ms) = ids ms := List.filterMap_cons_none hid
      rw [repeatedIds_cons_none hid, hids]
      exact ih earlier
    | some id =>
      have hids : ids (m :: ms) = id :: ids ms := List.filterMap_cons_some hid
      have hrest := ih ((id, m.1) :: earlier)
      rw [List.map_cons, List.toFinset_cons] at hrest
      dsimp only at hrest
      rw [repeatedIds_cons_some hid, hids, List.toFinset_cons, card_insert_sdiff,
        List.length_append, length_toList_lookup, List.length_cons]
      split <;> omega

/-- Each message whose `messageId` an earlier message has is found once, in the order of the
messages, and the finding names the nearest earlier one. So nothing is found exactly if the ids are
pairwise distinct, and there are as many findings as messages with an id less the distinct ids. -/
theorem repeatedIds_exact (ms : Members) :
    List.Forall₂ (TellsRepeat ms) ((List.range ms.length).filter fun i => IsRepeat ms i)
      (repeatedIds [] ms) ∧
    (repeatedIds [] ms = [] ↔ (ids ms).Nodup) ∧
    (repeatedIds [] ms).length = (ids ms).length - (ids ms).toFinset.card := by
  refine ⟨?_, ?_, ?_⟩
  · rw [List.range_eq_range']
    exact tellsRepeat_repeatedIds [] ms
  · rw [repeatedIds_eq_nil_iff]
    exact and_iff_left fun _ _ => rfl
  · have hlength := length_repeatedIds [] ms
    rw [List.map_nil, List.toFinset_nil, Finset.sdiff_empty] at hlength
    omega

/-- Three messages with one id, and one with another id between them. -/
example :
    let carrier (id : String) : Json := .obj [("messageId", .str id)]
    repeatedIds [] [("a", carrier "x"), ("b", carrier "y"), ("c", carrier "x"), ("d", .null),
        ("e", carrier "x")] = [repeatedId "c" "x" "a", repeatedId "e" "x" "c"] := by
  decide

end Rules
end MessageContract
