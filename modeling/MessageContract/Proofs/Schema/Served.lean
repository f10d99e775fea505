import MessageContract.Proofs.Reference.BackEdge
import MessageContract.Schema.Compile

/-!
# The document that is served to payload schemas

A payload schema is used with its references by fragment alone led to the address of the document
(`rebase`); there the document is found, with its references by fragment alone as they are. So a
schema stands in the payload or in the document (`Served.Place`), and an edge back leads to the same
value from both (`Served.resolve_backEdge`).
-/

namespace MessageContract

theorem Reference.split_hash {document : String} (h : '#' ∉ document.toList) (fragment : String) :
    Reference.split (document ++ "#" ++ fragment) = (document, fragment) := by
  have hpass : ∀ c ∈ document.toList, (c != '#') = true := fun c hc =>
    bne_iff_ne.2 fun heq => h (heq ▸ hc)
  have htext : (document ++ "#" ++ fragment).toList =
      document.toList ++ '#' :: fragment.toList := by
    simp
  simp only [split, htext, List.takeWhile_append_of_pos hpass, List.dropWhile_append_of_pos hpass]
  simp

/-! ## Rebasing -/

theorem rebaseItems_eq (xs : List Json) : rebaseItems xs = xs.map rebase := by
  induction xs with
  | nil => rfl
  | cons x xs ih => rw [rebaseItems, List.map_cons, ih]

theorem rebaseMembers_eq (ms : Members) :
    rebaseMembers ms = ms.map fun m => (m.1, rebaseMember m.1 m.2) := by
  induction ms with
  | nil => rfl
  | cons m ms ih => rw [rebaseMembers, List.map_cons, ih]

/-- Only a text under `$ref` is not rebased like any value. -/
theorem rebaseMember_eq {k : String} {v : Json} (h : k = "$ref" → ∀ t, v ≠ .str t) :
    rebaseMember k v = rebase v := by
  cases v with
  | str t =>
    have hk : (k == "$ref") = false := beq_eq_false_iff_ne.2 fun hk => h hk t rfl
    rw [rebaseMember, hk, Bool.false_and]
    rfl
  | _ => rfl

theorem rebaseMember_keyword {k : String} (hk : k ≠ "$ref") (v : Json) :
    rebaseMember k v = rebase v :=
  rebaseMember_eq fun h => absurd h hk

theorem get?_rebaseMembers {k : String} (hk : k ≠ "$ref") (ms : Members) :
    Members.get? (rebaseMembers ms) k = (Members.get? ms k).map rebase := by
  rw [rebaseMembers_eq, Members.get?_map]
  cases Members.get? ms k with
  | none => rfl
  | some x => exact congrArg some (rebaseMember_keyword hk x)

/-- A value without references is left as it is. -/
theorem rebase_plain {v : Json} (h : v.IsPlain) : rebase v = v := by
  induction v using Json.children_induction with
  | _ v ih =>
    cases v with
    | obj ms =>
      rw [rebase, rebaseMembers_eq]
      congr 1
      refine (List.map_congr_left fun m hm => ?_).trans (List.map_id ms)
      have hchild : m.2 ∈ (Json.obj ms).children := List.mem_map.2 ⟨m, hm, rfl⟩
      have htext : m.1 = "$ref" → ∀ t, m.2 ≠ .str t := by
        rintro hk t ht
        obtain ⟨k, w⟩ := m
        cases hk
        cases ht
        exact h _ (Json.Holds.refl _) ⟨ms, t, rfl, hm⟩
      rw [rebaseMember_eq htext, ih m.2 hchild (h.child hchild)]
      rfl
    | arr xs =>
      rw [rebase, rebaseItems_eq]
      congr 1
      exact (List.map_congr_left fun x hx => ih x hx (h.child hx)).trans (List.map_id xs)
    | _ => rfl

namespace Served

/-- Where a schema stands that is read beside the served document. -/
inductive Place
  | payload
  | document
  deriving DecidableEq

/-- A value with references by fragment alone, as it stands in a place. -/
def dress : Place → Json → Json
  | .payload, v => rebase v
  | .document, v => v

/-- What stands under a name, as it stands in a place. -/
def dressMember : Place → String → Json → Json
  | .payload, k, v => rebaseMember k v
  | .document, _, v => v

/-- Where references lead: to fragments of the document, from the payload by its address, and from
the document itself also by fragment alone. -/
def resolve (document : Json) (place : Place) (reference : String) : Option (Place × Json) :=
  if Reference.document reference = documentUri ∨
      Reference.document reference = "" ∧ place = .document then
    (document.fragment? (Reference.fragment reference)).map fun v => (.document, v)
  else none

/-! ## Values as they stand -/

variable (place : Place)

theorem dress_arr (xs : List Json) : dress place (.arr xs) = .arr (xs.map (dress place)) := by
  cases place with
  | payload => rw [dress, rebase, rebaseItems_eq]; rfl
  | document => exact congrArg Json.arr (List.map_id xs).symm

theorem dress_obj (ms : Members) :
    dress place (.obj ms) = .obj (ms.map fun m => (m.1, dressMember place m.1 m.2)) := by
  cases place with
  | payload => rw [dress, rebase, rebaseMembers_eq]; rfl
  | document => exact congrArg Json.obj (List.map_id ms).symm

theorem dressMember_eq {k : String} {v : Json} (h : k = "$ref" → ∀ t, v ≠ .str t) :
    dressMember place k v = dress place v := by
  cases place with
  | payload => exact rebaseMember_eq h
  | document => rfl

theorem dress_leaf {v : Json} (hobj : ∀ ms, v ≠ .obj ms) (harr : ∀ xs, v ≠ .arr xs) :
    dress place v = v := by
  cases v with
  | obj ms => exact absurd rfl (hobj ms)
  | arr xs => exact absurd rfl (harr xs)
  | _ => cases place <;> rfl

theorem dress_plain {v : Json} (h : v.IsPlain) : dress place v = v := by
  cases place with
  | payload => exact rebase_plain h
  | document => rfl

/-- References lead into the document, wherever they stand. -/
theorem resolve_holds {document : Json} {place : Place} {r : String} {x : Place × Json}
    (h : resolve document place r = some x) : x.1 = .document ∧ document.Holds x.2 := by
  rw [resolve] at h
  split at h
  · obtain ⟨v, hv, rfl⟩ := Option.map_eq_some_iff.1 h
    obtain ⟨_, pointer, _, hpointer⟩ := Json.fragment?_eq_some.1 hv
    exact ⟨rfl, Json.holds_of_pointer hpointer⟩
  · cases h

/-- From both places an edge back leads to the same fragment of the document. -/
theorem resolve_backEdge {holder : Json} {r : String} (hr : holder.reference? = some r)
    (pointer : String) (document : Json) :
    ∃ r', (dress place (Sources.backEdge pointer holder)).reference? = some r' ∧
      resolve document place r' =
        (document.fragment? pointer).map fun v => (Place.document, v) := by
  cases place with
  | payload =>
    obtain ⟨ms, rfl⟩ := Sources.reference?_obj hr
    have hstart : ("#" ++ pointer).startsWith "#" = true := by
      simp
    have hmember : Members.get? (rebaseMembers (Members.insert ms "$ref" (.str ("#" ++ pointer))))
        "$ref" = some (.str (documentUri ++ ("#" ++ pointer))) := by
      rw [rebaseMembers_eq, Members.get?_map, Members.get?_insert_self, Option.map_some,
        rebaseMember, hstart]
      rfl
    refine ⟨documentUri ++ ("#" ++ pointer), ?_, ?_⟩
    · rw [dress, Sources.backEdge, rebase, Json.reference?, hmember]
    · have hsplit : Reference.split (documentUri ++ "#" ++ pointer) = (documentUri, pointer) :=
        Reference.split_hash (by decide +kernel) pointer
      rw [String.append_assoc] at hsplit
      rw [resolve, Reference.document, Reference.fragment, hsplit, if_pos (Or.inl rfl)]
  | document =>
    refine ⟨"#" ++ pointer, Sources.reference?_backEdge hr pointer, ?_⟩
    rw [resolve, Reference.document_hash, Reference.fragment_hash, if_pos (Or.inr ⟨rfl, rfl⟩)]

end Served
end MessageContract
