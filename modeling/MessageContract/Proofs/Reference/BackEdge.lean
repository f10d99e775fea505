import MessageContract.Proofs.Json.Pointer
import MessageContract.Proofs.Reference.Inlined
import MessageContract.Proofs.Uri.Fragment

/-!
# Edges back

A reference that stays as an edge back is read a second time, as a fragment of the document with its
references inlined: its text has to be a legal fragment, and names a place with its escapes undone.
A pointer without percent signs that passes no reference object is read as it was before exactly if
it is legal (`Sources.ReadsBack.plain_iff`).
-/

namespace MessageContract

/-- The value that a fragment names, as a reader of references into the document finds it. -/
def Json.fragment? (document : Json) (fragment : String) : Option Json :=
  if Uri.IsFragment fragment then (Uri.decode? fragment).bind document.pointer? else none

theorem Json.fragment?_eq_some {document v : Json} {fragment : String} :
    document.fragment? fragment = some v ↔ Uri.IsFragment fragment ∧
      ∃ pointer, Uri.decode? fragment = some pointer ∧ document.pointer? pointer = some v := by
  rw [fragment?]
  split
  · next h => rw [Option.bind_eq_some_iff, and_iff_right h]
  · next h => exact iff_of_false (by simp) fun h' => h h'.1

theorem Json.fragment?_plain {document : Json} {fragment : String} (h : '%' ∉ fragment.toList)
    (hlegal : Uri.IsFragment fragment) :
    document.fragment? fragment = document.pointer? fragment := by
  rw [fragment?, if_pos hlegal, Uri.decode?_plain h, Option.bind_some]

namespace Sources

variable {s : Sources}

/-- How an edge back to `v`, kept at `p`, is read in what comes out. -/
structure ReadsBack (s : Sources) (p : Point) (t : Target) (v : Json) : Prop where
  /-- It named `v`. -/
  named : s.root.pointer? t.pointer = some v
  /-- It stands in what comes out. -/
  stands : s.inline.value.Holds (backEdge t.pointer p.value)
  /-- It leads to the image of `v` exactly if it is legal and leads there with its escapes undone. -/
  image_iff : s.inline.value.fragment? t.pointer = some (s.image v) ↔ Uri.IsFragment t.pointer ∧
    ∃ pointer, Uri.decode? t.pointer = some pointer ∧
      s.inline.value.pointer? pointer = some (s.image v)
  /-- Past no reference object, it leads to the image of what it leads to in the root document. -/
  straight : ∀ pointer, Uri.decode? t.pointer = some pointer → s.root.IsStraight pointer →
    s.inline.value.pointer? pointer = (s.root.pointer? pointer).map s.image
  /-- Past no reference object and without escapes, it does so exactly if it is legal. -/
  plain_iff : s.root.IsStraight t.pointer → '%' ∉ t.pointer.toList →
    (s.inline.value.fragment? t.pointer = some (s.image v) ↔
      ∀ c ∈ t.pointer.toList, Uri.isFragmentChar c = true)

/-- Every edge back that inlining keeps stands in what comes out and is read so. -/
theorem readsBack_of_keeps (h : s.inline.findings = []) {p : Point} (hp : s.Meets s.start p)
    {r : String} {t : Target} {v : Json} (hk : s.Keeps p r t v) : s.ReadsBack p t v where
  named := hk.names_root.2.2
  stands := by
    have hroot : s.Inlines s.bound s.start.stack s.start.base s.start.value s.inline.value :=
      inlines_root h
    obtain ⟨n, out, hout, hholds⟩ := hroot.of_meets hp
    rwa [hout.eq_backEdge hk] at hholds
  image_iff := Json.fragment?_eq_some
  straight := fun _ _ hs => pointer?_inline h hs
  plain_iff := by
    intro hs hplain
    rw [← Uri.isFragment_plain hplain]
    constructor
    · exact fun hread => (Json.fragment?_eq_some.1 hread).1
    · intro hlegal
      rw [Json.fragment?_plain hplain hlegal, pointer?_inline h hs, hk.names_root.2.2,
        Option.map_some]

/-! ## A value that refers to itself -/

/-- A pointer that is one name without escapes. -/
theorem pointer?_name {name : String} (hslash : '/' ∉ name.toList) (htilde : '~' ∉ name.toList)
    (v : Json) : v.pointer? ("/" ++ name) = Pointer.step? name.toList v := by
  have hsegments : Pointer.segments? ("/" ++ name).toList = some [name.toList] := by
    have hread := Pointer.segments?_flatMap (List.cons_ne_nil name.toList [])
    rw [List.flatMap_singleton, Pointer.escape_of_not_mem htilde hslash] at hread
    rw [String.toList_append]
    exact hread
  rw [Json.pointer?, hsegments, Option.bind_some, Pointer.follow?]
  cases Pointer.step? name.toList v <;> rfl

/-- A value under a name, which refers to itself from inside. -/
def cycle (name : String) : Sources :=
  ⟨.obj [("asyncapi", .str "2.6.0"),
    (name, .obj [("next", .obj [("$ref", .str ("#" ++ ("/" ++ name)))])])], .inline, []⟩

/-- Inside a value that refers to itself an edge back is kept. -/
theorem exists_keeps_cycle (name : String) (hroot : name ≠ "asyncapi") (href : name ≠ "$ref")
    (hslash : '/' ∉ name.toList) (htilde : '~' ∉ name.toList) :
    ∃ p v, (cycle name).Meets (cycle name).start p ∧
      (cycle name).Keeps p ("#" ++ ("/" ++ name)) ⟨.inline, "/" ++ name⟩ v := by
  have hrootref : (cycle name).root.reference? = none := by
    simp [cycle, Json.reference?, Members.get?, href]
  have hget : (cycle name).root.get? name =
      some (.obj [("next", .obj [("$ref", .str ("#" ++ ("/" ++ name)))])]) := by
    simp [cycle, Json.get?, Members.get?, Ne.symm hroot]
  have htarget : (cycle name).target? .inline ("#" ++ ("/" ++ name)) =
      some (⟨.inline, "/" ++ name⟩,
        .obj [("next", .obj [("$ref", .str ("#" ++ ("/" ++ name)))])]) := by
    have hfind : (cycle name).find? .inline "" = some (.inline, (cycle name).root) := rfl
    rw [target?, Reference.document_hash, Reference.fragment_hash, hfind, Option.bind_some,
      pointer?_name hslash htilde]
    show ((cycle name).root.get? (String.ofList name.toList)).map _ = _
    rw [String.ofList_toList, hget, Option.map_some]
  have hmeets : ∀ stack q, (cycle name).Meets
      ⟨stack, .inline, .obj [("$ref", .str ("#" ++ ("/" ++ name)))]⟩ q →
      (cycle name).Meets
        ⟨stack, .inline, .obj [("next", .obj [("$ref", .str ("#" ++ ("/" ++ name)))])]⟩ q := by
    intro stack q hq
    exact Meets.part (p := ⟨stack, .inline, .obj [("next", _)]⟩) rfl List.mem_cons_self hq
  refine ⟨⟨[⟨.inline, "/" ++ name⟩], .inline, .obj [("$ref", .str ("#" ++ ("/" ++ name)))]⟩, _,
    ?_, ⟨rfl, htarget, ?_, rfl⟩⟩
  · refine Meets.part (p := (cycle name).start) hrootref
      (List.mem_cons_of_mem _ List.mem_cons_self) (hmeets [] _ ?_)
    refine Meets.enter (p := ⟨[], .inline, .obj [("$ref", _)]⟩) ⟨rfl, htarget, rfl⟩ ?_
    exact hmeets _ _ (Meets.refl _)
  · show (Location.inline == .inline && "/" ++ name == "/" ++ name || false) = true
    simp

theorem readsBack_cycle_node :
    ∃ p v, (cycle "node").inline.findings = [] ∧ (cycle "node").Meets (cycle "node").start p ∧
      (cycle "node").Keeps p "#/node" ⟨.inline, "/node"⟩ v ∧
      (cycle "node").ReadsBack p ⟨.inline, "/node"⟩ v := by
  have hclean : (cycle "node").inline.findings = [] := by decide +kernel
  obtain ⟨p, v, hp, hk⟩ := exists_keeps_cycle "node" (by decide) (by decide)
    (by decide +kernel) (by decide +kernel)
  exact ⟨p, v, hclean, hp, hk, readsBack_of_keeps hclean hp hk⟩

/-- A name with a blank: the edge back is kept, and no fragment. -/
theorem fragment?_cycle_eq_none :
    ∃ p v, (cycle "my node").inline.findings = [] ∧
      (cycle "my node").Meets (cycle "my node").start p ∧
      (cycle "my node").Keeps p "#/my node" ⟨.inline, "/my node"⟩ v ∧
      (cycle "my node").inline.value.fragment? "/my node" = none := by
  have hclean : (cycle "my node").inline.findings = [] := by decide +kernel
  obtain ⟨p, v, hp, hk⟩ := exists_keeps_cycle "my node" (by decide) (by decide)
    (by decide +kernel) (by decide +kernel)
  refine ⟨p, v, hclean, hp, hk, ?_⟩
  rw [Json.fragment?, if_neg (by decide +kernel)]

end Sources
end MessageContract
