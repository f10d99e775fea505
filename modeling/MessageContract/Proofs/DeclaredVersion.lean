import MessageContract.Proofs.MessageReference

/-!
# The version of a document that comes out

The version is read from the raw root document, and everything behind it runs over what comes out of
inlining. The two agree wherever the root document is no reference itself, for a member of it comes
out under its name. A root document that is a reference gives way to what it names, and then the
version that was read is declared by what comes out exactly if it is declared there
(`Parse.keepsVersion_of_document`).
-/

namespace MessageContract

/-- The document is a mapping that declares the version it came out under. -/
def Document.DeclaresVersion (d : Document) : Prop :=
  ∃ ms, d.json = .obj ms ∧ Members.get? ms "asyncapi" = some (.str d.version.write)

theorem Document.declaresVersion_iff (d : Document) :
    d.DeclaresVersion ↔ d.json.get? "asyncapi" = some (.str d.version.write) := by
  unfold DeclaresVersion
  cases d.json with
  | obj ms => simp [Json.get?]
  | _ => simp [Json.get?]

namespace Version

theorem ofText?_eq_some {text : String} {v : Version} (h : ofText? text = some v) :
    v ∈ supported ∧ v.write = text := by
  have hwrite : (v.write == text) = true :=
    List.find?_some (p := fun u : Version => u.write == text) h
  exact ⟨List.mem_of_find?_eq_some h, beq_iff_eq.1 hwrite⟩

theorem ofText?_write {v : Version} (h : v ∈ supported) : ofText? v.write = some v := by
  have hall : ∀ v ∈ supported, ofText? v.write = some v := by decide +kernel
  exact hall v h

end Version

/-- A document passes the check of the version exactly if it declares a supported one. -/
theorem Rules.version_eq_ok_iff {doc : Json} {v : Version} :
    version doc = .ok v ↔
      v ∈ Version.supported ∧ doc.get? "asyncapi" = some (.str v.write) := by
  unfold version
  constructor
  · intro h
    split at h
    · next text hget =>
      split at h
      · next v' hv =>
        obtain rfl := Except.ok.inj h
        obtain ⟨hmem, hwrite⟩ := Version.ofText?_eq_some hv
        exact ⟨hmem, hwrite ▸ hget⟩
      · cases h
    · cases h
    · cases h
  · rintro ⟨hmem, hget⟩
    simp only [hget, Version.ofText?_write hmem]

namespace Sources

/-- A text comes out under a name: the value that references lead to has a member there which leads
to the text, or stays a reference with the text beside it. -/
inductive ShowsText (s : Sources) (p : Point) (name text : String) : Prop
  | member {q q' : Point} {ms : Members} {h : Json} (leads : s.Leads p q) (value : q.value = .obj ms)
      (plain : q.value.reference? = none) (entry : Members.get? ms name = some h)
      (arrives : s.Leads { q with value := h } q') (text : q'.value = .str text)
  | beside {q : Point} {ms : Members} (leads : s.Leads p q) (stays : s.Stays q)
      (value : q.value = .obj ms) (entry : Members.get? ms name = some (.str text))

variable {s : Sources}

/-- A reference that stays comes out with the same members, but for the reference itself. -/
theorem Stays.get?_inlines {fuel : Nat} {p : Point} {out : Json} (hp : s.Stays p)
    (h : s.Inlines fuel p.stack p.base p.value out) {name : String} (hname : name ≠ "$ref") :
    out.get? name = p.value.get? name := by
  cases hp with
  | @unfound r hr hnone =>
    rcases inlines_reference hr h with ⟨_, rfl⟩ | ⟨_, _, ht, _⟩ | ⟨_, _, _, ht, _⟩
    · rfl
    · exact absurd hnone (find?_of_target? ht)
    · exact absurd hnone (find?_of_target? ht)
  | kept hk =>
    rw [h.eq_backEdge hk]
    obtain ⟨ms, hms⟩ := reference?_obj hk.reference
    rw [hms]
    exact Members.get?_insert_ne ms hname _

/-- A text comes out under a name exactly where it is shown. -/
theorem Inlines.get?_str_iff {fuel : Nat} {p : Point} {out : Json}
    (h : s.Inlines fuel p.stack p.base p.value out) {name : String} (hname : name ≠ "$ref")
    (text : String) : out.get? name = some (.str text) ↔ s.ShowsText p name text := by
  constructor
  · intro hget
    obtain ⟨q, n, hq, hin, hplain | hstays⟩ := h.exists_leads
    · cases hv : q.value with
      | obj ms =>
        obtain ⟨ns, rfl, hall⟩ := inlines_obj (hv ▸ hplain) (hv ▸ hin)
        obtain ⟨m, hm, hinm⟩ := forall₂_get?_right hall hget
        obtain ⟨q', hq', htext⟩ := (hinm.str_iff text).1 rfl
        exact .member hq hv hplain hm hq' htext
      | arr xs =>
        obtain ⟨ys, rfl, _⟩ := inlines_arr (hv ▸ hin)
        cases hget
      | _ =>
        rw [hv] at hin
        rw [inlines_leaf ⟨by simp, by simp⟩ hin] at hget
        cases hget
    · have hstay : s.Stays q := by
        rcases hstays with ⟨r, hr, hnone⟩ | ⟨r, t, v, hk⟩
        · exact .unfound hr hnone
        · exact .kept hk
      obtain ⟨r, hr⟩ := hstay.exists_reference
      obtain ⟨ms, hms⟩ := reference?_obj hr
      rw [hstay.get?_inlines hin hname, hms] at hget
      exact .beside hq hstay hms hget
  · intro hshows
    cases hshows with
    | @member q q' ms m hq hv hplain hm hq' htext =>
      obtain ⟨n, hin⟩ := h.of_leads hq
      obtain ⟨ns, rfl, hall⟩ := inlines_obj (hv ▸ hplain) (hv ▸ hin)
      obtain ⟨x, hx, hinm⟩ := forall₂_get? hall hm
      obtain rfl := (hinm.str_iff text).2 ⟨q', hq', htext⟩
      exact hx
    | @beside q ms hq hstay hv hget =>
      obtain ⟨n, hin⟩ := h.of_leads hq
      rw [hstay.get?_inlines hin hname, hv]
      exact hget

/-- What stands under a name of a value that is no reference comes out there. -/
theorem ShowsText.of_plain {p : Point} {name text : String} (hr : p.value.reference? = none)
    (hget : p.value.get? name = some (.str text)) : s.ShowsText p name text := by
  cases hv : p.value with
  | obj ms =>
    rw [hv] at hget
    exact .member Relation.ReflTransGen.refl hv hr hget Relation.ReflTransGen.refl rfl
  | _ => rw [hv] at hget; cases hget

end Sources

namespace Parse

/-- How the version of a document that comes out is tied to its tree. -/
structure KeepsVersion (s : Sources) (core : Bool) (d : Document) : Prop where
  /-- The raw root document declares it. -/
  raw : s.root.get? "asyncapi" = some (.str d.version.write)
  /-- The tree passes the check of the version with this version exactly if it declares it. -/
  checked_iff : Rules.version d.json = .ok d.version ↔ d.DeclaresVersion
  /-- The tree declares it exactly if it is shown at the root. -/
  declares_iff : d.DeclaresVersion ↔ s.ShowsText s.start "asyncapi" d.version.write
  /-- So it is unless the root document is a reference. -/
  plain : s.root.reference? = none → d.DeclaresVersion
  /-- With the core rules the tree is a mapping in any case. -/
  mapping : core = true → ∃ ms, d.json = .obj ms

/-- Every document that comes out keeps its version so. -/
theorem keepsVersion_of_document {w : World} {settings : FetchSettings} {options : ParseOptions}
    {location : Location} {input : Input} {d : Document}
    (h : (run w settings options location input).document = some d) :
    ∃ raw, root input = .ok raw ∧
      KeepsVersion (w.sources settings raw location) options.core d := by
  obtain ⟨raw, hraw, hacc⟩ := accepted_of_document h
  obtain ⟨hsupported, hget⟩ := Rules.version_eq_ok_iff.1 hacc.version
  have hjson : d.json = Sources.image _ (w.sources settings raw location).root := hacc.json
  have hdeclares : d.DeclaresVersion ↔ (w.sources settings raw location).ShowsText
      (w.sources settings raw location).start "asyncapi" d.version.write := by
    rw [d.declaresVersion_iff, hjson]
    exact (Sources.inlines_root hacc.inlined).get?_str_iff (by decide) _
  refine ⟨raw, hraw, hget, ?_, hdeclares, fun hr => ?_, fun hcore => ?_⟩
  · rw [Rules.version_eq_ok_iff, and_iff_right hsupported, d.declaresVersion_iff]
  · exact hdeclares.2 (.of_plain hr hget)
  · -- without an `info` member the core rules find something
    have hinfo := (List.append_eq_nil_iff.1 (List.append_eq_nil_iff.1 (List.append_eq_nil_iff.1
      (List.append_eq_nil_iff.1 (hacc.core hcore)).1).1).1).1
    cases hd : d.json with
    | obj ms => exact ⟨ms, rfl⟩
    | _ => rw [hd] at hinfo; cases hinfo

/-- A root document that gives way to a part of it. -/
def givesWay (version : String) : Json :=
  .obj [("asyncapi", .str "3.0.0"), ("$ref", .str "#/x"),
    ("x", .obj [("asyncapi", .str version),
      ("info", .obj [("title", .str "t"), ("version", .str "1")])])]

theorem keepsVersion_of_document_givesWay :
    ∃ d raw, (run .bare .default .default .inline (.json (givesWay "3.0.0"))).document = some d ∧
      root (.json (givesWay "3.0.0")) = .ok raw ∧
      KeepsVersion (World.bare.sources .default raw .inline) true d := by
  have hsome : (run .bare .default .default .inline
      (.json (givesWay "3.0.0"))).document.isSome = true := by decide +kernel
  obtain ⟨d, hd⟩ := Option.isSome_iff_exists.1 hsome
  obtain ⟨raw, hraw, hkeeps⟩ := keepsVersion_of_document hd
  exact ⟨d, raw, hd, hraw, hkeeps⟩

/-- A document comes out under the version of its root, with a tree that declares one which is not
supported. -/
theorem document_declares_other_version :
    ∃ d, (run .bare .default .default .inline (.json (givesWay "1.2.0"))).document = some d ∧
      d.version = ⟨3, 0, 0⟩ ∧ d.json.get? "asyncapi" = some (.str "1.2.0") ∧
      ¬ d.DeclaresVersion := by
  have hversion : ((run .bare .default .default .inline
      (.json (givesWay "1.2.0"))).document.any fun d => d.version == ⟨3, 0, 0⟩) = true := by
    decide +kernel
  have hdeclared : ((run .bare .default .default .inline
      (.json (givesWay "1.2.0"))).document.bind
        fun d => (d.json.get? "asyncapi").bind Json.asString?) = some "1.2.0" := by
    decide +kernel
  obtain ⟨d, hd, hget⟩ := Option.bind_eq_some_iff.1 hdeclared
  obtain ⟨v, hv, hstr⟩ := Option.bind_eq_some_iff.1 hget
  rw [hd] at hversion
  have hthree : d.version = ⟨3, 0, 0⟩ := beq_iff_eq.1 hversion
  have hother : d.json.get? "asyncapi" = some (.str "1.2.0") := by
    cases v with
    | str text => rw [hv, Option.some.inj hstr]
    | _ => cases hstr
  refine ⟨d, hd, hthree, hother, fun hdeclares => ?_⟩
  rw [d.declaresVersion_iff, hother, hthree] at hdeclares
  have hsame : "1.2.0" = Version.write ⟨3, 0, 0⟩ := Json.str.inj (Option.some.inj hdeclares)
  exact absurd hsame (by decide +kernel)

end Parse
end MessageContract
