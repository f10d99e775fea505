import MessageContract.Proofs.Json.Place
import MessageContract.Proofs.Schema.Evaluation.Run

/-!
# Steps in the schema as it is written

The steps of an evaluation lead through references, while a path in a schema stays in it. As long as
no reference is followed, steps lead to the same place in the schema as it was before it was
rebased; behind a reference there is nothing, for its value is a text. So the types that a keyword
asks for are found in the schema as it is written if and only if no reference was followed on the
way to it (`Evaluation.Finds.at?_type`).
-/

namespace MessageContract

open Evaluation

variable {ms : Members} {steps rest : List Step} {v w x : Json}

/-! ## Before rebasing -/

theorem exists_of_mem_rebaseMembers {ns : Members} {k : String} (h : (k, v) ∈ rebaseMembers ns) :
    ∃ w, (k, w) ∈ ns ∧ v = rebaseMember k w := by
  rw [rebaseMembers_eq] at h
  obtain ⟨m, hm, heq⟩ := List.mem_map.1 h
  cases heq
  exact ⟨m.2, hm, rfl⟩

/-- What becomes of a list is one. -/
theorem Rebases.of_arr {xs : List Json} (h : Rebases w (.arr xs)) :
    ∃ ys, w = .arr ys ∧ xs = ys.map rebase := by
  generalize hx : Json.arr xs = x at h
  cases h with
  | text => cases hx
  | value =>
    cases w with
    | arr ys =>
      rw [rebase, rebaseItems_eq] at hx
      exact ⟨ys, rfl, Json.arr.inj hx⟩
    | _ => simp [rebase] at hx

theorem Rebases.of_obj (h : Rebases w (.obj ms)) : ∃ ns, w = .obj ns ∧ ms = rebaseMembers ns := by
  generalize hx : Json.obj ms = x at h
  cases h with
  | text => cases hx
  | value =>
    cases w with
    | obj ns =>
      rw [rebase] at hx
      exact ⟨ns, rfl, Json.obj.inj hx⟩
    | _ => simp [rebase] at hx

theorem Rebases.of_str {s : String} (h : Rebases w (.str s)) : ∃ t, w = .str t := by
  generalize hx : Json.str s = x at h
  cases h with
  | text => exact ⟨_, rfl⟩
  | value =>
    cases w with
    | str t => exact ⟨t, rfl⟩
    | _ => simp [rebase] at hx

theorem eq_of_rebase_eq_str {s : String} (h : rebase v = .str s) : v = .str s := by
  cases v with
  | str t => simpa [rebase] using h
  | _ => simp [rebase] at h

theorem eq_of_map_rebase {xs : List Json} {ts : List String} (h : xs.map rebase = ts.map .str) :
    xs = ts.map .str := by
  induction ts generalizing xs with
  | nil => exact List.map_eq_nil_iff.1 h
  | cons t ts ih =>
    obtain ⟨x, rest, rfl, hx, hrest⟩ := List.map_eq_cons_iff.1 h
    rw [eq_of_rebase_eq_str hx, ih hrest, List.map_cons]

/-- Names of types stay as they are. -/
theorem Keyword.Declares.rebase_eq {names : List TypeName} (h : Declares (rebase v) names) :
    rebase v = v := by
  generalize hx : rebase v = x at h
  cases h with
  | one t => exact (eq_of_rebase_eq_str hx).symm
  | several =>
    obtain ⟨xs, rfl, hxs⟩ := Rebases.of_arr (hx ▸ Rebases.value v)
    have htexts : names.map (fun t => Json.str t.write) = (names.map TypeName.write).map .str := by
      rw [List.map_map]
      rfl
    rw [eq_of_map_rebase (hxs.symm.trans htexts), ← htexts]

/-! ## Steps under a keyword -/

/-- Nothing stands inside a text. -/
theorem Json.at?_str (s : String) {path : List String} (h : path ≠ []) :
    (Json.str s).at? path = none := by
  cases path with
  | nil => exact absurd rfl h
  | cons name path => rfl

/-- Steps to a value under a keyword were there before rebasing. -/
theorem Keyword.Under.origin (h : Under ms steps x) {ns : Members} (hms : ms = rebaseMembers ns) :
    ∃ y, Under ns steps y ∧ Rebases y x := by
  subst hms
  cases h with
  | value known member =>
    obtain ⟨y, hy, rfl⟩ := exists_of_mem_rebaseMembers member
    exact ⟨y, .value known hy, rebases_member _ y⟩
  | @item k xs i _ known member item =>
    obtain ⟨y, hy, heq⟩ := exists_of_mem_rebaseMembers member
    obtain ⟨ys, rfl, rfl⟩ := Rebases.of_arr (heq ▸ rebases_member k y)
    rw [List.getElem?_map] at item
    obtain ⟨z, hz, rfl⟩ := Option.map_eq_some_iff.1 item
    exact ⟨z, .item known hy hz, .value z⟩
  | @entry k n ns' _ known member entry =>
    obtain ⟨y, hy, heq⟩ := exists_of_mem_rebaseMembers member
    obtain ⟨zs, rfl, rfl⟩ := Rebases.of_obj (heq ▸ rebases_member k y)
    obtain ⟨z, hz, rfl⟩ := exists_of_mem_rebaseMembers entry
    exact ⟨z, .entry known hy hz, rebases_member n z⟩

/-- Steps to a value under a keyword lead there. -/
theorem Keyword.Under.at? (h : Under ms steps x) (hd : (Json.obj ms).HasDistinctNames)
    (path : List String) :
    (Json.obj ms).at? (steps.map Step.text ++ path) = x.at? path ∧ x.HasDistinctNames := by
  cases h with
  | value known member => exact ⟨Json.at?_member hd.nodup member path, hd.member member⟩
  | item known member item =>
    have hlist := hd.member member
    have hmem := List.mem_of_getElem? item
    refine ⟨?_, hlist.child hmem⟩
    exact (Json.at?_member hd.nodup member _).trans (Json.at?_item item path)
  | entry known member entry =>
    have hobject := hd.member member
    refine ⟨?_, hobject.member entry⟩
    exact (Json.at?_member hd.nodup member _).trans (Json.at?_member hobject.nodup entry path)

/-- A test that fails on keywords with schemas, on names and on indices fails on every step to a
value under a keyword. -/
theorem Keyword.Under.any_eq_false {p : Step → Bool} (h : Under ms steps x)
    (hkeyword : ∀ k ∈ applicators, p (.keyword k) = false) (hname : ∀ n, p (.name n) = false)
    (hindex : ∀ i, p (.index i) = false) : steps.any p = false := by
  cases h with
  | value known member => simp [hkeyword _ known]
  | item known member item => simp [hkeyword _ known, hindex]
  | entry known member entry => simp [hkeyword _ known, hname]

namespace Evaluation

/-- Whether a step follows a reference. -/
def Step.refers : Step → Bool
  | .keyword k => Keyword.referrers.contains k
  | _ => false

theorem not_refers_of_under (h : Keyword.Under ms steps x) : steps.any Step.refers = false :=
  h.any_eq_false (by decide) (fun _ => rfl) (fun _ => rfl)

variable {r : Resources} {fuel : Nat} {scope : Scope} {schema origin : Json} {spot : Spot}
  {names : List TypeName} {strict : Bool} {violation : Violation}

/-- The types of a `type` keyword that fails stand in its object, and they are found at the path of
the violation in the schema as it is written, unless a reference was followed. -/
theorem Finds.at?_type
    (h : Finds r fuel scope schema spot steps (.keyword ms (.type names strict)) violation)
    (horigin : Rebases origin schema) (hd : origin.HasDistinctNames) :
    ∃ value, ("type", value) ∈ ms ∧ Keyword.Declares value names ∧
      origin.at? (steps.map Step.text) =
        if steps.any Step.refers then none else some value := by
  generalize hfailure : Failure.keyword ms (.type names strict) = failure at h
  induction h generalizing origin with
  | refuses => cases hfailure
  | fails keyword failure =>
    cases hfailure
    obtain ⟨ts, strict', value, heq, hmember, hdeclares⟩ :=
      (Dialect.stands_of_mem_keywords keyword).type (List.mem_singleton.2 rfl)
    cases heq
    obtain ⟨ns, rfl, rfl⟩ := horigin.of_obj
    obtain ⟨y, hy, rfl⟩ := exists_of_mem_rebaseMembers hmember
    rw [rebaseMember_keyword (by decide)] at hmember hdeclares
    rw [hdeclares.rebase_eq] at hmember hdeclares
    refine ⟨y, hmember, hdeclares, ?_⟩
    cases failure
    exact Json.at?_member hd.nodup hy []
  | @inside _ _ _ _ _ _ _ first rest _ _ keyword part path under enters found ih =>
    obtain ⟨ns, rfl, hms⟩ := horigin.of_obj
    obtain ⟨y, hy, hrebases⟩ := under.origin hms
    obtain ⟨hat, hdistinct⟩ := hy.at? hd (rest.map Step.text)
    rw [List.map_append, hat, List.any_append, not_refers_of_under under, Bool.false_or]
    exact ih hrebases hdistinct hfailure
  | @named _ _ _ _ _ _ _ rest _ _ keyword object member found ih =>
    obtain ⟨ns, rfl, rfl⟩ := horigin.of_obj
    obtain ⟨y, hy, hvalue⟩ := exists_of_mem_rebaseMembers
      ((Dialect.stands_of_mem_keywords keyword).propertyNames _ rfl)
    have hat : (Json.obj ns).at? ("propertyNames" :: rest.map Step.text) =
        y.at? (rest.map Step.text) := Json.at?_member hd.nodup hy _
    rw [List.map_cons, Step.text, hat, List.any_cons]
    exact ih (hvalue ▸ rebases_member _ y) (hd.member hy) hfailure
  | @follows _ _ _ _ _ kind target _ rest _ _ keyword leads found ih =>
    obtain ⟨ns, rfl, rfl⟩ := horigin.of_obj
    obtain ⟨y, hy, hvalue⟩ := exists_of_mem_rebaseMembers
      ((Dialect.stands_of_mem_keywords keyword).reference _ _ rfl)
    obtain ⟨t, rfl⟩ := Rebases.of_str (hvalue ▸ rebases_member _ y)
    subst hfailure
    obtain ⟨ts, strict', value, heq, hmember, hdeclares⟩ :=
      found.keyword.1.type (List.mem_singleton.2 rfl)
    cases heq
    refine ⟨value, hmember, hdeclares, ?_⟩
    have hat : (Json.obj ns).at? (kind.keyword :: rest.map Step.text) =
        (Json.str t).at? (rest.map Step.text) := Json.at?_member hd.nodup hy _
    have hrefers : (Step.keyword kind.keyword).refers = true := by cases kind <;> rfl
    rw [List.map_cons, Step.text, hat, List.any_cons, hrefers, Bool.true_or, if_pos rfl]
    obtain ⟨before, k, -, -, rfl⟩ := found.own
    exact Json.at?_str t (by simp)

end Evaluation
end MessageContract
