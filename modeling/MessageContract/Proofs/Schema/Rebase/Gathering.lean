import Mathlib.Data.List.DropRight
import MessageContract.Proofs.Except
import MessageContract.Proofs.Schema.Rebase.Value
import MessageContract.Proofs.Schema.Standard

/-!
# Resources of rebased schemas

For a schema that is free of references the same resources are gathered before and after it is
rebased, in the same order, each of the same size (`Resources.agree_gather`). Only what a schema
names as its draft can be wanted then.
-/

namespace MessageContract

/-- What a schema names as its draft is no fragment. -/
def IsQuiet (v : Json) : Prop :=
  ∀ s, (v.get? "$schema").bind Json.asString? = some s → s.startsWith "#" = false

/-- A resource before and after rebasing; resources of the document stay. -/
inductive Resource.Alike : Resource → Resource → Prop
  | same (r : Resource) : Alike r r
  | rebased {v w : Json} {d : Draft} (free : d.IsFree v) (quiet : IsQuiet v)
      (schema : Rebases v w) : Alike ⟨v, d⟩ ⟨w, d⟩

namespace Resources

/-- Resources of the same names and sizes. -/
def Alike (r r' : Resources) : Prop :=
  List.Forall₂ (fun e e' => e'.1 = e.1 ∧ e'.2.schema.count = e.2.schema.count) r.entries r'.entries

/-- The same is known, wanted and left to look at. -/
structure Gathering.Alike (g g' : Gathering) : Prop where
  known : g.known.Alike g'.known
  queue : List.Forall₂ (fun q q' => q'.1 = q.1 ∧ q.2.Alike q'.2) g.queue g'.queue
  wanted : g'.wanted = g.wanted
  seen : g'.seen = g.seen

theorem Alike.refl (r : Resources) : r.Alike r := List.forall₂_same.2 fun _ _ => ⟨rfl, rfl⟩

theorem Alike.any_name {r r' : Resources} (h : r.Alike r') (p : String → Bool) :
    r'.entries.any (p ·.1) = r.entries.any (p ·.1) := by
  have hany : ∀ {es es' : List (String × Resource)},
      List.Forall₂ (fun e e' => e'.1 = e.1 ∧ e'.2.schema.count = e.2.schema.count) es es' →
      es'.any (p ·.1) = es.any (p ·.1) := by
    intro es es' h
    induction h with
    | nil => rfl
    | cons he _ ih => rw [List.any_cons, List.any_cons, he.1, ih]
  exact hany h

theorem Alike.count_eq {r r' : Resources} (h : r.Alike r') : r'.count = r.count := by
  have hfold : ∀ {es es' : List (String × Resource)},
      List.Forall₂ (fun e e' => e'.1 = e.1 ∧ e'.2.schema.count = e.2.schema.count) es es' →
      ∀ n, es'.foldl (fun n e => n + e.2.schema.count) n =
        es.foldl (fun n e => n + e.2.schema.count) n := by
    intro es es' h
    induction h with
    | nil => exact fun _ => rfl
    | cons he _ ih =>
      intro n
      rw [List.foldl_cons, List.foldl_cons, he.2, ih]
  exact hfold h 0

end Resources

namespace Resource.Alike

variable {r r' : Resource}

theorem draft_eq (h : r.Alike r') : r'.draft = r.draft := by
  cases h <;> rfl

theorem base_eq (h : r.Alike r') (around : Uri) : r'.base around = r.base around := by
  cases h with
  | same => rfl
  | rebased _ _ schema => exact schema.base _ around

theorem name?_eq (h : r.Alike r') : r'.draft.name? r'.schema = r.draft.name? r.schema := by
  cases h with
  | same => rfl
  | rebased _ _ schema => exact schema.name? _

theorem count_eq (h : r.Alike r') : r'.schema.count = r.schema.count := by
  cases h with
  | same => rfl
  | rebased _ _ schema => exact schema.count

theorem depth_eq (h : r.Alike r') : r'.schema.depth = r.schema.depth := by
  cases h with
  | same => rfl
  | rebased _ _ schema => exact schema.depth

end Resource.Alike

/-! ## Quiet schemas -/

theorem toList_of_startsWith_hash {s : String} (h : s.startsWith "#" = true) :
    ∃ t, s.toList = '#' :: t := by
  obtain ⟨t, ht⟩ := String.startsWith_string_iff.1 h
  exact ⟨t, ht.symm⟩

/-- What starts with a number sign is no draft. -/
theorem isQuiet_of_detect {d d' : Draft} {v : Json} (h : d.detect v = .ok d') : IsQuiet v := by
  intro s hs
  rw [← Bool.not_eq_true]
  intro hhash
  obtain ⟨t, ht⟩ := toList_of_startsWith_hash hhash
  rw [Draft.detect, hs] at h
  dsimp only at h
  split at h
  · next d hd =>
    have huri : d.uri = Draft.trimSigns s := by simpa using List.find?_some hd
    have hprefix : d.uri.toList <+: s.toList := by
      rw [huri, Draft.trimSigns, String.toList_ofList]
      exact List.rdropWhile_prefix (· == '#') s.toList
    rw [ht] at hprefix
    have hhead : ∀ d : Draft, ∃ cs, d.uri.toList = 'h' :: cs := by
      intro d
      cases d <;> exact ⟨_, rfl⟩
    obtain ⟨cs, hcs⟩ := hhead d
    rw [hcs, List.cons_prefix_cons] at hprefix
    exact absurd hprefix.1 (by decide)
  · cases h

namespace Resources

variable {g g' : Gathering} {v w : Json}

/-- A schema without references wants no more than its draft. -/
theorem ownReferences_eq (h : v.get? "$ref" = none) :
    ownReferences v = ((v.get? "$schema").bind Json.asString?).toList := by
  rw [ownReferences, List.filterMap_cons, h]
  cases hschema : (v.get? "$schema").bind Json.asString? <;>
    simp [hschema]

/-- What is wanted by a schema is the same in gatherings that are alike. -/
theorem agree_collect_same (base : Uri) (fuel : Nat) (v : Json) (h : g.Alike g') :
    Agree Gathering.Alike (collect base fuel g v) (collect base fuel g' v) := by
  induction fuel generalizing g g' v with
  | zero => exact .ok h
  | succ fuel ih =>
    rw [collect, collect]
    split
    · exact .ok h
    · refine Agree.foldlM (List.forall₂_same.2 fun _ _ => rfl) ?_ h
      rintro a b reference _ hab rfl
      rw [hab.seen]
      split
      · exact .ok hab
      · have hseen : Gathering.Alike { a with seen := (base, reference) :: a.seen }
            { b with seen := (base, reference) :: a.seen } :=
          ⟨hab.known, hab.queue, hab.wanted, rfl⟩
        dsimp only
        split
        · split
          · exact ih _ hseen
          · exact .ok hseen
        · refine (Agree.refl (R := Eq) (fun _ => rfl) _).bind fun u _ heq => ?_
          subst heq
          exact .ok ⟨hab.known, hab.queue, by rw [hab.wanted], rfl⟩

theorem get?_ref_of_isFree {d : Draft} (h : d.IsFree v) : v.get? "$ref" = none := by
  cases v with
  | obj ms => exact h.get?_reference (Draft.mem_referenceKeywords d)
  | _ => rfl

/-- A schema that is free of references wants nothing, or what it names as its draft. -/
theorem agree_collect_rebased (base : Uri) (fuel : Nat) {d : Draft} (hfree : d.IsFree v)
    (hquiet : IsQuiet v) (hschema : Rebases v w) (h : g.Alike g') :
    Agree Gathering.Alike (collect base fuel g v) (collect base fuel g' w) := by
  cases fuel with
  | zero => exact .ok h
  | succ fuel =>
    have hv := get?_ref_of_isFree hfree
    have hw : w.get? "$ref" = none := by
      have hsome := hschema.isSome_get? "$ref"
      rw [hv] at hsome
      exact Option.not_isSome_iff_eq_none.1 (by rw [hsome]; decide)
    rw [collect, collect, ownReferences_eq hv, ownReferences_eq hw, hschema.text_eq (by decide)]
    split
    · exact .ok h
    · refine Agree.foldlM (T := fun x y => x = y ∧ x.startsWith "#" = false)
        (List.forall₂_same.2 fun s hs => ⟨rfl, hquiet s (Option.mem_toList.1 hs)⟩) ?_ h
      rintro a b reference _ hab ⟨rfl, hhash⟩
      rw [hab.seen]
      split
      · exact .ok hab
      · simp only [hhash, Bool.false_eq_true, if_false]
        refine (Agree.refl (R := Eq) (fun _ => rfl) _).bind fun u _ heq => ?_
        subst heq
        exact .ok ⟨hab.known, hab.queue, by rw [hab.wanted], rfl⟩

theorem agree_collectAll {r r' : Resource} (base : Uri) (hr : r.Alike r') (h : g.Alike g') :
    Agree Gathering.Alike (collectAll base g r.schema) (collectAll base g' r'.schema) := by
  rw [collectAll, collectAll, hr.depth_eq]
  cases hr with
  | same => exact agree_collect_same base _ _ h
  | rebased free quiet schema => exact agree_collect_rebased base _ free quiet schema h

/-! ## Visits -/

/-- A schema inside another one, before and after. -/
inductive AlikeIn (around : Draft) : Json → Json → Prop
  | same (v : Json) : AlikeIn around v v
  | rebased {v w : Json} (free : (around.draftIn v).IsFree v) (schema : Rebases v w) :
    AlikeIn around v w

/-- The draft that is found for a schema inside is found for it rebased. -/
theorem AlikeIn.agree_detected {around : Draft} (h : AlikeIn around v w) :
    Agree (fun d d' => d' = d ∧ Resource.Alike ⟨v, d⟩ ⟨w, d⟩) (detected around v)
      (detected around w) := by
  cases h with
  | same =>
    refine Agree.refl (R := fun d d' => d' = d ∧ Resource.Alike ⟨v, d⟩ ⟨v, d⟩) ?_ _
    exact fun d => ⟨rfl, .same _⟩
  | rebased free schema =>
    rw [detected, detected, schema.detect]
    cases hd : around.detect v with
    | error e => exact .error _ _
    | ok d =>
      have hdraft : around.draftIn v = d := by
        rw [Draft.draftIn, hd]
        rfl
      exact .ok ⟨rfl, .rebased (hdraft ▸ free) (isQuiet_of_detect hd) schema⟩

theorem agree_visitInside (base : Uri) {around : Draft} (hin : AlikeIn around v w)
    (h : g.Alike g') :
    Agree Gathering.Alike (visitInside base around g v) (visitInside base around g' w) := by
  rw [visitInside, visitInside]
  refine hin.agree_detected.bind ?_
  rintro d _ ⟨rfl, hr⟩
  dsimp only
  rw [hr.base_eq]
  refine (Agree.refl (R := Eq) (fun _ => rfl) _).bind ?_
  rintro inner _ rfl
  refine (agree_collectAll inner hr h).bind fun a b hab => ?_
  exact .ok ⟨hab.known, List.rel_append hab.queue (.cons ⟨rfl, hr⟩ .nil), hab.wanted, hab.seen⟩

theorem forall₂_inside {r r' : Resource} (h : r.Alike r') :
    List.Forall₂ (AlikeIn r.draft) (r.draft.inside r.schema) (r'.draft.inside r'.schema) := by
  cases h with
  | same => exact List.forall₂_same.2 fun x _ => .same x
  | @rebased v w d free quiet schema =>
    have hinside := (List.forall₂_and_left _ _).2
      ⟨fun x hx => free.looks (Draft.looks_of_mem_inside hx), d.forall₂_inside schema⟩
    exact hinside.imp fun x y h => .rebased h.1 h.2

theorem agree_visit {r r' : Resource} (around : Uri) (hr : r.Alike r') (h : g.Alike g') :
    Agree Gathering.Alike (visit g around r) (visit g' around r') := by
  rw [visit, visit, hr.base_eq]
  refine (Agree.refl (R := Eq) (fun _ => rfl) _).bind ?_
  rintro base _ rfl
  have hanchors : Gathering.Alike { g with known := withAnchors base r g.known }
      { g' with known := withAnchors base r' g'.known } := ⟨h.known, h.queue, h.wanted, h.seen⟩
  refine (agree_collectAll base hr hanchors).bind fun a b hab => ?_
  refine (Agree.foldlM (forall₂_inside hr) ?_ hab).bind fun a b hab => ?_
  · intro a b x y hab hxy
    rw [hr.draft_eq]
    exact agree_visitInside base hxy hab
  · rw [hr.name?_eq]
    split
    · exact .ok ⟨.cons ⟨rfl, hr.count_eq⟩ hab.known, hab.queue, hab.wanted, hab.seen⟩
    · exact .ok hab

/-- The document is taken in as it is. -/
theorem agree_takeIn (document : Json) (uri : Uri) (h : g.Alike g') :
    Agree Gathering.Alike (takeIn document g uri) (takeIn document g' uri) := by
  rw [takeIn, takeIn, h.known.any_name (· == uri.withoutFragment.write)]
  split
  · exact .ok h
  · split
    · refine (Agree.refl (R := Eq) (fun _ => rfl) _).bind ?_
      rintro d _ rfl
      have hknown : (withEntry uri.withoutFragment ⟨document, d⟩ g.known).Alike
          (withEntry uri.withoutFragment ⟨document, d⟩ g'.known) := .cons ⟨rfl, rfl⟩ h.known
      dsimp only
      split
      · refine (Agree.refl (R := Eq) (fun _ => rfl) _).bind ?_
        rintro d' _ rfl
        exact .ok ⟨hknown, List.rel_append h.queue
          (.cons ⟨rfl, .same _⟩ (.cons ⟨rfl, .same _⟩ .nil)), h.wanted, h.seen⟩
      · exact .ok ⟨hknown, List.rel_append h.queue (.cons ⟨rfl, .same _⟩ .nil), h.wanted, h.seen⟩
    · exact .error _ _

theorem agree_gatherFrom (document : Json) (fuel : Nat) (h : g.Alike g') :
    Agree Resources.Alike (gatherFrom document fuel g) (gatherFrom document fuel g') := by
  induction fuel generalizing g g' with
  | zero => exact .ok h.known
  | succ fuel ih =>
    obtain ⟨known, queue, wanted, seen⟩ := g
    obtain ⟨known', queue', wanted', seen'⟩ := g'
    obtain ⟨hknown, hqueue, hwanted, hseen⟩ := h
    dsimp only at hknown hqueue hwanted hseen
    subst hwanted hseen
    cases hqueue with
    | @cons q q' rest rest' hq hrest =>
      obtain ⟨base, r⟩ := q
      obtain ⟨base', r'⟩ := q'
      obtain ⟨hbase, hr⟩ := hq
      dsimp only at hbase hr
      subst hbase
      rw [gatherFrom_visit, gatherFrom_visit]
      have hleft : Gathering.Alike ⟨known, rest, wanted', seen'⟩ ⟨known', rest', wanted', seen'⟩ :=
        ⟨hknown, hrest, rfl, rfl⟩
      exact (agree_visit _ hr hleft).bind fun a b hab => ih hab
    | nil =>
      cases wanted' with
      | nil => exact .ok hknown
      | cons uri rest =>
        have hleft : Gathering.Alike ⟨known, [], rest, seen'⟩ ⟨known', [], rest, seen'⟩ :=
          ⟨hknown, .nil, rfl, rfl⟩
        rw [gatherFrom_takeIn, gatherFrom_takeIn]
        exact (agree_takeIn document uri hleft).bind fun a b hab => ih hab

/-- For a schema without references resources of the same size are gathered before and after. -/
theorem agree_gather (hfree : Draft.draft7.IsFree v) (hquiet : IsQuiet v) (hschema : Rebases v w)
    (document : Json) :
    Agree (fun r r' => r'.count = r.count) (gather v document) (gather w document) := by
  rw [gather, gather, hschema.nameOf, hschema.count]
  refine (Agree.refl (R := Eq) (fun _ => rfl) _).bind ?_
  rintro base _ rfl
  have hknown : (withEntry base ⟨v, .draft7⟩ standard).Alike
      (withEntry base ⟨w, .draft7⟩ standard) := .cons ⟨rfl, hschema.count⟩ (Alike.refl standard)
  have hstart : Gathering.Alike
      ⟨withEntry base ⟨v, .draft7⟩ standard, [(base, ⟨v, .draft7⟩)], [], []⟩
      ⟨withEntry base ⟨w, .draft7⟩ standard, [(base, ⟨w, .draft7⟩)], [], []⟩ :=
    ⟨hknown, .cons ⟨rfl, .rebased hfree hquiet hschema⟩ .nil, rfl, rfl⟩
  exact (agree_gatherFrom document _ hstart).mono fun r r' h => h.count_eq

end Resources
end MessageContract
