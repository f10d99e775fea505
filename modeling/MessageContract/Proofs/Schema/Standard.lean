import MessageContract.Proofs.Reference.Nesting
import MessageContract.Proofs.Uri.Scheme
import MessageContract.Schema.Compile

/-!
# The schemas of schemas among the resources

The schemas of schemas are gathered like all others. No schema in them names itself, so under the
name of the schema of schemas of Draft 7 stands that schema and nothing else
(`Resources.lookup_standard`).
-/

namespace MessageContract

/-! ## Schemas without names -/

mutual

/-- Nothing in a value names itself: no text stands under the keywords for names. -/
def Json.isNameless : Json → Bool
  | .obj ms => Members.isNameless ms
  | .arr items => Json.areNameless items
  | _ => true

def Members.isNameless : List (String × Json) → Bool
  | [] => true
  | (k, .str _) :: rest => !(["$id", "id"].contains k) && Members.isNameless rest
  | (_, v) :: rest => v.isNameless && Members.isNameless rest

def Json.areNameless : List Json → Bool
  | [] => true
  | v :: rest => v.isNameless && Json.areNameless rest

end

theorem Members.isNameless_of_mem {ms : Members} (h : Members.isNameless ms = true)
    {m : String × Json} (hm : m ∈ ms) : m.2.isNameless = true := by
  induction ms with
  | nil => cases hm
  | cons n ms ih =>
    obtain ⟨k, v⟩ := n
    rcases List.mem_cons.1 hm with rfl | hm
    · cases v with
      | obj ms => exact (Bool.and_eq_true_iff.1 h).1
      | arr items => exact (Bool.and_eq_true_iff.1 h).1
      | _ => rfl
    · refine ih ?_ hm
      cases v <;> exact (Bool.and_eq_true_iff.1 h).2

theorem Members.ne_str_of_isNameless {ms : Members} (h : Members.isNameless ms = true) {k : String}
    (hk : k ∈ ["$id", "id"]) (s : String) : (k, .str s) ∉ ms := by
  induction ms with
  | nil => simp
  | cons n ms ih =>
    obtain ⟨k', v⟩ := n
    rw [List.mem_cons]
    rintro (heq | hm)
    · obtain ⟨rfl, rfl⟩ := Prod.mk.inj heq
      have hne := (Bool.and_eq_true_iff.1 h).1
      rw [List.contains_iff_mem.2 hk] at hne
      cases hne
    · refine ih ?_ hm
      cases v <;> exact (Bool.and_eq_true_iff.1 h).2

theorem Json.areNameless_iff {items : List Json} :
    Json.areNameless items = true ↔ ∀ v ∈ items, v.isNameless = true := by
  induction items with
  | nil => simp [Json.areNameless]
  | cons v items ih => rw [Json.areNameless, Bool.and_eq_true, ih, List.forall_mem_cons]

theorem Json.isNameless_of_mem_children {v w : Json} (h : v.isNameless = true)
    (hw : w ∈ v.children) : w.isNameless = true := by
  cases v with
  | obj ms =>
    obtain ⟨m, hm, rfl⟩ := List.mem_map.1 hw
    exact Members.isNameless_of_mem h hm
  | arr items => exact Json.areNameless_iff.1 h w hw
  | _ => cases hw

namespace Draft

variable {d : Draft} {v x : Json} {k : String}

theorem name?_of_isNameless (h : v.isNameless = true) (d : Draft) : d.name? v = none := by
  have hname : d.nameText? v = none := by
    have hk : d.nameKeyword ∈ ["$id", "id"] := by cases d <;> decide
    cases v with
    | obj ms =>
      rw [nameText?, Option.bind_eq_none_iff]
      intro w hw
      cases w with
      | str s => exact absurd (Members.mem_of_get? hw) (Members.ne_str_of_isNameless h hk s)
      | _ => rfl
    | _ => rfl
  rw [name?, hname]
  simp only [Option.filter_none, ite_self, Option.map_none]

/-- The schemas under a keyword are its value, or stand right inside. -/
theorem eq_or_mem_children (h : x ∈ d.schemasUnder k v) : x = v ∨ x ∈ v.children := by
  have hlisted : x ∈ listed v → x ∈ v.children := by
    cases v with
    | arr items => exact id
    | _ => nofun
  have hvalues : x ∈ valuesOf v → x ∈ v.children := by
    cases v with
    | obj ms => exact id
    | _ => nofun
  unfold schemasUnder at h
  split at h
  · exact Or.inl (List.mem_singleton.1 h)
  split at h
  · exact Or.inr (hlisted h)
  split at h
  · exact Or.inr (hvalues h)
  split at h
  · split at h
    · exact Or.inr h
    · exact Or.inl (List.mem_singleton.1 h)
    · exact Or.inr (hvalues h)
  · cases h

theorem isNameless_of_mem_inside (hv : ∀ w ∈ v.children, w.isNameless = true)
    (h : x ∈ d.inside v) : x.isNameless = true := by
  cases v with
  | obj ms =>
    obtain ⟨m, hm, hx⟩ := List.mem_flatMap.1 h
    have hmember := hv m.2 (List.mem_map.2 ⟨m, hm, rfl⟩)
    rcases eq_or_mem_children hx with rfl | hx
    · exact hmember
    · exact Json.isNameless_of_mem_children hmember hx
  | _ => cases h

end Draft

/-! ## What is gathered -/

/-- The name of the schema of schemas of Draft 7. -/
def Uri.metaschema : Uri := ⟨some "http", some "json-schema.org", "/draft-07/schema", none, none⟩

/-- It is not the name of the document. -/
theorem documentUri_ne_metaschema : documentUri ≠ Uri.metaschema.write := by decide +kernel

theorem eq_null_of_pointer {pointer : String} {v : Json} (h : Json.null.pointer? pointer = some v) :
    v = .null := by
  obtain ⟨segments, -, h⟩ := Option.bind_eq_some_iff.1 h
  cases segments with
  | nil => exact (Option.some.inj h).symm
  | cons s rest => cases h

namespace Resources

open CompiledSchema (metaResource)

/-- Under the name of the schema of schemas stands that schema and nothing else. -/
structure IsStandard (r : Resources) : Prop where
  present : (Uri.metaschema.write, metaResource) ∈ r.entries
  unique : ∀ e ∈ r.entries, e.1 = Uri.metaschema.write → e.2 = metaResource

/-- A schema from a base gets no wrong name, and no schema inside gets one. -/
structure IsSound (base : Uri) (r : Resource) : Prop where
  name : ∀ u, (r.draft.name? r.schema).isSome = true → r.base base = .ok u →
    u.write = Uri.metaschema.write → r = metaResource
  inside : ∀ w ∈ r.schema.children, w.isNameless = true

theorem isSound_of_isNameless {v : Json} (h : v.isNameless = true) (base : Uri) (d : Draft) :
    IsSound base ⟨v, d⟩ where
  name u hsome := by
    rw [Draft.name?_of_isNameless h] at hsome
    cases hsome
  inside _ hw := Json.isNameless_of_mem_children h hw

/-- What is gathered from the schemas of schemas. -/
structure Gathering.IsStandard (g : Gathering) : Prop where
  known : g.known.IsStandard
  queue : ∀ q ∈ g.queue, IsSound q.1 q.2

theorem gatherFrom_visit (document : Json) (fuel : Nat) (known : Resources) (base : Uri)
    (r : Resource) (rest : List (Uri × Resource)) (wanted : List Uri) (seen : List (Uri × String)) :
    gatherFrom document (fuel + 1) ⟨known, (base, r) :: rest, wanted, seen⟩ =
      visit ⟨known, rest, wanted, seen⟩ base r >>= gatherFrom document fuel := by
  rw [gatherFrom]
  dsimp only
  cases visit ⟨known, rest, wanted, seen⟩ base r <;> rfl

theorem gatherFrom_takeIn (document : Json) (fuel : Nat) (known : Resources) (uri : Uri)
    (rest : List Uri) (seen : List (Uri × String)) :
    gatherFrom document (fuel + 1) ⟨known, [], uri :: rest, seen⟩ =
      takeIn document ⟨known, [], rest, seen⟩ uri >>= gatherFrom document fuel := by
  rw [gatherFrom]
  dsimp only
  cases takeIn document ⟨known, [], rest, seen⟩ uri <;> rfl

variable {g g' : Gathering}

theorem IsStandard.withEntry {r : Resources} (h : r.IsStandard) {base : Uri} {e : Resource}
    (he : base.write = Uri.metaschema.write → e = metaResource) :
    (withEntry base e r).IsStandard :=
  ⟨List.mem_cons_of_mem _ h.present, List.forall_mem_cons.2 ⟨he, h.unique⟩⟩

/-- Collecting references changes nothing but what is wanted. -/
theorem collect_eq (base : Uri) (fuel : Nat) {v : Json} (h : collect base fuel g v = .ok g') :
    g'.known = g.known ∧ g'.queue = g.queue := by
  induction fuel generalizing g g' v with
  | zero =>
    cases h
    exact ⟨rfl, rfl⟩
  | succ fuel ih =>
    rw [collect] at h
    split at h
    · cases h
      exact ⟨rfl, rfl⟩
    · refine foldlM_keeps (P := fun a => a.known = g.known ∧ a.queue = g.queue) ?_ ⟨rfl, rfl⟩ h
      intro reference _ a b ha hab
      split at hab
      · cases hab
        exact ha
      · dsimp only at hab
        split at hab
        · split at hab
          · obtain ⟨hknown, hqueue⟩ := ih hab
            exact ⟨hknown.trans ha.1, hqueue.trans ha.2⟩
          · cases hab
            exact ha
        · obtain ⟨u, -, hu⟩ := bind_eq_ok hab
          cases hu
          exact ha

namespace Gathering.IsStandard

theorem collectAll {base : Uri} {v : Json} (hg : g.IsStandard)
    (h : collectAll base g v = .ok g') : g'.IsStandard := by
  obtain ⟨hknown, hqueue⟩ := collect_eq base _ h
  exact ⟨hknown ▸ hg.known, hqueue ▸ hg.queue⟩

theorem visitInside {base : Uri} {around : Draft} {v : Json} (hg : g.IsStandard)
    (hv : v.isNameless = true) (h : visitInside base around g v = .ok g') : g'.IsStandard := by
  obtain ⟨d, -, h⟩ := bind_eq_ok h
  obtain ⟨inner, -, h⟩ := bind_eq_ok h
  obtain ⟨a, ha, h⟩ := bind_eq_ok h
  have hstandard := hg.collectAll ha
  cases h
  refine ⟨hstandard.known, List.forall_mem_append.2 ⟨hstandard.queue, ?_⟩⟩
  exact List.forall_mem_singleton.2 (isSound_of_isNameless hv base d)

theorem visit {around : Uri} {r : Resource} (hg : g.IsStandard) (hr : IsSound around r)
    (h : visit g around r = .ok g') : g'.IsStandard := by
  obtain ⟨base, hbase, h⟩ := bind_eq_ok h
  obtain ⟨a, ha, h⟩ := bind_eq_ok h
  obtain ⟨b, hb, h⟩ := bind_eq_ok h
  have hcollected : a.IsStandard := collectAll (g := { g with known := withAnchors base r g.known })
    ⟨⟨hg.known.present, hg.known.unique⟩, hg.queue⟩ ha
  have hinside : b.IsStandard := by
    refine foldlM_keeps (fun x hx a b ha hab => ?_) hcollected hb
    exact ha.visitInside (Draft.isNameless_of_mem_inside hr.inside hx) hab
  split at h
  · next hname =>
    cases h
    exact ⟨hinside.known.withEntry fun heq => hr.name base hname hbase heq, hinside.queue⟩
  · cases h
    exact hinside

/-- Beside the schemas of schemas there is no document but an empty one. -/
theorem takeIn {uri : Uri} (hg : g.IsStandard) (h : takeIn .null g uri = .ok g') :
    g'.IsStandard := by
  rw [Resources.takeIn] at h
  split at h
  · cases h
    exact hg
  split at h
  · next hdocument =>
    have hknown : (withEntry uri.withoutFragment ⟨.null, .draft7⟩ g.known).IsStandard := by
      refine hg.known.withEntry fun heq => ?_
      rw [beq_iff_eq.1 hdocument] at heq
      exact absurd heq documentUri_ne_metaschema
    have hqueue : ∀ qs : List (Uri × Resource), (∀ q ∈ qs, q.2.schema = .null) →
        ∀ q ∈ g.queue ++ qs, IsSound q.1 q.2 := by
      refine fun qs hqs => List.forall_mem_append.2 ⟨hg.queue, fun q hq => ?_⟩
      obtain ⟨base, v, d⟩ := q
      rw [show v = .null from hqs _ hq]
      exact isSound_of_isNameless rfl base d
    obtain ⟨d, hd, h⟩ := bind_eq_ok h
    cases hd
    dsimp only at h
    split at h
    · next v hv =>
      obtain ⟨fragment, -, hv⟩ := Option.bind_eq_some_iff.1 hv
      obtain ⟨d, -, h⟩ := bind_eq_ok h
      cases h
      exact ⟨hknown, hqueue _ (by simp [eq_null_of_pointer hv])⟩
    · cases h
      exact ⟨hknown, hqueue _ (by simp)⟩
  · cases h

theorem gatherFrom {fuel : Nat} {r : Resources} (hg : g.IsStandard)
    (h : gatherFrom .null fuel g = .ok r) : r.IsStandard := by
  induction fuel generalizing g with
  | zero =>
    cases h
    exact hg.known
  | succ fuel ih =>
    obtain ⟨known, queue, wanted, seen⟩ := g
    cases queue with
    | cons q rest =>
      obtain ⟨hq, hrest⟩ := List.forall_mem_cons.1 hg.queue
      rw [gatherFrom_visit] at h
      obtain ⟨a, ha, h⟩ := bind_eq_ok h
      have hleft : Gathering.IsStandard ⟨known, rest, wanted, seen⟩ := ⟨hg.known, hrest⟩
      exact ih (hleft.visit hq ha) h
    | nil =>
      cases wanted with
      | nil =>
        cases h
        exact hg.known
      | cons uri rest =>
        rw [gatherFrom_takeIn] at h
        obtain ⟨a, ha, h⟩ := bind_eq_ok h
        have hleft : Gathering.IsStandard ⟨known, [], rest, seen⟩ := ⟨hg.known, hg.queue⟩
        exact ih (hleft.takeIn ha) h

end Gathering.IsStandard

/-! ## The names of the schemas of schemas -/

/-- From no base does a text name the schema of schemas. -/
def NamesOther (text : String) : Prop :=
  ∀ base u, joined base text = .ok u → u.write ≠ Uri.metaschema.write

theorem namesOther_of_reference {text : String} {r : Uri} (hhash : text.startsWith "#" = false)
    (href : Uri.reference text = .ok r) (hscheme : r.scheme.isSome = true)
    (hother : ({ r with path := Uri.plainPath r.path } : Uri).normalize.write ≠
      Uri.metaschema.write) : NamesOther text := by
  intro base u hu
  rw [Uri.eq_of_join hhash href hscheme (mapError_eq_ok hu)]
  exact hother

/-- A text with the scheme `https` names another resource. -/
theorem namesOther_of_https {text : String} {rest : List Char}
    (htext : text.toList = 'h' :: ['t', 't', 'p', 's'] ++ ':' :: rest) : NamesOther text := by
  intro base u hu heq
  have hscheme : u.scheme = some "https" :=
    (Uri.scheme_of_join htext (by decide) (mapError_eq_ok hu)).trans (by decide +kernel)
  have htake : u.write.toList.take 5 = "https".toList := by
    simp only [Uri.write, hscheme, Option.map_some, Option.getD_some, String.toList_append,
      List.append_assoc]
    exact List.take_left' (by decide +kernel)
  rw [heq] at htake
  exact absurd htake (by decide +kernel)

/-- The number signs at the end are no part of a scheme. -/
theorem exists_trimSigns {s : String} {cs : List Char} {c : Char} (hc : (c == '#') = false)
    (h : (cs ++ [c]) <+: s.toList) : (cs ++ [c]) <+: (Draft.trimSigns s).toList := by
  obtain ⟨rest, hrest⟩ := h
  rw [Draft.trimSigns, String.toList_ofList, ← hrest, List.reverse_append, List.dropWhile_append]
  split
  · rw [List.reverse_append, List.reverse_singleton, List.singleton_append,
      List.dropWhile_cons_of_neg (by simp [hc])]
    simp
  · rw [List.reverse_append, List.reverse_reverse]
    exact List.prefix_append _ _

/-- The newer drafts name their schemas with the scheme `https`. -/
theorem name_of_https {d : Draft} {vs : List Json} (hd : d.isSince .draft2019 = true)
    (hall : (vs.all fun v => (d.nameText? v).any fun s =>
      "https:".toList.isPrefixOf s.toList) = true)
    {v : Json} (hv : v ∈ vs) : ∃ text, d.name? v = some text ∧ NamesOther text := by
  have hname := List.all_eq_true.1 hall v hv
  cases hs : d.nameText? v with
  | none =>
    rw [hs] at hname
    cases hname
  | some s =>
    rw [hs] at hname
    have hhead : "https:".toList = ['h', 't', 't', 'p', 's'] ++ [':'] := by decide +kernel
    have hprefix := List.isPrefixOf_iff_prefix.1 hname
    rw [hhead] at hprefix
    obtain ⟨rest, hrest⟩ := exists_trimSigns rfl hprefix
    have htext : (Draft.trimSigns s).toList = 'h' :: ['t', 't', 'p', 's'] ++ ':' :: rest := by
      rw [← hrest]
      simp
    refine ⟨Draft.trimSigns s, ?_, namesOther_of_https htext⟩
    rw [Draft.name?, if_pos hd, hs]
    rfl

theorem namesOther_draft4 : NamesOther "http://json-schema.org/draft-04/schema" :=
  namesOther_of_reference
    (r := ⟨some "http", some "json-schema.org", "/draft-04/schema", none, none⟩)
    (by decide +kernel) (by decide +kernel) rfl (by decide +kernel)

theorem namesOther_draft6 : NamesOther "http://json-schema.org/draft-06/schema" :=
  namesOther_of_reference
    (r := ⟨some "http", some "json-schema.org", "/draft-06/schema", none, none⟩)
    (by decide +kernel) (by decide +kernel) rfl (by decide +kernel)

theorem name_of_mem_all {p : Draft × Json} (hp : p ∈ Metaschema.all) :
    p = (.draft7, Metaschema.Draft7.schema) ∨
      ∃ text, p.1.name? p.2 = some text ∧ NamesOther text := by
  rw [Metaschema.all] at hp
  rcases List.mem_append.1 hp with hp | hp
  · rcases List.mem_append.1 hp with hp | hp
    · simp only [List.mem_cons, List.not_mem_nil, or_false] at hp
      rcases hp with rfl | rfl | rfl
      · exact Or.inr ⟨_, by decide +kernel, namesOther_draft4⟩
      · exact Or.inr ⟨_, by decide +kernel, namesOther_draft6⟩
      · exact Or.inl rfl
    · obtain ⟨v, hv, rfl⟩ := List.mem_map.1 hp
      exact Or.inr (name_of_https (d := .draft2019) (by decide) (by decide +kernel) hv)
  · obtain ⟨v, hv, rfl⟩ := List.mem_map.1 hp
    exact Or.inr (name_of_https (d := .draft2020) (by decide) (by decide +kernel) hv)

theorem isSound_of_mem_all {p : Draft × Json} (hp : p ∈ Metaschema.all) (base : Uri) :
    IsSound base ⟨p.2, p.1⟩ where
  name u _ hu heq := by
    rcases name_of_mem_all hp with rfl | ⟨text, htext, hother⟩
    · rfl
    · rw [Resource.base, htext] at hu
      exact absurd heq (hother base u hu)
  inside := by
    have hnameless : (Metaschema.all.all fun p => p.2.children.all Json.isNameless) = true := by
      decide +kernel
    exact List.all_eq_true.1 (List.all_eq_true.1 hnameless p hp)

/-! ## The result -/

/-- The schemas of schemas under their names. -/
def named : List (Uri × Resource) :=
  Metaschema.all.filterMap fun (draft, schema) =>
    let resource : Resource := ⟨schema, draft⟩
    ((resource.base .unnamed).toOption).map fun base => (base, resource)

theorem exists_of_mem_named {q : Uri × Resource} (hq : q ∈ named) :
    ∃ p ∈ Metaschema.all, q.2 = ⟨p.2, p.1⟩ ∧ q.2.base .unnamed = .ok q.1 := by
  obtain ⟨p, hp, hq⟩ := List.mem_filterMap.1 hq
  obtain ⟨base, hbase, rfl⟩ := Option.map_eq_some_iff.1 hq
  refine ⟨p, hp, rfl, ?_⟩
  dsimp only
  generalize Resource.base _ _ = x at hbase ⊢
  cases x with
  | error e => cases hbase
  | ok b => rw [Option.some.inj hbase]

theorem toOption_base_metaResource :
    (metaResource.base .unnamed).toOption = some Uri.metaschema := by
  decide +kernel

theorem mem_named : (Uri.metaschema, metaResource) ∈ named := by
  refine List.mem_filterMap.2 ⟨(.draft7, Metaschema.Draft7.schema), by simp [Metaschema.all], ?_⟩
  exact congrArg (Option.map fun base => (base, metaResource)) toOption_base_metaResource

theorem entries_foldl (qs : List (Uri × Resource)) (r : Resources) :
    (qs.foldl (fun r e => withEntry e.1 e.2 r) r).entries =
      (qs.map fun e => (e.1.write, e.2)).reverse ++ r.entries := by
  induction qs generalizing r with
  | nil => rfl
  | cons q qs ih =>
    rw [List.foldl_cons, ih, withEntry, List.map_cons, List.reverse_cons, List.append_assoc]
    rfl

/-- What is known when gathering starts. -/
def initial : Resources := named.foldl (fun r e => withEntry e.1 e.2 r) ⟨[], []⟩

theorem initial_isStandard : initial.IsStandard := by
  have hentries := entries_foldl named ⟨[], []⟩
  constructor
  · rw [initial, hentries, List.append_nil, List.mem_reverse]
    exact List.mem_map.2 ⟨_, mem_named, rfl⟩
  · intro e he heq
    rw [initial, hentries, List.append_nil, List.mem_reverse] at he
    obtain ⟨q, hq, rfl⟩ := List.mem_map.1 he
    obtain ⟨p, hp, hresource, hbase⟩ := exists_of_mem_named hq
    rcases name_of_mem_all hp with rfl | ⟨text, htext, hother⟩
    · exact hresource
    · rw [hresource, Resource.base, htext] at hbase
      exact absurd heq (hother .unnamed _ hbase)

theorem standard_isStandard : standard.IsStandard := by
  have hstart : Gathering.IsStandard ⟨initial, named, [], []⟩ := by
    refine ⟨initial_isStandard, fun q hq => ?_⟩
    obtain ⟨p, hp, hresource, -⟩ := exists_of_mem_named hq
    rw [hresource]
    exact isSound_of_mem_all hp q.1
  exact getD_toOption initial_isStandard fun r hr => hstart.gatherFrom hr

/-- Under the name of the schema of schemas of Draft 7 stands that schema. -/
theorem lookup_standard : standard.entries.lookup Uri.metaschema.write = some metaResource := by
  obtain ⟨hpresent, hunique⟩ := standard_isStandard
  generalize standard.entries = es at hpresent hunique
  induction es with
  | nil => cases hpresent
  | cons e es ih =>
    rw [List.forall_mem_cons] at hunique
    rw [List.lookup_cons]
    split
    · next heq => rw [hunique.1 (beq_iff_eq.1 heq).symm]
    · next hne =>
      rcases List.mem_cons.1 hpresent with rfl | hpresent
      · simp at hne
      · exact ih hpresent hunique.2

end Resources
end MessageContract
