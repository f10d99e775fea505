import MessageContract.Proofs.Json.Place
import MessageContract.Proofs.Reference.Stack

/-!
# Where findings are made

Inlining comes to its points along paths of names and indices (`Sources.Comes`), and what replaces a
reference stands at the path of the reference. So the findings of a walk are made at places of what
comes out of it, where the reference objects stand as they were (`Sources.Reports`, kept from parts to
wholes and from what a reference names to the reference). For the root document: each path leads to
the reference object that the finding is about, no path goes on behind another, and the paths come in
depth-first order (`Sources.reports_once`).
-/

namespace MessageContract
namespace Sources

variable (s : Sources)

/-- Inlining comes from the first point to the second along a path in what comes out. -/
inductive Comes : Point → List String → Point → Prop
  | here (p : Point) : Comes p [] p
  | member {p q : Point} {ms : Members} {m : String × Json} {path : List String}
      (value : p.value = .obj ms) (plain : p.value.reference? = none) (mem : m ∈ ms)
      (rest : Comes { p with value := m.2 } path q) : Comes p (m.1 :: path) q
  | item {p q : Point} {items : List Json} {i : Nat} {v : Json} {path : List String}
      (value : p.value = .arr items) (at_ : items[i]? = some v)
      (rest : Comes { p with value := v } path q) : Comes p (toString i :: path) q
  | enter {p p' q : Point} {path : List String} (entered : s.Enters p p')
      (rest : Comes p' path q) : Comes p path q

/-- What is told of the reference at a point, which a path leads to. -/
structure Report where
  path : List String
  point : Point
  message : String

/-- A report from a part, seen from the whole. -/
def Report.inside (name : String) (x : Report) : Report := { x with path := name :: x.path }

/-- The place of a report. -/
def Report.place (x : Report) : List String × Json := (x.path, x.point.value)

/-- The finding of a report that is made behind a path. -/
def Report.finding (path : List String) (x : Report) : Diagnostic :=
  Reference.finding s.location x.point.base (path ++ x.path) x.message

/-- Neither of two paths goes on behind the other. -/
def Apart (path path' : List String) : Prop := ¬ path <+: path' ∧ ¬ path' <+: path

/-- The reference at a point is refused, with a message. -/
def Refuses (p : Point) (message : String) : Prop :=
  ∃ r, p.value.reference? = some r ∧ s.encounter p.stack p.base r = .refused message

/-- Inlining comes from a point to the reference of a report, which it refuses. -/
def Tells (p : Point) (x : Report) : Prop :=
  s.Comes p x.path x.point ∧ s.Refuses x.point x.message

/-- The findings of a walk that starts at a point, in order, by their places in what comes out. -/
structure Reports (p : Point) (path : List String) (out : Inlined Json) (xs : List Report) :
    Prop where
  findings : out.findings = xs.map (Report.finding s path)
  places : (xs.map Report.place).Sublist out.value.places
  apart : xs.Pairwise fun x y => Apart x.path y.path
  mem_iff : ∀ x, x ∈ xs ↔ s.Tells p x
  /-- What comes out has distinct names. -/
  distinct : out.value.HasDistinctNames

variable {s}

/-! ## Coming to points -/

theorem Comes.meets {p q : Point} {path : List String} (h : s.Comes p path q) : s.Meets p q := by
  induction h with
  | here p => exact Meets.refl p
  | member hv hr hm _ ih =>
    apply ih.part hr
    rw [hv]
    exact List.mem_map.2 ⟨_, hm, rfl⟩
  | item hv hi _ ih =>
    apply ih.part
    · rw [hv]
      rfl
    · rw [hv]
      exact List.mem_of_getElem? hi
  | enter he _ ih => exact ih.enter he

theorem Refuses.not_plain {p : Point} {message : String} (h : s.Refuses p message) :
    p.value.reference? ≠ none := by
  obtain ⟨r, hr, _⟩ := h
  rw [hr]
  exact Option.some_ne_none r

theorem Refuses.not_enters {p q : Point} {message : String} (h : s.Refuses p message) :
    ¬ s.Enters p q := by
  rintro ⟨hr, ht, hfresh⟩
  obtain ⟨r, hr', hmet⟩ := h
  obtain rfl := Option.some.inj (hr.symm.trans hr')
  rw [encounter_of_enters ht hfresh] at hmet
  cases hmet

/-- At a reference that is not entered, a report is of this reference. -/
theorem tells_iff_of_not_enters {p : Point} (hr : p.value.reference? ≠ none)
    (hne : ∀ q, ¬ s.Enters p q) {x : Report} :
    s.Tells p x ↔ x.path = [] ∧ x.point = p ∧ s.Refuses p x.message := by
  obtain ⟨path, q, message⟩ := x
  constructor
  · rintro ⟨hcomes, hrefused⟩
    cases hcomes with
    | here => exact ⟨rfl, rfl, hrefused⟩
    | member _ hplain _ _ => exact absurd hplain hr
    | item hv _ _ =>
      rw [hv] at hr
      exact absurd rfl hr
    | enter he _ => exact absurd he (hne _)
  · rintro ⟨rfl, rfl, hrefused⟩
    exact ⟨.here _, hrefused⟩

/-- At a reference that is entered, a report is of what it names. -/
theorem tells_iff_of_enters {p q : Point} (he : s.Enters p q) {x : Report} :
    s.Tells p x ↔ s.Tells q x := by
  obtain ⟨path, q', message⟩ := x
  constructor
  · rintro ⟨hcomes, hrefused⟩
    cases hcomes with
    | here => exact absurd he hrefused.not_enters
    | member _ hplain _ _ => exact absurd hplain he.not_plain
    | item hv _ _ =>
      apply absurd _ he.not_plain
      rw [hv]
      rfl
    | enter he' hrest =>
      rw [he.unique he']
      exact ⟨hrest, hrefused⟩
  · rintro ⟨hcomes, hrefused⟩
    exact ⟨.enter he hcomes, hrefused⟩

/-- At an object that is not a reference, a report is of a member. -/
theorem tells_obj_iff {p : Point} {ms : Members} (hv : p.value = .obj ms)
    (hr : p.value.reference? = none) {x : Report} :
    s.Tells p x ↔
      ∃ m ∈ ms, ∃ y, s.Tells { p with value := m.2 } y ∧ x = y.inside m.1 := by
  constructor
  · obtain ⟨path, q, message⟩ := x
    rintro ⟨hcomes, hrefused⟩
    cases hcomes with
    | here => exact absurd hr hrefused.not_plain
    | @member _ _ ns m path hv' _ hm hrest =>
      obtain rfl := Json.obj.inj (hv.symm.trans hv')
      exact ⟨m, hm, ⟨path, q, message⟩, ⟨hrest, hrefused⟩, rfl⟩
    | item hv' _ _ => cases hv.symm.trans hv'
    | enter he _ => exact absurd hr he.not_plain
  · rintro ⟨m, hm, y, ⟨hcomes, hrefused⟩, rfl⟩
    exact ⟨.member hv hr hm hcomes, hrefused⟩

/-- At an array, a report is of an item. -/
theorem tells_arr_iff {p : Point} {items : List Json} (hv : p.value = .arr items) {x : Report} :
    s.Tells p x ↔ ∃ (i : Nat) (v : Json), items[i]? = some v ∧
      ∃ y, s.Tells { p with value := v } y ∧ x = y.inside (toString i) := by
  have hr : p.value.reference? = none := by
    rw [hv]
    rfl
  constructor
  · obtain ⟨path, q, message⟩ := x
    rintro ⟨hcomes, hrefused⟩
    cases hcomes with
    | here => exact absurd hr hrefused.not_plain
    | member hv' _ _ _ => cases hv.symm.trans hv'
    | @item _ _ xs i v path hv' hi hrest =>
      obtain rfl := Json.arr.inj (hv.symm.trans hv')
      exact ⟨i, v, hi, ⟨path, q, message⟩, ⟨hrest, hrefused⟩, rfl⟩
    | enter he _ => exact absurd hr he.not_plain
  · rintro ⟨i, v, hi, y, ⟨hcomes, hrefused⟩, rfl⟩
    exact ⟨.item hv hi hcomes, hrefused⟩

/-- In a value without parts no report is made. -/
theorem not_tells_of_leaf {p : Point} (hr : p.value.reference? = none)
    (hleaf : p.value.children = []) (x : Report) : ¬ s.Tells p x := by
  obtain ⟨path, q, message⟩ := x
  rintro ⟨hcomes, hrefused⟩
  cases hcomes with
  | here => exact hrefused.not_plain hr
  | @member _ _ ms m _ hv _ hm _ =>
    have hmem : m.2 ∈ p.value.children := by
      rw [hv]
      exact List.mem_map.2 ⟨m, hm, rfl⟩
    rw [hleaf] at hmem
    cases hmem
  | @item _ _ items i v _ hv hi _ =>
    have hmem : v ∈ p.value.children := by
      rw [hv]
      exact List.mem_of_getElem? hi
    rw [hleaf] at hmem
    cases hmem
  | enter he _ => exact he.not_plain hr

/-! ## Paths -/

theorem Apart.cons {path path' : List String} (h : Apart path path') (name : String) :
    Apart (name :: path) (name :: path') := by
  simpa [Apart, List.cons_prefix_cons] using h

theorem apart_of_ne {name name' : String} (h : name ≠ name') (path path' : List String) :
    Apart (name :: path) (name' :: path') := by
  simp [Apart, List.cons_prefix_cons, h, Ne.symm h]

@[simp]
theorem Report.finding_inside (path : List String) (name : String) (x : Report) :
    (x.inside name).finding s path = x.finding s (path ++ [name]) := by
  simp [Report.inside, Report.finding]

@[simp]
theorem Report.place_inside (name : String) (x : Report) :
    (x.inside name).place = Json.inside name x.place := rfl

/-- Reports from different parts are apart. -/
theorem pairwise_apart_append {name : String} {xs ys : List Report}
    (hxs : xs.Pairwise fun x y => Apart x.path y.path)
    (hys : ys.Pairwise fun x y => Apart x.path y.path)
    (hne : ∀ y ∈ ys, ∃ name' z, name ≠ name' ∧ y = Report.inside name' z) :
    (xs.map (Report.inside name) ++ ys).Pairwise fun x y => Apart x.path y.path := by
  rw [List.pairwise_append]
  refine ⟨?_, hys, ?_⟩
  · rw [List.pairwise_map]
    exact hxs.imp fun hxy => hxy.cons name
  · intro x hx y hy
    obtain ⟨x', _, rfl⟩ := List.mem_map.1 hx
    obtain ⟨name', z, hname, rfl⟩ := hne y hy
    exact apart_of_ne hname _ _

/-- Places of a part, seen from the whole. -/
theorem sublist_places_inside {name : String} {xs : List Report} {v : Json}
    (h : (xs.map Report.place).Sublist v.places) :
    ((xs.map (Report.inside name)).map Report.place).Sublist (v.places.map (Json.inside name)) := by
  have hmap := h.map (Json.inside name)
  rwa [List.map_map] at hmap ⊢

/-! ## Nothing, or one finding -/

theorem reports_nil {p : Point} {path : List String} {v : Json} (hnone : ∀ x, ¬ s.Tells p x)
    (hv : v.HasDistinctNames) : s.Reports p path ⟨v, []⟩ [] :=
  ⟨rfl, List.nil_sublist _, List.Pairwise.nil, by simpa using hnone, hv⟩

/-- A reference that is not entered, with nothing told of it. -/
theorem reports_of_not_refused {p : Point} {path : List String} {v : Json} {r : String}
    (hr : p.value.reference? = some r)
    (henters : ∀ t w, s.encounter p.stack p.base r ≠ .entered t w)
    (hrefused : ∀ message, s.encounter p.stack p.base r ≠ .refused message)
    (hv : v.HasDistinctNames) : s.Reports p path ⟨v, []⟩ [] := by
  refine reports_nil (fun x hx => ?_) hv
  have hplain : p.value.reference? ≠ none := by
    rw [hr]
    exact Option.some_ne_none r
  have hne : ∀ q, ¬ s.Enters p q := by
    rintro _ ⟨hr', ht, hfresh⟩
    obtain rfl := Option.some.inj (hr.symm.trans hr')
    exact henters _ _ (encounter_of_enters ht hfresh)
  obtain ⟨_, _, r', hr', hmet⟩ := (tells_iff_of_not_enters hplain hne).1 hx
  obtain rfl := Option.some.inj (hr.symm.trans hr')
  exact hrefused _ hmet

/-- A reference that is refused stays where it is. -/
theorem reports_refused {p : Point} {r message : String} (hr : p.value.reference? = some r)
    (hmet : s.encounter p.stack p.base r = .refused message) (hp : p.value.HasDistinctNames)
    (path : List String) :
    s.Reports p path (s.refuse p.base path p.value message) [⟨[], p, message⟩] where
  findings := by simp [refuse, Report.finding]
  places := Json.singleton_sublist_places p.value
  apart := List.pairwise_singleton _ _
  mem_iff := by
    have hrefused : s.Refuses p message := ⟨r, hr, hmet⟩
    intro x
    rw [tells_iff_of_not_enters hrefused.not_plain fun _ => hrefused.not_enters, List.mem_singleton]
    constructor
    · rintro rfl
      exact ⟨rfl, rfl, hrefused⟩
    · obtain ⟨path, q, message'⟩ := x
      rintro ⟨rfl, rfl, r', hr', hmet'⟩
      obtain rfl := Option.some.inj (hr.symm.trans hr')
      obtain rfl := Encounter.refused.inj (hmet.symm.trans hmet')
      rfl
  distinct := hp

/-- What a reference gives way to is reported from the reference. -/
theorem Reports.enter {p q : Point} {path : List String} {out : Inlined Json} {xs : List Report}
    (h : s.Reports q path out xs) (he : s.Enters p q) : s.Reports p path out xs where
  findings := h.findings
  places := h.places
  apart := h.apart
  mem_iff x := by rw [tells_iff_of_enters he, h.mem_iff]
  distinct := h.distinct

/-! ## Parts -/

/-- Reports of members, each behind the name of its member. -/
theorem exists_reports_members {f : Follow} {p : Point} {ms : Members} {path : List String}
    (hnames : (ms.map (·.1)).Nodup)
    (hms : ∀ m ∈ ms, ∃ xs, s.Reports { p with value := m.2 } (path ++ [m.1])
      (walk f (path ++ [m.1]) m.2) xs) :
    ∃ xs : List Report, (walkMembers f path ms).findings = xs.map (Report.finding s path) ∧
      (xs.map Report.place).Sublist (Json.placesOfMembers (walkMembers f path ms).value) ∧
      xs.Pairwise (fun x y => Apart x.path y.path) ∧
      (∀ x, x ∈ xs ↔ ∃ m ∈ ms, ∃ y, s.Tells { p with value := m.2 } y ∧ x = y.inside m.1) ∧
      ∀ m ∈ (walkMembers f path ms).value, m.2.HasDistinctNames := by
  induction ms with
  | nil => exact ⟨[], rfl, List.Sublist.refl _, List.Pairwise.nil, by simp, by simp [walkMembers]⟩
  | cons m ms ih =>
    obtain ⟨k, v⟩ := m
    obtain ⟨⟨xs, hxs⟩, hrest⟩ := List.forall_mem_cons.1 hms
    rw [List.map_cons, List.nodup_cons] at hnames
    obtain ⟨ys, hfindings, hplaces, hapart, hys, hdistinct⟩ := ih hnames.2 hrest
    refine ⟨xs.map (Report.inside k) ++ ys, ?_, ?_, ?_, ?_, ?_⟩
    · simp only [walkMembers, hfindings, hxs.findings, List.map_append, List.map_map,
        Function.comp_def, Report.finding_inside]
    · rw [walkMembers, Json.placesOfMembers, List.map_append]
      exact (sublist_places_inside hxs.places).append hplaces
    · refine pairwise_apart_append hxs.apart hapart fun y hy => ?_
      obtain ⟨m, hm, z, _, rfl⟩ := (hys y).1 hy
      refine ⟨m.1, z, ?_, rfl⟩
      rintro rfl
      exact hnames.1 (List.mem_map.2 ⟨m, hm, rfl⟩)
    · intro x
      simp only [List.mem_append, List.mem_map, hys, hxs.mem_iff, List.exists_mem_cons_iff,
        eq_comm (a := x)]
    · rw [walkMembers]
      exact List.forall_mem_cons.2 ⟨hxs.distinct, hdistinct⟩

/-- Reports of items, each behind the index of its item. -/
theorem exists_reports_items {f : Follow} {p : Point} {items : List Json}
    (hitems : ∀ v ∈ items, ∀ path, ∃ xs, s.Reports { p with value := v } path (walk f path v) xs)
    (path : List String) (index : Nat) :
    ∃ xs : List Report, (walkItems f path index items).findings = xs.map (Report.finding s path) ∧
      (xs.map Report.place).Sublist
        (Json.placesOfItems index (walkItems f path index items).value) ∧
      xs.Pairwise (fun x y => Apart x.path y.path) ∧
      (∀ x, x ∈ xs ↔ ∃ i v, items[i]? = some v ∧
        ∃ y, s.Tells { p with value := v } y ∧ x = y.inside (toString (index + i))) ∧
      ∀ v ∈ (walkItems f path index items).value, v.HasDistinctNames := by
  induction items generalizing index with
  | nil => exact ⟨[], rfl, List.Sublist.refl _, List.Pairwise.nil, by simp, by simp [walkItems]⟩
  | cons v items ih =>
    obtain ⟨hfirst, hrest⟩ := List.forall_mem_cons.1 hitems
    obtain ⟨xs, hxs⟩ := hfirst (path ++ [toString index])
    obtain ⟨ys, hfindings, hplaces, hapart, hys, hdistinct⟩ := ih hrest (index + 1)
    refine ⟨xs.map (Report.inside (toString index)) ++ ys, ?_, ?_, ?_, ?_, ?_⟩
    · simp only [walkItems, hfindings, hxs.findings, List.map_append, List.map_map,
        Function.comp_def, Report.finding_inside]
    · rw [walkItems, Json.placesOfItems, List.map_append]
      exact (sublist_places_inside hxs.places).append hplaces
    · refine pairwise_apart_append hxs.apart hapart fun y hy => ?_
      obtain ⟨i, w, _, z, _, rfl⟩ := (hys y).1 hy
      refine ⟨toString (index + 1 + i), z, fun htext => ?_, rfl⟩
      have hindex := congrArg (fun t : String => Pointer.index? t.toList) htext
      simp only [Pointer.index?_toString, Option.some.injEq] at hindex
      omega
    · intro x
      rw [List.mem_append, List.mem_map, hys]
      constructor
      · rintro (⟨y, hy, rfl⟩ | ⟨i, w, hw, y, hy, rfl⟩)
        · exact ⟨0, v, rfl, y, (hxs.mem_iff y).1 hy, rfl⟩
        · refine ⟨i + 1, w, hw, y, hy, ?_⟩
          rw [Nat.add_right_comm, Nat.add_assoc]
      · rintro ⟨i, w, hw, y, hy, rfl⟩
        cases i with
        | zero =>
          obtain rfl := Option.some.inj hw
          exact Or.inl ⟨y, (hxs.mem_iff y).2 hy, rfl⟩
        | succ i =>
          refine Or.inr ⟨i, w, hw, y, hy, ?_⟩
          rw [Nat.add_right_comm, Nat.add_assoc]
    · rw [walkItems]
      exact List.forall_mem_cons.2 ⟨hxs.distinct, hdistinct⟩

/-- Inlining keeps the names of members. -/
theorem walkMembers_names (f : Follow) (path : List String) (ms : Members) :
    (walkMembers f path ms).value.map (·.1) = ms.map (·.1) := by
  induction ms with
  | nil => rfl
  | cons m ms ih =>
    rw [walkMembers, List.map_cons, List.map_cons, ih]

/-- The findings of a walk by their places. By induction on the fuel, which is enough at a sound
point, and on the value. -/
theorem exists_reports (hs : ∀ d ∈ s.documents, d.2.HasDistinctNames) {fuel : Nat} {p : Point}
    (hp : s.Sound p) (hdistinct : p.value.HasDistinctNames)
    (hfuel : s.bound ≤ fuel + p.stack.length) (path : List String) :
    ∃ xs, s.Reports p path (walk (s.follow fuel p.stack p.base) path p.value) xs := by
  induction fuel using Nat.strongRecOn generalizing p path with
  | _ fuel ihFuel =>
    obtain ⟨stack, base, v⟩ := p
    induction v using Json.children_induction generalizing path with
    | _ v ih =>
      cases hr : v.reference? with
      | some r =>
        obtain ⟨ms, rfl⟩ := reference?_obj hr
        rw [walk_reference hr, follow_eq]
        cases hmet : s.encounter stack base r with
        | unfound =>
          exact ⟨[], reports_of_not_refused hr (by simp [hmet]) (by simp [hmet]) hdistinct⟩
        | refused message =>
          exact ⟨_, reports_refused (p := ⟨stack, base, .obj ms⟩) hr hmet hdistinct path⟩
        | kept pointer =>
          exact ⟨[], reports_of_not_refused hr (by simp [hmet]) (by simp [hmet])
            (hdistinct.insert "$ref" (.leaf rfl (by simp)))⟩
        | entered t w =>
          have he := enters_of_encounter (p := ⟨stack, base, .obj ms⟩) hr hmet
          obtain ⟨n, rfl, hn⟩ := hp.fuel he hfuel
          have hentered : w.HasDistinctNames := by
            obtain ⟨_, ht, _⟩ := he
            obtain ⟨d, hd, _, hw⟩ := target?_mem ht
            exact (hs d hd).holds (Json.holds_of_pointer hw)
          obtain ⟨xs, hxs⟩ := ihFuel n (Nat.lt_succ_self n) (he.sound hp) hentered hn path
          exact ⟨xs, hxs.enter he⟩
      | none =>
        have hparts : ∀ w ∈ v.children, ∀ path, ∃ xs, s.Reports ⟨stack, base, w⟩ path
            (walk (s.follow fuel stack base) path w) xs :=
          fun w hw path => ih w hw path ((Step.part hr hw).sound hp) (hdistinct.child hw) hfuel
        cases v with
        | obj ms =>
          have hmembers : ∀ m ∈ ms, ∃ xs, s.Reports ⟨stack, base, m.2⟩ (path ++ [m.1])
              (walk (s.follow fuel stack base) (path ++ [m.1]) m.2) xs :=
            fun m hm => hparts m.2 (List.mem_map.2 ⟨m, hm, rfl⟩) _
          obtain ⟨xs, hfindings, hplaces, hapart, hmem, hout⟩ :=
            exists_reports_members (p := ⟨stack, base, .obj ms⟩) hdistinct.nodup hmembers
          rw [walk, hr]
          refine ⟨xs, hfindings, hplaces.cons _, hapart, fun x => ?_, ?_⟩
          · rw [hmem, tells_obj_iff rfl hr]
          · exact .obj (walkMembers_names _ path ms ▸ hdistinct.nodup) hout
        | arr items =>
          have hitems : ∀ v ∈ items, ∀ path, ∃ xs, s.Reports ⟨stack, base, v⟩ path
              (walk (s.follow fuel stack base) path v) xs := hparts
          obtain ⟨xs, hfindings, hplaces, hapart, hmem, hout⟩ :=
            exists_reports_items (p := ⟨stack, base, .arr items⟩) hitems path 0
          rw [walk]
          refine ⟨xs, hfindings, hplaces.cons _, hapart, fun x => ?_, .arr hout⟩
          simp only [hmem, tells_arr_iff (p := ⟨stack, base, .arr items⟩) rfl, Nat.zero_add]
        | _ => exact ⟨[], reports_nil (not_tells_of_leaf rfl rfl) hdistinct⟩

/-! ## The root document -/

/-- What is told of a reference is told at its place. -/
def Report.told (s : Sources) (x : Report) : Diagnostic :=
  Reference.finding s.location x.point.base x.path x.message

/-- Every reference that inlining comes to and refuses is told of once, at its place in what comes
out. -/
structure ReportsOnce (s : Sources) : Prop where
  /-- The path of a finding leads to the reference object that it is about, as it was. -/
  leads : ∀ d ∈ s.inline.findings, ∃ x, s.Tells s.start x ∧ d = x.told s ∧
    s.inline.value.at? d.path = some x.point.value
  told : ∀ x, s.Tells s.start x → x.told s ∈ s.inline.findings
  distinct : (s.inline.findings.map Diagnostic.path).Nodup
  /-- No path goes on behind another. -/
  apart : s.inline.findings.Pairwise fun d d' => Apart d.path d'.path
  /-- The paths come in depth-first order. -/
  ordered : (s.inline.findings.map Diagnostic.path).Sublist (s.inline.value.places.map (·.1))
  /-- In that order each place comes once. -/
  places : (s.inline.value.places.map (·.1)).Nodup

variable (s) in
/-- What inlining finds in the root document by its places in what comes out. -/
theorem exists_reports_inline (hs : ∀ d ∈ s.documents, d.2.HasDistinctNames) :
    ∃ xs, s.Reports s.start [] s.inline xs :=
  exists_reports hs (sound_start s) (hs _ List.mem_cons_self) (Nat.le_add_right s.bound 0) []

theorem Reports.findings_eq {xs : List Report} (h : s.Reports s.start [] s.inline xs) :
    s.inline.findings = xs.map (Report.told s) := h.findings

theorem reports_once (hs : ∀ d ∈ s.documents, d.2.HasDistinctNames) : s.ReportsOnce := by
  obtain ⟨xs, hxs⟩ := exists_reports_inline s hs
  have hpaths : s.inline.findings.map Diagnostic.path = xs.map Report.path := by
    rw [hxs.findings_eq, List.map_map]
    rfl
  have hordered : (xs.map Report.path).Sublist (s.inline.value.places.map (·.1)) := by
    have hmap := hxs.places.map (·.1)
    rwa [List.map_map] at hmap
  have hplaces := Json.nodup_places hxs.distinct
  refine ⟨fun d hd => ?_, fun x hx => ?_, ?_, ?_, ?_, hplaces⟩
  · rw [hxs.findings_eq] at hd
    obtain ⟨x, hx, rfl⟩ := List.mem_map.1 hd
    have hplace : x.place ∈ s.inline.value.places := hxs.places.subset (List.mem_map_of_mem hx)
    exact ⟨x, (hxs.mem_iff x).1 hx, rfl, Json.at?_of_mem_places hxs.distinct hplace⟩
  · rw [hxs.findings_eq]
    exact List.mem_map_of_mem ((hxs.mem_iff x).2 hx)
  · rw [hpaths]
    exact hplaces.sublist hordered
  · rw [hxs.findings_eq, List.pairwise_map]
    exact hxs.apart
  · rwa [hpaths]

/-- Broken references in the root document and in another one, which the root document comes to
twice, once over a reference of its own. -/
def brokenTypes : Sources where
  root := .obj [("first", .obj [("$ref", .str "types.json#/user")]),
    ("all", .arr [.obj [("$ref", .str "#/gone")], .obj [("$ref", .str "#/first")]])]
  location := .file (.ofString "/specs/asyncapi.json")
  store := [(.file (.ofString "/specs/types.json"),
    .obj [("user", .obj [("id", .obj [("$ref", .str "#/id")])])])]

theorem reports_once_brokenTypes : (∀ d ∈ brokenTypes.documents, d.2.HasDistinctNames) ∧
    brokenTypes.ReportsOnce ∧ brokenTypes.inline.findings.map Diagnostic.path =
      [["first", "id"], ["all", "0"], ["all", "1", "id"]] := by
  have hroot : brokenTypes.root.HasDistinctNames :=
    Json.hasDistinctNames_of_parts (by decide +kernel)
  have htypes : ∀ d ∈ brokenTypes.store, d.2.HasDistinctNames := by
    rintro d (_ | ⟨_, ⟨⟩⟩)
    exact Json.hasDistinctNames_of_parts (by decide +kernel)
  have hdocuments : ∀ d ∈ brokenTypes.documents, d.2.HasDistinctNames :=
    List.forall_mem_cons.2 ⟨hroot, htypes⟩
  exact ⟨hdocuments, reports_once hdocuments, by decide +kernel⟩

end Sources
end MessageContract
