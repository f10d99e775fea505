import MessageContract.Proofs.DistinctNames
import MessageContract.Proofs.Yaml.DistinctKeys
import MessageContract.Proofs.Yaml.KeyText
import MessageContract.Proofs.Yaml.Refusal

/-!
# Entries of mappings

Each entry of a mapping is meant to become one member, in order (`Yaml.Keeps`). A key is put as text,
and a member takes the place of an earlier one of its name, so nothing is lost exactly where the texts
of the keys are distinct (`Yaml.keeps_iff_keysApart`). Keys that are distinct can share a text in one
way only: a string spells a number or a boolean (`Yaml.keysApart_iff`).
-/

namespace MessageContract.Yaml

/-! ## Keeping everything -/

mutual

/-- The second value has all that the first one holds, but for tags: items and entries one by one. -/
inductive Keeps : Yaml → Json → Prop
  | null : Keeps .null .null
  | bool (b : Bool) : Keeps (.bool b) (.bool b)
  | int (n : Int) : Keeps (.int n) (.int n)
  | double {d : Double} (finite : d.isFinite = true) : Keeps (.double d) (.num (.double d))
  | str (s : String) : Keeps (.str s) (.str s)
  | seq {items : List Yaml} {vs : List Json} (items_ : KeepsItems items vs) :
      Keeps (.seq items) (.arr vs)
  | map {entries : List (Yaml × Yaml)} {ms : Members} (entries_ : KeepsEntries entries ms) :
      Keeps (.map entries) (.obj ms)
  | tagged {tag : String} {y : Yaml} {v : Json} (value : Keeps y v) : Keeps (.tagged tag y) v

inductive KeepsItems : List Yaml → List Json → Prop
  | nil : KeepsItems [] []
  | cons {y : Yaml} {v : Json} {items : List Yaml} {vs : List Json} (item : Keeps y v)
      (rest : KeepsItems items vs) : KeepsItems (y :: items) (v :: vs)

/-- Each entry is a member, with the text of its key as name. -/
inductive KeepsEntries : List (Yaml × Yaml) → Members → Prop
  | nil : KeepsEntries [] []
  | cons {k y : Yaml} {name : String} {v : Json} {entries : List (Yaml × Yaml)} {ms : Members}
      (key : keyText? k = some name) (value : Keeps y v) (rest : KeepsEntries entries ms) :
      KeepsEntries ((k, y) :: entries) ((name, v) :: ms)

end

/-! ## Texts of keys -/

/-- The texts of the keys of a mapping. -/
def keyTexts (entries : List (Yaml × Yaml)) : List (Option String) :=
  entries.map fun e => keyText? e.1

/-- In each mapping of a value the texts of the keys are distinct. -/
def KeysApart (y : Yaml) : Prop := y.EachMapping fun entries => (keyTexts entries).Nodup

/-! ## Conversion -/

mutual

/-- Where texts of keys are distinct, conversion keeps everything. -/
theorem keeps_of_toJsonAt (path : List String) : ∀ (y : Yaml) {v : Json},
    toJsonAt path y = .ok v → y.KeysApart → Keeps y v
  | .null, _, h, _ => by
    rw [← Except.ok.inj h]
    exact .null
  | .bool b, _, h, _ => by
    rw [← Except.ok.inj h]
    exact .bool b
  | .int n, _, h, _ => by
    rw [← Except.ok.inj h]
    exact .int n
  | .str s, _, h, _ => by
    rw [← Except.ok.inj h]
    exact .str s
  | .double d, _, h, _ => by
    rw [toJsonAt] at h
    split at h
    · next hfinite =>
      rw [← Except.ok.inj h]
      exact .double hfinite
    · cases h
  | .seq items, _, h, hapart => by
    rw [toJsonAt] at h
    obtain ⟨vs, hvs, rfl⟩ := map_eq_ok h
    exact .seq (keeps_of_toJsonItems path 0 items hvs fun y hy => hapart.child hy)
  | .map entries, _, h, hapart => by
    rw [toJsonAt] at h
    obtain ⟨ms, hms, rfl⟩ := map_eq_ok h
    obtain ⟨ns, rfl, hns⟩ := keeps_of_toJsonEntries path [] entries hms hapart.here
      fun e he => hapart.value he
    exact .map hns
  | .tagged _ y, _, h, hapart => by
    rw [toJsonAt] at h
    exact .tagged (keeps_of_toJsonAt path y h (hapart.child (List.mem_singleton_self y)))

theorem keeps_of_toJsonItems (path : List String) (index : Nat) : ∀ (items : List Yaml)
    {vs : List Json}, toJsonItems path index items = .ok vs → (∀ y ∈ items, y.KeysApart) →
    KeepsItems items vs
  | [], _, h, _ => by
    rw [← Except.ok.inj h]
    exact .nil
  | y :: items, _, h, hapart => by
    obtain ⟨hy, hitems⟩ := List.forall_mem_cons.1 hapart
    rw [toJsonItems] at h
    split at h
    · cases h
    · next v hv =>
      obtain ⟨vs, hvs, rfl⟩ := map_eq_ok h
      exact .cons (keeps_of_toJsonAt _ y hv hy) (keeps_of_toJsonItems path _ items hvs hitems)

/-- New members come behind those that are there. -/
theorem keeps_of_toJsonEntries (path : List String) (acc : Members) :
    ∀ (entries : List (Yaml × Yaml)) {ms : Members}, toJsonEntries path acc entries = .ok ms →
    (acc.map (fun m => some m.1) ++ keyTexts entries).Nodup → (∀ e ∈ entries, e.2.KeysApart) →
    ∃ ns, ms = acc ++ ns ∧ KeepsEntries entries ns
  | [], _, h, _, _ => by
    rw [← Except.ok.inj h]
    exact ⟨[], (List.append_nil acc).symm, .nil⟩
  | (k, y) :: entries, _, h, hnodup, hapart => by
    obtain ⟨hy, hentries⟩ := List.forall_mem_cons.1 hapart
    rw [toJsonEntries] at h
    split at h
    · cases h
    · next name hname =>
      split at h
      · cases h
      · next v hv =>
        have htexts : keyTexts ((k, y) :: entries) = [some name] ++ keyTexts entries := by
          simp [keyTexts, hname]
        rw [htexts, ← List.append_assoc] at hnodup
        have hfresh : name ∉ acc.map (·.1) := by
          intro hmem
          obtain ⟨m, hm, rfl⟩ := List.mem_map.1 hmem
          have hfirst := (List.nodup_append.1 hnodup).1
          exact (List.nodup_append.1 hfirst).2.2 (some m.1) (List.mem_map.2 ⟨m, hm, rfl⟩)
            (some m.1) (List.mem_singleton_self _) rfl
        rw [Members.insert_of_fresh hfresh] at h
        obtain ⟨ns, rfl, hns⟩ := keeps_of_toJsonEntries path (acc ++ [(name, v)]) entries h
          (by simpa using hnodup) hentries
        exact ⟨(name, v) :: ns, by rw [List.append_assoc, List.singleton_append],
          .cons hname (keeps_of_toJsonAt _ y hv hy) hns⟩

end

/-! ## Nothing is lost -/

theorem KeepsEntries.keyTexts_eq {entries : List (Yaml × Yaml)} {ms : Members}
    (h : KeepsEntries entries ms) : keyTexts entries = ms.map fun m => some m.1 := by
  match h with
  | .nil => rfl
  | .cons key _ rest =>
    rw [keyTexts, List.map_cons, key, List.map_cons]
    exact congrArg _ rest.keyTexts_eq

mutual

/-- What is kept in members with distinct names came from keys with distinct texts. -/
theorem Keeps.keysApart {y : Yaml} {v : Json} (h : Keeps y v) (hv : v.HasDistinctNames) :
    y.KeysApart := by
  match h with
  | .null | .bool _ | .int _ | .double _ | .str _ =>
    exact .leaf rfl (by simp)
  | .seq items => exact .seq (items.keysApart fun v hmem => hv.child hmem)
  | .map entries =>
    refine .map ?_ (entries.keysApart fun m hm => hv.member hm)
    rw [entries.keyTexts_eq]
    have hnames := hv.nodup.map (Option.some_injective String)
    rwa [List.map_map] at hnames
  | .tagged value => exact .tagged (value.keysApart hv)

theorem KeepsItems.keysApart {items : List Yaml} {vs : List Json} (h : KeepsItems items vs)
    (hvs : ∀ v ∈ vs, v.HasDistinctNames) : ∀ y ∈ items, y.KeysApart := by
  match h with
  | .nil => simp
  | .cons item rest =>
    obtain ⟨hv, hvs⟩ := List.forall_mem_cons.1 hvs
    exact List.forall_mem_cons.2 ⟨item.keysApart hv, rest.keysApart hvs⟩

theorem KeepsEntries.keysApart {entries : List (Yaml × Yaml)} {ms : Members}
    (h : KeepsEntries entries ms) (hms : ∀ m ∈ ms, m.2.HasDistinctNames) :
    ∀ e ∈ entries, e.2.KeysApart := by
  match h with
  | .nil => simp
  | .cons _ value rest =>
    obtain ⟨hv, hms⟩ := List.forall_mem_cons.1 hms
    exact List.forall_mem_cons.2 ⟨value.keysApart hv, rest.keysApart hms⟩

end

/-- Conversion keeps everything exactly where the texts of keys are distinct. -/
theorem keeps_iff_keysApart {y : Yaml} {v : Json} (h : toJson y = .ok v) :
    Keeps y v ↔ y.KeysApart := by
  constructor
  · exact fun hkeeps => hkeeps.keysApart (toJsonAt_hasDistinctNames [] y h)
  · exact keeps_of_toJsonAt [] y h

/-! ## Strings that spell other keys -/

/-- In some mapping a key is a string that spells another key, a number or a boolean. -/
def Clashes (y : Yaml) : Prop :=
  ∃ entries, y.Holds (.map entries) ∧ ∃ e ∈ entries, ∃ e' ∈ entries, ∃ s,
    e.1 = .str s ∧ e'.1.isText = false ∧ keyText? e'.1 = some s

theorem eq_str_of_isText {k : Yaml} {t : String} (hk : k.isText = true)
    (h : keyText? k = some t) : k = .str t := by
  cases k with
  | str s => exact congrArg _ (Option.some.inj h)
  | null | bool _ | int _ | double _ | seq _ | map _ | tagged _ _ => cases hk

/-- A key that is no scalar offends. -/
theorem exists_offends {y : Yaml} {entries : List (Yaml × Yaml)} (h : y.Holds (.map entries))
    {e : Yaml × Yaml} (he : e ∈ entries) (hkey : e.1.isScalar = false) :
    ∃ position names, Offends y position names .keyNotScalar := by
  induction h using Relation.ReflTransGen.head_induction_on with
  | refl =>
    obtain ⟨i, hi⟩ := List.mem_iff_getElem?.1 he
    exact ⟨_, _, .key hi hkey⟩
  | @head y z hz _ ih =>
    obtain ⟨position, names, hoffends⟩ := ih
    cases y with
    | seq items =>
      obtain ⟨i, hi⟩ := List.mem_iff_getElem?.1 hz
      exact ⟨_, _, .item hi hoffends⟩
    | map entries =>
      obtain ⟨⟨k, v⟩, hmem, rfl⟩ := List.mem_map.1 hz
      obtain ⟨i, hi⟩ := List.mem_iff_getElem?.1 hmem
      exact ⟨_, _, .value hi hoffends⟩
    | tagged tag y =>
      obtain rfl := List.mem_singleton.1 hz
      exact ⟨_, _, .tagged hoffends⟩
    | null | bool _ | int _ | double _ | str _ => cases hz

/-- Where conversion succeeds, all keys are scalars. -/
theorem exists_keyText {y : Yaml} {v : Json} (h : toJson y = .ok v)
    {entries : List (Yaml × Yaml)} (hentries : y.Holds (.map entries)) {e : Yaml × Yaml}
    (he : e ∈ entries) : ∃ t, keyText? e.1 = some t := by
  rw [← Option.isSome_iff_exists, isSome_keyText?, ← Bool.not_eq_false]
  intro hkey
  obtain ⟨position, names, hoffends⟩ := exists_offends hentries he hkey
  have hsettles := toJsonAt_settles [] y
  rw [show toJsonAt [] y = .ok v from h] at hsettles
  exact hsettles _ _ _ hoffends

/-- Keys that are not one have distinct texts, unless a string spells the other one. -/
theorem keysApart_iff {y : Yaml} {v : Json} (h : toJson y = .ok v) (hkeys : y.HasDistinctKeys) :
    y.KeysApart ↔ ¬ y.Clashes := by
  constructor
  · rintro hapart ⟨entries, hentries, e, he, e', he', s, hstr, hother, htext⟩
    have htexts : keyText? e.1 = keyText? e'.1 := by
      rw [hstr, htext]
      rfl
    have heq := List.inj_on_of_nodup_map (hapart entries hentries) he he' htexts
    rw [← heq, hstr] at hother
    cases hother
  · intro hclash entries hentries
    refine List.pairwise_map.2 ((hkeys entries hentries).imp_of_mem ?_)
    intro e e' he he' hdifferent htexts
    obtain ⟨t, ht⟩ := exists_keyText h hentries he
    have ht' : keyText? e'.1 = some t := htexts ▸ ht
    cases hk : e.1.isText with
    | true =>
      have hstr := eq_str_of_isText hk ht
      cases hk' : e'.1.isText with
      | true =>
        rw [hstr, eq_str_of_isText hk' ht', same, beq_self_eq_true] at hdifferent
        cases hdifferent
      | false => exact hclash ⟨entries, hentries, e, he, e', he', t, hstr, hk', ht'⟩
    | false =>
      cases hk' : e'.1.isText with
      | true =>
        exact hclash ⟨entries, hentries, e', he', e, he, t, eq_str_of_isText hk' ht', hk, ht⟩
      | false =>
        rw [same_of_keyText?_eq hk hk' ht ht'] at hdifferent
        cases hdifferent

/-- A document that is read keeps everything, unless a string spells another key. -/
theorem keeps_iff_of_load {text : String} {y : Yaml} {v : Json} (hload : load text = .ok y)
    (h : toJson y = .ok v) : Keeps y v ↔ ¬ y.Clashes := by
  rw [keeps_iff_keysApart h, keysApart_iff h (load_hasDistinctKeys hload)]

/-- Conversion keeps everything exactly where the texts of keys are distinct; if keys are distinct,
exactly where no string spells another key. -/
theorem keeps_iff {y : Yaml} {v : Json} (h : toJson y = .ok v) :
    (Keeps y v ↔ y.KeysApart) ∧ (y.HasDistinctKeys → (Keeps y v ↔ ¬ y.Clashes)) := by
  refine ⟨keeps_iff_keysApart h, fun hkeys => ?_⟩
  rw [keeps_iff_keysApart h, keysApart_iff h hkeys]

/-- Keys of several kinds, none of which has the text of another. -/
def mixedKeys : Yaml :=
  .map [(.int 1, .seq [.map [(.bool true, .null), (.str "yes", .null)]]),
    (.str "two", .tagged "!t" (.map []))]

theorem keeps_mixedKeys : mixedKeys.HasDistinctKeys ∧ ¬ mixedKeys.Clashes ∧
    ∃ v, toJson mixedKeys = .ok v ∧ Keeps mixedKeys v := by
  have heach : ∀ P : List (Yaml × Yaml) → Prop, P [] →
      P [(.bool true, .null), (.str "yes", .null)] →
      (∀ y z, P [(.int 1, y), (.str "two", z)]) → mixedKeys.EachMapping P := by
    intro P hempty hinner houter
    refine .map (houter _ _) ?_
    have hnull : Yaml.null.EachMapping P := .leaf rfl (by simp)
    have hseq : (Yaml.seq [.map [(.bool true, .null), (.str "yes", .null)]]).EachMapping P :=
      .seq (List.forall_mem_singleton.2 (.map hinner (by simp [hnull])))
    have htagged : (Yaml.tagged "!t" (.map [])).EachMapping P := .tagged (.map hempty (by simp))
    simpa using ⟨hseq, htagged⟩
  have hkeys : mixedKeys.HasDistinctKeys := heach _ .nil (by simp [same]) (by simp [same])
  have hapart : mixedKeys.KeysApart := by
    refine heach _ .nil (by decide) fun _ _ => ?_
    show [some "1", some "two"].Nodup
    decide
  have hkeeps := (keeps_iff (y := mixedKeys) rfl).1.2 hapart
  exact ⟨hkeys, ((keeps_iff rfl).2 hkeys).1 hkeeps, _, rfl, hkeeps⟩

/-- A number and the text of this number as keys. -/
def clashingKeys : Yaml := .map [(.int 1, .str "a"), (.str "1", .str "b")]

/-- They are different keys, and yet one of the two entries is lost. -/
theorem not_keeps_clashingKeys :
    same (.int 1) (.str "1") = false ∧ toJson clashingKeys = .ok (.obj [("1", .str "b")]) ∧
    ¬ Keeps clashingKeys (.obj [("1", .str "b")]) := by
  refine ⟨rfl, rfl, fun h => ?_⟩
  cases h with
  | map hentries =>
    have htexts := hentries.keyTexts_eq
    cases htexts

end MessageContract.Yaml
