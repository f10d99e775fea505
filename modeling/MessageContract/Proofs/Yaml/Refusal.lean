import MessageContract.Proofs.Json.Pointer
import MessageContract.Yaml.ToJson

/-!
# What JSON cannot hold

Two things in a YAML value offend: a number that is not finite, and a key that is no plain scalar
(`Yaml.Offends`). Each has a position in the text: entries stand in order, and the key of an entry
before its value. Conversion fails exactly if something offends, and tells of the first offence in
the text (`Yaml.toJsonAt_settles`, through items and entries one by one), with the JSON Pointer of the
number, or of the mapping with the key. Tags of values change nothing (`Yaml.toJsonAt_bare`).
-/

namespace MessageContract.Yaml

/-! ## Offences -/

/-- Strings, numbers and booleans. -/
def isScalar : Yaml → Bool
  | .str _ | .int _ | .double _ | .bool _ => true
  | _ => false

/-- These are the keys that have a text. -/
theorem isSome_keyText? (k : Yaml) : (keyText? k).isSome = k.isScalar := by
  cases k <;> rfl

theorem keyText?_eq_none_iff {k : Yaml} : keyText? k = none ↔ k.isScalar = false := by
  rw [← isSome_keyText?, Option.isSome_eq_false_iff, Option.isNone_iff_eq_none]

/-- What JSON cannot hold in a value, with its position in the text and the names that lead to it: a
number that is not finite, or the mapping with a key that is no scalar. An item counts one position,
an entry two: one for the key, and one for the value. -/
inductive Offends : Yaml → List Nat → List (Option String) → JsonCause → Prop
  | number {d : Double} (notFinite : d.isFinite = false) : Offends (.double d) [] [] (.notFinite d)
  | key {entries : List (Yaml × Yaml)} {i : Nat} {k v : Yaml} (entry : entries[i]? = some (k, v))
      (other : k.isScalar = false) : Offends (.map entries) [2 * i] [] .keyNotScalar
  | item {items : List Yaml} {i : Nat} {v : Yaml} {position : List Nat}
      {names : List (Option String)} {cause : JsonCause} (item : items[i]? = some v)
      (rest : Offends v position names cause) :
      Offends (.seq items) (i :: position) (some (toString i) :: names) cause
  | value {entries : List (Yaml × Yaml)} {i : Nat} {k v : Yaml} {position : List Nat}
      {names : List (Option String)} {cause : JsonCause} (entry : entries[i]? = some (k, v))
      (rest : Offends v position names cause) :
      Offends (.map entries) ((2 * i + 1) :: position) (keyText? k :: names) cause
  | tagged {tag : String} {v : Yaml} {position : List Nat} {names : List (Option String)}
      {cause : JsonCause} (rest : Offends v position names cause) :
      Offends (.tagged tag v) position names cause

/-- An offence in one of the items, the first of which has an index. -/
inductive OffendsItem (index : Nat) (items : List Yaml) :
    List Nat → List (Option String) → JsonCause → Prop
  | mk {i : Nat} {v : Yaml} {position : List Nat} {names : List (Option String)}
      {cause : JsonCause} (item : items[i]? = some v) (rest : Offends v position names cause) :
      OffendsItem index items ((index + i) :: position) (some (toString (index + i)) :: names) cause

/-- An offence in one of the entries, the first of which has an index. -/
inductive OffendsEntry (index : Nat) (entries : List (Yaml × Yaml)) :
    List Nat → List (Option String) → JsonCause → Prop
  | key {i : Nat} {k v : Yaml} (entry : entries[i]? = some (k, v)) (other : k.isScalar = false) :
      OffendsEntry index entries [2 * (index + i)] [] .keyNotScalar
  | value {i : Nat} {k v : Yaml} {position : List Nat} {names : List (Option String)}
      {cause : JsonCause} (entry : entries[i]? = some (k, v))
      (rest : Offends v position names cause) :
      OffendsEntry index entries ((2 * (index + i) + 1) :: position) (keyText? k :: names) cause

variable {position : List Nat} {names : List (Option String)} {cause : JsonCause}

theorem offends_seq_iff {items : List Yaml} :
    Offends (.seq items) position names cause ↔ OffendsItem 0 items position names cause := by
  constructor
  · rintro (_ | _ | ⟨hi, hrest⟩)
    have h : OffendsItem 0 items _ _ _ := .mk hi hrest
    rwa [Nat.zero_add] at h
  · rintro ⟨hi, hrest⟩
    rw [Nat.zero_add]
    exact .item hi hrest

theorem offends_map_iff {entries : List (Yaml × Yaml)} :
    Offends (.map entries) position names cause ↔ OffendsEntry 0 entries position names cause := by
  constructor
  · rintro (_ | ⟨hi, hother⟩ | _ | ⟨hi, hrest⟩)
    · have h : OffendsEntry 0 entries _ _ _ := .key hi hother
      rwa [Nat.zero_add] at h
    · have h : OffendsEntry 0 entries _ _ _ := .value hi hrest
      rwa [Nat.zero_add] at h
  · rintro (⟨hi, hother⟩ | ⟨hi, hrest⟩)
    · rw [Nat.zero_add]
      exact .key hi hother
    · rw [Nat.zero_add]
      exact .value hi hrest

theorem offends_tagged_iff {tag : String} {v : Yaml} :
    Offends (.tagged tag v) position names cause ↔ Offends v position names cause := by
  constructor
  · rintro (_ | _ | _ | _ | hrest)
    exact hrest
  · exact .tagged

theorem offendsItem_cons_iff {index : Nat} {v : Yaml} {items : List Yaml} :
    OffendsItem index (v :: items) position names cause ↔
      (∃ position' names', position = index :: position' ∧
        names = some (toString index) :: names' ∧ Offends v position' names' cause) ∨
      OffendsItem (index + 1) items position names cause := by
  constructor
  · rintro @⟨i, u, position, names, _, hi, hrest⟩
    cases i with
    | zero =>
      obtain rfl := Option.some.inj hi
      exact Or.inl ⟨position, names, rfl, rfl, hrest⟩
    | succ i =>
      rw [show index + (i + 1) = index + 1 + i by omega]
      exact Or.inr (.mk hi hrest)
  · rintro (⟨position', names', rfl, rfl, hrest⟩ | @⟨i, u, position, names, _, hi, hrest⟩)
    · exact .mk (i := 0) rfl hrest
    · rw [show index + 1 + i = index + (i + 1) by omega]
      exact .mk hi hrest

theorem offendsEntry_cons_iff {index : Nat} {k v : Yaml} {entries : List (Yaml × Yaml)} :
    OffendsEntry index ((k, v) :: entries) position names cause ↔
      (k.isScalar = false ∧ position = [2 * index] ∧ names = [] ∧ cause = .keyNotScalar) ∨
      (∃ position' names', position = (2 * index + 1) :: position' ∧
        names = keyText? k :: names' ∧ Offends v position' names' cause) ∨
      OffendsEntry (index + 1) entries position names cause := by
  constructor
  · rintro (@⟨i, k', v', hi, hother⟩ | @⟨i, k', v', position, names, _, hi, hrest⟩)
    · cases i with
      | zero =>
        obtain ⟨rfl, rfl⟩ := Prod.mk.inj (Option.some.inj hi)
        exact Or.inl ⟨hother, rfl, rfl, rfl⟩
      | succ i =>
        rw [show index + (i + 1) = index + 1 + i by omega]
        exact Or.inr (Or.inr (.key hi hother))
    · cases i with
      | zero =>
        obtain ⟨rfl, rfl⟩ := Prod.mk.inj (Option.some.inj hi)
        exact Or.inr (Or.inl ⟨position, names, rfl, rfl, hrest⟩)
      | succ i =>
        rw [show index + (i + 1) = index + 1 + i by omega]
        exact Or.inr (Or.inr (.value hi hrest))
  · rintro (⟨hother, rfl, rfl, rfl⟩ | ⟨position', names', rfl, rfl, hrest⟩ |
      @⟨i, k', v', hi, hother⟩ | @⟨i, k', v', position, names, _, hi, hrest⟩)
    · exact .key (i := 0) rfl hother
    · exact .value (i := 0) rfl hrest
    · rw [show index + 1 + i = index + (i + 1) by omega]
      exact .key hi hother
    · rw [show index + 1 + i = index + (i + 1) by omega]
      exact .value hi hrest

/-! ## Order -/

/-- A position in the text is not behind another one. -/
def NoLater (position position' : List Nat) : Prop :=
  position = position' ∨ List.Lex (· < ·) position position'

theorem nil_noLater (position : List Nat) : NoLater [] position := by
  cases position with
  | nil => exact Or.inl rfl
  | cons n position => exact Or.inr .nil

/-- What stands further down a list comes later in the text. -/
theorem noLater_of_lt {n m : Nat} (h : n < m) (position position' : List Nat) :
    NoLater (n :: position) (m :: position') :=
  Or.inr (.rel h)

theorem NoLater.cons {position position' : List Nat} (h : NoLater position position') (n : Nat) :
    NoLater (n :: position) (n :: position') := by
  rcases h with rfl | h
  · exact Or.inl rfl
  · exact Or.inr (.cons h)

theorem OffendsItem.noLater {index n : Nat} {items : List Yaml}
    (h : OffendsItem index items position names cause) (hn : n < index) (position' : List Nat) :
    NoLater (n :: position') position := by
  obtain ⟨_, _⟩ := h
  apply noLater_of_lt
  omega

theorem OffendsEntry.noLater {index n : Nat} {entries : List (Yaml × Yaml)}
    (h : OffendsEntry index entries position names cause) (hn : n < 2 * index)
    (position' : List Nat) : NoLater (n :: position') position := by
  cases h with
  | key _ _ =>
    apply noLater_of_lt
    omega
  | value _ _ =>
    apply noLater_of_lt
    omega

/-! ## Conversion -/

/-- A result against all that offends behind a path: a failure is the first offence in the text, and
without one nothing offends. -/
def Settles {α : Type} (path : List String)
    (offends : List Nat → List (Option String) → JsonCause → Prop) : Except JsonError α → Prop
  | .ok _ => ∀ position names cause, ¬ offends position names cause
  | .error e => ∃ position names, offends position names e.cause ∧
      e.path.map some = path.map some ++ names ∧
      ∀ position' names' cause', offends position' names' cause' → NoLater position position'

theorem Settles.map {α β : Type} {path : List String}
    {offends : List Nat → List (Option String) → JsonCause → Prop} {r : Except JsonError α}
    (h : Settles path offends r) (f : α → β) : Settles path offends (r.map f) := by
  cases r with
  | ok a => exact h
  | error e => exact h

theorem Settles.congr {α : Type} {path : List String}
    {offends offends' : List Nat → List (Option String) → JsonCause → Prop}
    {r : Except JsonError α} (h : Settles path offends r)
    (hiff : ∀ position names cause, offends' position names cause ↔ offends position names cause) :
    Settles path offends' r := by
  have heq : offends' = offends := by
    funext position names cause
    exact propext (hiff position names cause)
  rwa [heq]

mutual

/-- Conversion tells of the first offence. -/
theorem toJsonAt_settles (path : List String) :
    ∀ y : Yaml, Settles path (Offends y) (toJsonAt path y)
  | .null => nofun
  | .bool _ => nofun
  | .int _ => nofun
  | .str _ => nofun
  | .double d => by
    rw [toJsonAt]
    split
    · next hfinite =>
      rintro _ _ _ (hd | _)
      rw [hd] at hfinite
      cases hfinite
    · next hfinite =>
      have hd : d.isFinite = false := Bool.eq_false_iff.2 hfinite
      exact ⟨[], [], .number hd, (List.append_nil _).symm, fun _ _ _ _ => nil_noLater _⟩
  | .seq items => by
    rw [toJsonAt]
    exact ((toJsonItems_settles path 0 items).map _).congr fun _ _ _ => offends_seq_iff
  | .map entries => by
    rw [toJsonAt]
    exact ((toJsonEntries_settles path [] 0 entries).map _).congr fun _ _ _ => offends_map_iff
  | .tagged _ v => by
    rw [toJsonAt]
    exact (toJsonAt_settles path v).congr fun _ _ _ => offends_tagged_iff

theorem toJsonItems_settles (path : List String) (index : Nat) :
    ∀ items : List Yaml, Settles path (OffendsItem index items) (toJsonItems path index items)
  | [] => by
    rintro _ _ _ ⟨hi, _⟩
    cases hi
  | v :: items => by
    have hfirst := toJsonAt_settles (path ++ [toString index]) v
    have hrest := toJsonItems_settles path (index + 1) items
    rw [toJsonItems]
    cases hv : toJsonAt (path ++ [toString index]) v with
    | error e =>
      rw [hv] at hfirst
      obtain ⟨position, names, hoffends, hpath, hleast⟩ := hfirst
      refine ⟨index :: position, some (toString index) :: names,
        offendsItem_cons_iff.2 (Or.inl ⟨position, names, rfl, rfl, hoffends⟩), ?_, ?_⟩
      · simpa using hpath
      · intro position' names' cause' h
        rcases offendsItem_cons_iff.1 h with ⟨position', names', rfl, rfl, hin⟩ | hbehind
        · exact (hleast _ _ _ hin).cons _
        · exact hbehind.noLater (Nat.lt_succ_self index) position
    | ok j =>
      rw [hv] at hfirst
      refine (hrest.map (j :: ·)).congr fun position names cause => ?_
      rw [offendsItem_cons_iff, or_iff_right]
      rintro ⟨position', names', _, _, h⟩
      exact hfirst _ _ _ h

theorem toJsonEntries_settles (path : List String) (acc : Members) (index : Nat) :
    ∀ entries : List (Yaml × Yaml),
      Settles path (OffendsEntry index entries) (toJsonEntries path acc entries)
  | [] => by
    rintro _ _ _ (⟨hi, _⟩ | ⟨hi, _⟩)
    · cases hi
    · cases hi
  | (k, v) :: entries => by
    rw [toJsonEntries]
    cases hk : keyText? k with
    | none =>
      refine ⟨[2 * index], [], offendsEntry_cons_iff.2
        (Or.inl ⟨keyText?_eq_none_iff.1 hk, rfl, rfl, rfl⟩), (List.append_nil _).symm, ?_⟩
      intro position' names' cause' h
      rcases offendsEntry_cons_iff.1 h with ⟨_, rfl, _⟩ | ⟨position', names', rfl, _⟩ | hbehind
      · exact Or.inl rfl
      · exact noLater_of_lt (Nat.lt_succ_self _) _ _
      · exact hbehind.noLater (by omega) []
    | some name =>
      have hscalar : ¬ k.isScalar = false := by
        rw [← keyText?_eq_none_iff, hk]
        exact Option.some_ne_none name
      have hfirst := toJsonAt_settles (path ++ [name]) v
      dsimp only
      cases hv : toJsonAt (path ++ [name]) v with
      | error e =>
        rw [hv] at hfirst
        obtain ⟨position, names, hoffends, hpath, hleast⟩ := hfirst
        refine ⟨(2 * index + 1) :: position, some name :: names, offendsEntry_cons_iff.2
          (Or.inr (Or.inl ⟨position, names, rfl, by rw [hk], hoffends⟩)), ?_, ?_⟩
        · simpa using hpath
        · intro position' names' cause' h
          rcases offendsEntry_cons_iff.1 h with ⟨hother, _⟩ | ⟨position', names', rfl, _, hin⟩ |
            hbehind
          · exact absurd hother hscalar
          · exact (hleast _ _ _ hin).cons _
          · exact hbehind.noLater (by omega) position
      | ok j =>
        rw [hv] at hfirst
        refine (toJsonEntries_settles path (acc.insert name j) (index + 1) entries).congr
          fun position names cause => ?_
        rw [offendsEntry_cons_iff, or_iff_right (fun h => hscalar h.1), or_iff_right]
        rintro ⟨position', names', _, _, h⟩
        exact hfirst _ _ _ h

end

/-! ## Tags -/

mutual

/-- A value without the tags of the values in it; keys are as they were. -/
def bare : Yaml → Yaml
  | .seq items => .seq (bareItems items)
  | .map entries => .map (bareEntries entries)
  | .tagged _ v => bare v
  | y => y

def bareItems : List Yaml → List Yaml
  | [] => []
  | v :: rest => bare v :: bareItems rest

def bareEntries : List (Yaml × Yaml) → List (Yaml × Yaml)
  | [] => []
  | (k, v) :: rest => (k, bare v) :: bareEntries rest

end

mutual

/-- Tags change nothing. -/
theorem toJsonAt_bare (path : List String) : ∀ y : Yaml, toJsonAt path y.bare = toJsonAt path y
  | .seq items => by rw [bare, toJsonAt, toJsonAt, toJsonItems_bare path 0 items]
  | .map entries => by rw [bare, toJsonAt, toJsonAt, toJsonEntries_bare path [] entries]
  | .tagged _ v => by rw [bare, toJsonAt, toJsonAt_bare path v]
  | .null | .bool _ | .int _ | .double _ | .str _ => rfl

theorem toJsonItems_bare (path : List String) (index : Nat) :
    ∀ items : List Yaml, toJsonItems path index (bareItems items) = toJsonItems path index items
  | [] => rfl
  | v :: items => by
    rw [bareItems, toJsonItems, toJsonItems, toJsonAt_bare _ v, toJsonItems_bare path _ items]

theorem toJsonEntries_bare (path : List String) (acc : Members) :
    ∀ entries : List (Yaml × Yaml),
      toJsonEntries path acc (bareEntries entries) = toJsonEntries path acc entries
  | [] => rfl
  | (k, v) :: entries => by
    simp only [bareEntries, toJsonEntries, toJsonAt_bare _ v, toJsonEntries_bare path _ entries]

end

/-! ## Documents -/

/-- A path as JSON Pointer, read back. -/
theorem segments?_pointerText {path : List String} (h : path ≠ []) :
    Pointer.segments? (pointerText path).toList = some (path.map String.toList) := by
  have htext : (pointerText path).toList =
      (path.map String.toList).flatMap fun cs => '/' :: Pointer.escape cs := by
    rw [pointerText, if_neg (by simpa using h), String.toList_join]
    simp [List.flatMap_map]
  rw [htext, Pointer.segments?_flatMap (by simpa using h)]

/-- Conversion fails on what JSON cannot hold alone, and says where the first of it stands. -/
structure RefusesFirst (y : Yaml) : Prop where
  refused : (∃ e, toJson y = .error e) ↔ ∃ position names cause, Offends y position names cause
  /-- The error has the names that lead to the first offence in the text. -/
  first : ∀ e, toJson y = .error e → ∃ position, Offends y position (e.path.map some) e.cause ∧
    ∀ position' names' cause', Offends y position' names' cause' → NoLater position position'
  /-- The names are told as a JSON Pointer. -/
  told : ∀ e, toJson y = .error e →
    (∃ reason, e.message = pointerText e.path ++ ": " ++ reason) ∧
    (e.path = [] → pointerText e.path = "(root)") ∧
    (e.path ≠ [] →
      Pointer.segments? (pointerText e.path).toList = some (e.path.map String.toList))
  /-- Values that differ in tags alone are converted or refused alike. -/
  tags : ∀ z : Yaml, z.bare = y.bare → toJson z = toJson y

theorem refuses_first (y : Yaml) : RefusesFirst y := by
  have hsettles := toJsonAt_settles [] y
  refine ⟨⟨?_, ?_⟩, ?_, fun e _ => ⟨⟨_, rfl⟩, ?_, segments?_pointerText⟩, fun z hz => ?_⟩
  · rintro ⟨e, he⟩
    rw [show toJsonAt [] y = .error e from he] at hsettles
    obtain ⟨position, names, hoffends, _⟩ := hsettles
    exact ⟨position, names, e.cause, hoffends⟩
  · rintro ⟨position, names, cause, hoffends⟩
    cases hy : toJson y with
    | error e => exact ⟨e, rfl⟩
    | ok j =>
      rw [show toJsonAt [] y = .ok j from hy] at hsettles
      exact absurd hoffends (hsettles position names cause)
  · intro e he
    rw [show toJsonAt [] y = .error e from he] at hsettles
    obtain ⟨position, names, hoffends, hpath, hleast⟩ := hsettles
    rw [List.map_nil, List.nil_append] at hpath
    exact ⟨position, hpath ▸ hoffends, hleast⟩
  · intro h
    rw [h]
    rfl
  · rw [toJson, toJson, ← toJsonAt_bare [] z, ← toJsonAt_bare [] y, hz]

end MessageContract.Yaml
