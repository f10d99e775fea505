import MessageContract.Location
import Mathlib.Data.List.Infix

/-!
# What a path says

Read lexically, a path is absolute or relative, goes up some steps and then down some names: `..`
takes back the name before it, and at the root it stays. Normalizing keeps this reading as long as
the path goes up at most one step: a second `..` takes back the first instead of going up.
-/

namespace MessageContract

namespace FilePath

/-! ## Pieces -/

theorem pieces_of_not_mem {bytes : List UInt8} (h : slash ∉ bytes) : pieces bytes = [bytes] := by
  induction bytes with
  | nil => rfl
  | cons b bytes ih =>
    obtain ⟨hb, hbytes⟩ := not_or.1 (List.mem_cons.not.1 h)
    simp only [pieces, beq_iff_eq, Ne.symm hb, if_false, ih hbytes]

theorem pieces_ne_nil (bytes : List UInt8) : pieces bytes ≠ [] := by
  cases bytes with
  | nil => exact List.cons_ne_nil _ _
  | cons b bytes =>
    rw [pieces]
    split
    · exact List.cons_ne_nil _ _
    · split <;> exact List.cons_ne_nil _ _

/-- A slash separates whatever stands before and behind it. -/
theorem pieces_append_slash (a b : List UInt8) :
    pieces (a ++ slash :: b) = pieces a ++ pieces b := by
  induction a with
  | nil => simp [pieces]
  | cons c a ih =>
    rw [List.cons_append, pieces, pieces]
    split
    · rw [ih, List.cons_append]
    · obtain ⟨first, rest, hpieces⟩ := List.exists_cons_of_ne_nil (pieces_ne_nil a)
      rw [ih, hpieces]
      rfl

theorem pieces_append {bytes : List UInt8} (rest : List UInt8) (h : slash ∉ bytes) :
    pieces (bytes ++ slash :: rest) = bytes :: pieces rest := by
  rw [pieces_append_slash, pieces_of_not_mem h, List.singleton_append]

theorem pieces_intercalate {ps : List (List UInt8)} (hne : ps ≠ []) (h : ∀ p ∈ ps, slash ∉ p) :
    pieces (List.intercalate [slash] ps) = ps := by
  induction ps with
  | nil => exact absurd rfl hne
  | cons p ps ih =>
    have hp : slash ∉ p := h p List.mem_cons_self
    cases ps with
    | nil => rw [List.intercalate_singleton, pieces_of_not_mem hp]
    | cons q qs =>
      rw [List.intercalate_cons_cons, List.append_assoc, List.singleton_append, pieces_append _ hp,
        ih (List.cons_ne_nil _ _) fun r hr => h r (List.mem_cons_of_mem _ hr)]

theorem not_mem_of_mem_pieces {bytes p : List UInt8} (h : p ∈ pieces bytes) : slash ∉ p := by
  induction bytes generalizing p with
  | nil => simp_all [pieces]
  | cons b bytes ih =>
    rw [pieces] at h
    split at h
    · obtain rfl | h := List.mem_cons.1 h
      · exact List.not_mem_nil
      · exact ih h
    · rename_i hb
      have hb : b ≠ slash := by simpa using hb
      split at h
      · rw [List.mem_singleton.1 h]
        exact List.not_mem_cons_of_ne_of_not_mem hb.symm List.not_mem_nil
      · rename_i q qs hq
        obtain rfl | h := List.mem_cons.1 h
        · exact List.not_mem_cons_of_ne_of_not_mem hb.symm (ih (hq ▸ List.mem_cons_self))
        · exact ih (hq ▸ List.mem_cons_of_mem _ h)

/-! ## Components, written and read -/

/-- The text of a component reads back as this component. -/
def Legible (c : Component) : Prop := slash ∉ Component.bytes c ∧ componentOf? (Component.bytes c) = some c

theorem Legible.parent : Legible .parent := ⟨by decide, rfl⟩

theorem Legible.bytes_ne_nil {c : Component} (h : Legible c) : Component.bytes c ≠ [] := by
  intro hc
  have := h.2
  rw [hc] at this
  cases this

theorem Legible.bytes_ne_dot {c : Component} (h : Legible c) : Component.bytes c ≠ [dot] := by
  intro hc
  have := h.2
  rw [hc] at this
  cases this

theorem Legible.ne_root {c : Component} (h : Legible c) : c ≠ .root := by
  rintro rfl
  exact h.bytes_ne_nil rfl

theorem legible_of_componentOf? {piece : List UInt8} {c : Component} (h : slash ∉ piece)
    (hc : componentOf? piece = some c) : Legible c := by
  unfold componentOf? at hc
  split at hc
  · cases hc
  · split at hc
    · cases hc
      exact .parent
    · cases hc
      refine ⟨h, ?_⟩
      simp_all [componentOf?, Component.bytes]

/-- What stands within a path is legible; only its first component may be another one. -/
theorem components_cases (p : FilePath) :
    ∃ cs, (∀ c ∈ cs, Legible c) ∧
      (p.components = .root :: cs ∧ p.isAbsolute = true ∨
        p.isAbsolute = false ∧ (p.components = .current :: cs ∨ p.components = cs)) := by
  refine ⟨(pieces p.bytes).filterMap componentOf?, ?_, ?_⟩
  · intro c hc
    obtain ⟨piece, hpiece, hc⟩ := List.mem_filterMap.1 hc
    exact legible_of_componentOf? (not_mem_of_mem_pieces hpiece) hc
  · unfold components
    cases h : p.isAbsolute with
    | true => exact .inl ⟨rfl, rfl⟩
    | false =>
      refine .inr ⟨rfl, ?_⟩
      by_cases hd : (pieces p.bytes).head? = some [dot]
      · exact .inl (by simp [hd])
      · exact .inr (by simp [hd])

theorem filterMap_pieces_intercalate {cs : List Component} (h : ∀ c ∈ cs, Legible c) :
    (pieces (List.intercalate [slash] (cs.map Component.bytes))).filterMap componentOf? = cs := by
  cases hcs : cs with
  | nil => rfl
  | cons c rest =>
    rw [← hcs, pieces_intercalate (by simp [hcs])
        (List.forall_mem_map.2 fun c hc => (h c hc).1), List.filterMap_map]
    calc cs.filterMap (componentOf? ∘ Component.bytes)
        = cs.filterMap some := List.filterMap_congr fun c hc => (h c hc).2
      _ = cs := List.filterMap_some

theorem components_ofComponents {cs : List Component} (h : ∀ c ∈ cs, Legible c) :
    (ofComponents cs).components = cs := by
  cases hcs : cs with
  | nil => rfl
  | cons c rest =>
    have hc : Legible c := h c (hcs ▸ List.mem_cons_self)
    have hbytes : ofComponents cs = ⟨List.intercalate [slash] (cs.map Component.bytes)⟩ := by
      rw [hcs]
      cases c with
      | root => exact absurd rfl hc.ne_root
      | _ => rfl
    have hpieces : pieces (ofComponents cs).bytes = cs.map Component.bytes := by
      rw [hbytes, pieces_intercalate (by simp [hcs]) (List.forall_mem_map.2 fun c hc => (h c hc).1)]
    have habs : (ofComponents cs).isAbsolute = false := by
      cases hcb : Component.bytes c with
      | nil => exact absurd hcb hc.bytes_ne_nil
      | cons b bs =>
        have hb : b ≠ slash := fun hb => hc.1 (hcb ▸ hb ▸ List.mem_cons_self)
        have hhead : (List.intercalate [slash] (cs.map Component.bytes)).head? = some b := by
          rw [hcs, List.map_cons, hcb]
          cases rest <;> simp
        rw [isAbsolute, hbytes, hhead]
        simpa using hb
    have hdot : (cs.map Component.bytes).head? ≠ some [dot] := by
      simpa [hcs] using hc.bytes_ne_dot
    rw [← hcs, components, habs, hpieces, if_neg Bool.false_ne_true, if_neg hdot, ← hpieces, hbytes]
    exact filterMap_pieces_intercalate h

theorem components_ofComponents_root {cs : List Component} (h : ∀ c ∈ cs, Legible c) :
    (ofComponents (.root :: cs)).components = .root :: cs := by
  have hinner : ((pieces (ofComponents (.root :: cs)).bytes).filterMap componentOf?) = cs := by
    rw [ofComponents, pieces, if_pos (beq_self_eq_true slash)]
    exact filterMap_pieces_intercalate h
  rw [components, hinner]
  exact if_pos (beq_self_eq_true _)

/-! ## Readings -/

/-- What a path says lexically: where it starts, how many steps it goes up from there, and the names
it then goes down. -/
structure Reading where
  absolute : Bool
  up : Nat
  names : List (List UInt8)
  deriving DecidableEq, Repr

/-- Goes on by one component. Nothing stands above the root, so `..` stays there. -/
def Reading.follow (r : Reading) : Component → Reading
  | .root => ⟨true, 0, []⟩
  | .current => r
  | .parent =>
    if r.names ≠ [] then { r with names := r.names.dropLast }
    else if r.absolute then r
    else { r with up := r.up + 1 }
  | .name n => { r with names := r.names ++ [n] }

/-- What a path says. -/
def reading (p : FilePath) : Reading := p.components.foldl Reading.follow ⟨false, 0, []⟩

/-- What a reference says, seen from the directory of the file that holds it. -/
def Reading.seen (file : Reading) (reference : FilePath) : Reading :=
  reference.components.foldl Reading.follow { file with names := file.names.dropLast }

/-- A reading that also counts the `..` at the root. -/
structure Trail where
  absolute : Bool
  surplus : Nat
  names : List (List UInt8)
  deriving DecidableEq, Repr

namespace Trail

def follow (t : Trail) : Component → Trail
  | .root => ⟨true, 0, []⟩
  | .current => t
  | .parent =>
    if t.names ≠ [] then { t with names := t.names.dropLast }
    else { t with surplus := t.surplus + 1 }
  | .name n => { t with names := t.names ++ [n] }

def reading (t : Trail) : Reading := ⟨t.absolute, if t.absolute then 0 else t.surplus, t.names⟩

/-- The components normalizing leaves of a trail: every second surplus `..` takes back the one
before it. -/
def written (t : Trail) : List Component :=
  (if t.absolute then [.root] else []) ++
    (List.replicate (t.surplus % 2) .parent ++ t.names.map .name)

theorem reading_follow (t : Trail) (c : Component) : (t.follow c).reading = t.reading.follow c := by
  cases c with
  | parent => cases ha : t.absolute <;> by_cases hn : t.names = [] <;>
      simp [follow, reading, Reading.follow, ha, hn]
  | _ => rfl

theorem reading_foldl (t : Trail) (cs : List Component) :
    (cs.foldl follow t).reading = cs.foldl Reading.follow t.reading := by
  induction cs generalizing t with
  | nil => rfl
  | cons c cs ih => rw [List.foldl_cons, List.foldl_cons, ih, reading_follow]

end Trail

/-- What a path says, with the `..` at the root counted. -/
def trail (p : FilePath) : Trail := p.components.foldl Trail.follow ⟨false, 0, []⟩

theorem reading_trail (p : FilePath) : p.trail.reading = p.reading :=
  Trail.reading_foldl _ _

/-! ## Normalizing follows the trail -/

theorem above?_append (cs : List Component) {c : Component} (h : c ≠ .root) :
    above? (cs ++ [c]) = some cs := by
  cases c with
  | root => exact absurd rfl h
  | _ => simp [above?]

namespace Trail

theorem follow_written (t : Trail) {c : Component} (h : c ≠ .root) :
    FilePath.follow t.written c = (t.follow c).written := by
  cases c with
  | root => exact absurd rfl h
  | current => rfl
  | name n => cases ha : t.absolute <;> simp [FilePath.follow, follow, written, ha]
  | parent =>
    obtain ⟨a, s, names⟩ := t
    obtain rfl | ⟨init, n, rfl⟩ := names.eq_nil_or_concat'
    · -- no name to take back: what the last step up left decides
      obtain hs | hs := Nat.mod_two_eq_zero_or_one s
      · have : (s + 1) % 2 = 1 := by omega
        cases a <;> simp [FilePath.follow, follow, written, above?, hs, this]
      · have : (s + 1) % 2 = 0 := by omega
        cases a <;> simp [FilePath.follow, follow, written, above?, hs, this]
    · have hw : written ⟨a, s, init ++ [n]⟩ = written ⟨a, s, init⟩ ++ [.name n] := by
        simp [written]
      rw [hw, FilePath.follow, above?_append _ (by simp)]
      simp [follow]

theorem foldl_written (t : Trail) {cs : List Component} (h : Component.root ∉ cs) :
    cs.foldl FilePath.follow t.written = (cs.foldl follow t).written := by
  induction cs generalizing t with
  | nil => rfl
  | cons c cs ih =>
    obtain ⟨hc, hcs⟩ := not_or.1 (List.mem_cons.not.1 h)
    rw [List.foldl_cons, List.foldl_cons, follow_written t (Ne.symm hc), ih _ hcs]

/-- What stands on a trail can be written. -/
def Legible (t : Trail) : Prop := ∀ n ∈ t.names, FilePath.Legible (.name n)

theorem Legible.foldl {t : Trail} (ht : t.Legible) {cs : List Component}
    (h : ∀ c ∈ cs, FilePath.Legible c) : (cs.foldl follow t).Legible := by
  induction cs generalizing t with
  | nil => exact ht
  | cons c cs ih =>
    obtain ⟨hc, hcs⟩ := List.forall_mem_cons.1 h
    refine ih (fun n hn => ?_) hcs
    cases c with
    | root => exact absurd rfl hc.ne_root
    | current => exact ht n hn
    | parent =>
      simp only [follow] at hn
      split at hn
      · exact ht n (List.mem_of_mem_dropLast hn)
      · exact ht n hn
    | name m =>
      obtain hn | hn := List.mem_append.1 hn
      · exact ht n hn
      · exact List.mem_singleton.1 hn ▸ hc

theorem Legible.components {t : Trail} (ht : t.Legible) :
    (ofComponents t.written).components = t.written := by
  have h : ∀ c ∈ List.replicate (t.surplus % 2) .parent ++ t.names.map .name,
      FilePath.Legible c := by
    intro c hc
    obtain hc | hc := List.mem_append.1 hc
    · exact List.eq_of_mem_replicate hc ▸ .parent
    · obtain ⟨n, hn, rfl⟩ := List.mem_map.1 hc
      exact ht n hn
  unfold written
  cases t.absolute with
  | true => exact components_ofComponents_root h
  | false => exact components_ofComponents h

theorem foldl_names (t : Trail) (names : List (List UInt8)) :
    (names.map Component.name).foldl follow t = { t with names := t.names ++ names } := by
  induction names generalizing t with
  | nil => simp
  | cons n names ih => simp [follow, ih]

theorem foldl_parents (a : Bool) (s k : Nat) :
    (List.replicate k .parent).foldl follow ⟨a, s, []⟩ = ⟨a, s + k, []⟩ := by
  induction k generalizing s with
  | zero => rfl
  | succ k ih => simp [List.replicate_succ, follow, ih, Nat.add_comm, Nat.add_left_comm]

theorem foldl_follow_written (t : Trail) :
    t.written.foldl follow ⟨false, 0, []⟩ = { t with surplus := t.surplus % 2 } := by
  obtain ⟨a, s, names⟩ := t
  cases a <;> simp [written, follow, foldl_parents, foldl_names]

theorem reading_mod (t : Trail) :
    reading { t with surplus := t.surplus % 2 } = { t.reading with up := t.reading.up % 2 } := by
  obtain ⟨a, s, names⟩ := t
  cases a <;> simp [reading]

theorem Legible.reading_ofComponents {t : Trail} (ht : t.Legible) :
    (ofComponents t.written).reading = { t.reading with up := t.reading.up % 2 } := by
  rw [← reading_trail, FilePath.trail, ht.components, foldl_follow_written, reading_mod]

end Trail

theorem root_not_mem {cs : List Component} (h : ∀ c ∈ cs, Legible c) : Component.root ∉ cs :=
  fun hr => (h _ hr).ne_root rfl

/-- Past what only stands at the start of a path, all components are legible. -/
theorem trail_eq (p : FilePath) : ∃ (start : Trail) (cs : List Component),
    start.names = [] ∧ (∀ c ∈ cs, Legible c) ∧ p.trail = cs.foldl Trail.follow start ∧
      normalizeComponents p.components = cs.foldl follow start.written := by
  obtain ⟨cs, hcs, ⟨h, -⟩ | ⟨-, h | h⟩⟩ := p.components_cases
  · exact ⟨⟨true, 0, []⟩, cs, rfl, hcs, by rw [trail, h]; rfl, by rw [normalizeComponents, h]; rfl⟩
  · exact ⟨⟨false, 0, []⟩, cs, rfl, hcs, by rw [trail, h]; rfl, by rw [normalizeComponents, h]; rfl⟩
  · exact ⟨⟨false, 0, []⟩, cs, rfl, hcs, by rw [trail, h], by rw [normalizeComponents, h]; rfl⟩

theorem legible_trail (p : FilePath) : p.trail.Legible := by
  obtain ⟨start, cs, hstart, hcs, htrail, -⟩ := p.trail_eq
  exact htrail ▸ Trail.Legible.foldl (by simp [Trail.Legible, hstart]) hcs

theorem normalizeComponents_components (p : FilePath) :
    normalizeComponents p.components = p.trail.written := by
  obtain ⟨start, cs, -, hcs, htrail, hnormal⟩ := p.trail_eq
  rw [hnormal, htrail, Trail.foldl_written _ (root_not_mem hcs)]

theorem components_normalize (p : FilePath) : p.normalize.components = p.trail.written := by
  rw [normalize, normalizeComponents_components, p.legible_trail.components]

/-- Normalizing goes up one step where the path goes up an odd number of them, and none where the
number is even. -/
theorem reading_normalize (p : FilePath) :
    p.normalize.reading = { p.reading with up := p.reading.up % 2 } := by
  rw [normalize, normalizeComponents_components, p.legible_trail.reading_ofComponents, reading_trail]

/-- Two paths are normalized to one exactly if their normal forms say the same up to parity. -/
theorem normalize_eq_iff (p q : FilePath) :
    p.normalize = q.normalize ↔ p.trail.written = q.trail.written := by
  refine ⟨fun h => ?_, fun h => ?_⟩
  · rw [← components_normalize, ← components_normalize, h]
  · rw [normalize, normalize, normalizeComponents_components, normalizeComponents_components, h]

theorem Trail.written_eq_iff {s t : Trail} (h : s.reading = t.reading) :
    s.written = t.written ↔ (s.absolute = true → s.surplus % 2 = t.surplus % 2) := by
  obtain ⟨a, m, names⟩ := s
  obtain ⟨b, n, names'⟩ := t
  obtain ⟨rfl, hup, rfl⟩ : a = b ∧ _ ∧ names = names' := by simpa [reading] using h
  cases a with
  | false => simp_all [written]
  | true => 
    obtain hm | hm := Nat.mod_two_eq_zero_or_one m <;>
      obtain hn | hn := Nat.mod_two_eq_zero_or_one n <;> simp [written, hm, hn]

/-! ## Seen from the directory of a file -/

theorem Trail.Legible.normalizeComponents_written {t : Trail} (ht : t.Legible) :
    normalizeComponents t.written = t.written := by
  have h := normalizeComponents_components (ofComponents t.written)
  rw [ht.components, trail, ht.components, Trail.foldl_follow_written] at h
  rw [h]
  simp [Trail.written]

theorem Trail.Legible.dropLast {t : Trail} (ht : t.Legible) :
    Trail.Legible { t with names := t.names.dropLast } :=
  fun n hn => ht n (List.mem_of_mem_dropLast hn)

theorem directory_normalize {p : FilePath} (h : p.reading.names ≠ []) :
    p.normalize.directory = Trail.written { p.trail with names := p.trail.names.dropLast } := by
  rw [← reading_trail] at h
  rw [directory, components_normalize]
  obtain ⟨init, n, hn⟩ := p.trail.names.eq_nil_or_concat'.resolve_left h
  have hw : p.trail.written = Trail.written { p.trail with names := init } ++ [.name n] := by
    simp [Trail.written, hn]
  rw [hw, above?_append _ (by simp), hn, List.dropLast_concat, Option.getD_some]

/-- Joining reads a reference from the directory of the file, and then goes up one step at most. -/
theorem reading_joinTo {p : FilePath} (h : p.reading.names ≠ []) (reference : FilePath) :
    (p.normalize.joinTo reference).reading =
      { p.reading.seen reference with up := (p.reading.seen reference).up % 2 } := by
  obtain ⟨cs, hcs, ⟨hr, habs⟩ | ⟨habs, hr⟩⟩ := reference.components_cases
  · -- an absolute reference starts over
    have hseen : p.reading.seen reference = reference.reading := by
      rw [Reading.seen, hr, List.foldl_cons, ← reference.reading_trail, trail, hr, List.foldl_cons,
        Trail.reading_foldl]
      rfl
    rw [joinTo, if_pos habs, hseen, reading_normalize]
  · let start : Trail := { p.trail with names := p.trail.names.dropLast }
    have hstart : start.Legible := p.legible_trail.dropLast
    have hfold : ∀ {α : Type} (f : α → Component → α) (a : α), f a .current = a →
        reference.components.foldl f a = cs.foldl f a := by
      intro α f a hf
      obtain hr | hr := hr <;> rw [hr]
      rw [List.foldl_cons, hf]
    have hseen : p.reading.seen reference = (cs.foldl Trail.follow start).reading := by
      rw [Reading.seen, hfold _ _ rfl, ← reading_trail, Trail.reading_foldl]
      rfl
    have hnormal : normalizeComponents (p.normalize.directory ++ reference.components) =
        (cs.foldl Trail.follow start).written := by
      rw [directory_normalize h, normalizeComponents, List.foldl_append, hfold _ _ rfl,
        ← Trail.foldl_written _ (root_not_mem hcs)]
      exact congrArg (List.foldl follow · cs) hstart.normalizeComponents_written
    rw [joinTo, habs, if_neg Bool.false_ne_true, hnormal, (hstart.foldl hcs).reading_ofComponents,
      hseen]

theorem Reading.mod_two_eq_iff (r : Reading) : { r with up := r.up % 2 } = r ↔ r.up ≤ 1 := by
  obtain ⟨a, up, names⟩ := r
  simp only [Reading.mk.injEq, true_and, and_true]
  omega

/-- Normalizing keeps what a path says exactly if it goes up at most one step, and tells spellings of
one path apart exactly if they differ in the parity of the `..` at the root. So a reference names the
file it says, seen from the directory of the file that holds it, exactly if this file is at most one
step up. -/
theorem normalize_keeps_reading_iff (p q : FilePath) (reference : String) :
    (p.normalize.reading = p.reading ↔ p.reading.up ≤ 1) ∧
    (p.reading = q.reading → (p.normalize = q.normalize ↔
      (p.reading.absolute = true → p.trail.surplus % 2 = q.trail.surplus % 2))) ∧
    (p.reading.names ≠ [] → Location.absolute? reference = none →
      ∃ target : FilePath, (Location.ofPath p).join reference = .ok (.file target) ∧
        (target.reading = p.reading.seen (ofString reference) ↔
          (p.reading.seen (ofString reference)).up ≤ 1)) := by
  refine ⟨?_, fun h => ?_, fun hp hr => ?_⟩
  · rw [reading_normalize, Reading.mod_two_eq_iff]
  · rw [← reading_trail, ← reading_trail] at h
    rw [normalize_eq_iff, Trail.written_eq_iff h, ← reading_trail]
    rfl
  · refine ⟨p.normalize.joinTo (ofString reference), ?_, ?_⟩
    · simp only [Location.join, hr, Location.ofPath]
    · rw [reading_joinTo hp, Reading.mod_two_eq_iff]

theorem normalize_keeps_reading_sibling :
    (ofString "specs//../a.yaml").normalize = (ofString "a.yaml").normalize ∧
    ∃ target : FilePath,
      (Location.ofPath (ofString "specs//../a.yaml")).join "../b.yaml" = .ok (.file target) ∧
      target.reading = ⟨false, 1, [Utf8.encode "b.yaml"]⟩ := by
  obtain ⟨-, hsame, hjoin⟩ :=
    normalize_keeps_reading_iff (ofString "specs//../a.yaml") (ofString "a.yaml") "../b.yaml"
  refine ⟨(hsame (by decide +kernel)).2 fun h => absurd h (by decide +kernel), ?_⟩
  obtain ⟨target, htarget, hread⟩ := hjoin (by decide +kernel) (by decide +kernel)
  exact ⟨target, htarget, (hread.2 (by decide +kernel)).trans (by decide +kernel)⟩

/-- A reference that goes up two steps names a file beside the one that holds it, and at the root two
spellings of one path stay apart. -/
theorem normalize_loses_parents :
    (ofString "../../x").normalize.reading ≠ (ofString "../../x").reading ∧
    (ofString "/../x").reading = (ofString "/x").reading ∧
    (ofString "/../x").normalize ≠ (ofString "/x").normalize ∧
    (Location.ofPath (ofString "c.yaml")).join "../../x.yaml" =
      .ok (.file (ofString "x.yaml")) := by
  refine ⟨by decide +kernel, by decide +kernel, by decide +kernel, ?_⟩
  have hr : Location.absolute? "../../x.yaml" = none := by decide +kernel
  have hjoin : (ofString "c.yaml").normalize.joinTo (ofString "../../x.yaml") =
      ofString "x.yaml" := by decide +kernel
  simp only [Location.join, hr, Location.ofPath, hjoin]

end FilePath

end MessageContract
