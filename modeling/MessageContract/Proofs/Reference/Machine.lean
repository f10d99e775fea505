import Mathlib.Logic.Function.Iterate
import MessageContract.Proofs.Reference.Stack

/-!
# Inlining step by step

Inlining as a machine without fuel: it goes into a value or comes back with one, and keeps the
targets under way, what was found and what is still to do (`Sources.Machine.next`). At every moment
no target is under way twice, and references name those that are (`Machine.Sound`, preserved by
`Sound.next`). The machine does what `Sources.walk` does (`Sources.steps_walk`), so it comes to an
end, with the value and the findings of `Sources.inline`, and with nothing under way
(`Sources.machine_ends`).
-/

namespace MessageContract
namespace Sources

/-- What is still to do when a value comes back. -/
inductive Frame
  /-- The value is the next item of an array. -/
  | items (base : Location) (path : List String) (index : Nat) (done rest : List Json)
  /-- The value is that of the next member of an object. -/
  | members (base : Location) (path : List String) (done : Members) (name : String)
    (rest : Members)
  /-- The value is that of the target that is under way. -/
  | leave

/-- A value to go into, or one to come back with. -/
inductive Control
  | visit (base : Location) (path : List String) (value : Json)
  | give (value : Json)

/-- Inlining at a moment. -/
structure Machine where
  stack : List Target
  findings : List Diagnostic
  control : Control
  frames : List Frame

namespace Machine

/-- Goes on with the items that are left. -/
def items (m : Machine) (base : Location) (path : List String) (index : Nat) (done : List Json) :
    List Json → Machine
  | [] => { m with control := .give (.arr done) }
  | v :: rest =>
    { m with
      control := .visit base (path ++ [toString index]) v
      frames := .items base path index done rest :: m.frames }

/-- Goes on with the members that are left. -/
def members (m : Machine) (base : Location) (path : List String) (done : Members) :
    List (String × Json) → Machine
  | [] => { m with control := .give (.obj done) }
  | (k, v) :: rest =>
    { m with
      control := .visit base (path ++ [k]) v
      frames := .members base path done k rest :: m.frames }

/-- Goes on with a reference. -/
def reference (s : Sources) (m : Machine) (base : Location) (path : List String) (holder : Json) :
    Encounter → Machine
  | .unfound => { m with control := .give holder }
  | .refused message =>
    { m with
      findings := m.findings ++ [Reference.finding s.location base path message]
      control := .give holder }
  | .kept pointer => { m with control := .give (backEdge pointer holder) }
  | .entered t v =>
    { m with
      stack := t :: m.stack
      control := .visit t.location path v
      frames := .leave :: m.frames }

/-- Goes into a value. -/
def visit (s : Sources) (m : Machine) (base : Location) (path : List String) : Json → Machine
  | .obj ms =>
    match (Json.obj ms).reference? with
    | some r => m.reference s base path (.obj ms) (s.encounter m.stack base r)
    | none => m.members base path [] ms
  | .arr items => m.items base path 0 [] items
  | v => { m with control := .give v }

/-- Comes back with a value. -/
def resume (m : Machine) (v : Json) : Machine :=
  match m.frames with
  | [] => m
  | .items base path index done rest :: frames =>
    { m with frames := frames }.items base path (index + 1) (done ++ [v]) rest
  | .members base path done name rest :: frames =>
    { m with frames := frames }.members base path (done ++ [(name, v)]) rest
  | .leave :: frames => { m with stack := m.stack.tail, frames := frames }

/-- One step; at the end nothing changes. -/
def next (s : Sources) (m : Machine) : Machine :=
  match m.control with
  | .visit base path v => m.visit s base path v
  | .give v => m.resume v

end Machine

variable {s : Sources}

/-! ## Every moment -/

variable (s) in
/-- What a frame has still to do stands in its document. -/
def Frame.Stands : Frame → Prop
  | .items base _ _ _ rest => ∀ v ∈ rest, s.Stands ⟨[], base, v⟩
  | .members base _ _ _ rest => ∀ m ∈ rest, s.Stands ⟨[], base, m.2⟩
  | .leave => True

variable (s) in
/-- What the control goes into stands in its document. -/
def Control.Stands : Control → Prop
  | .visit base _ v => s.Stands ⟨[], base, v⟩
  | .give _ => True

variable (s) in
/-- What holds of the machine at every moment. -/
structure Machine.Sound (m : Machine) : Prop where
  /-- No target is under way twice. -/
  distinct : m.stack.Pairwise fun t t' => (t == t') = false
  /-- References name what is under way. -/
  named : ∀ t ∈ m.stack, s.IsNamed t
  control : m.control.Stands s
  frames : ∀ f ∈ m.frames, f.Stands s

namespace Machine

variable {m : Machine}

theorem Sound.give (h : m.Sound s) (v : Json) : { m with control := .give v }.Sound s :=
  ⟨h.distinct, h.named, trivial, h.frames⟩

theorem Sound.withFrames (h : m.Sound s) {frames : List Frame}
    (hframes : ∀ f ∈ frames, f.Stands s) : { m with frames := frames }.Sound s :=
  ⟨h.distinct, h.named, h.control, hframes⟩

theorem Sound.items (h : m.Sound s) {base : Location} {rest : List Json}
    (hrest : ∀ v ∈ rest, s.Stands ⟨[], base, v⟩) (path : List String) (index : Nat)
    (done : List Json) : (m.items base path index done rest).Sound s := by
  cases rest with
  | nil => exact h.give _
  | cons v rest =>
    obtain ⟨hv, hvs⟩ := List.forall_mem_cons.1 hrest
    exact ⟨h.distinct, h.named, hv, List.forall_mem_cons.2 ⟨hvs, h.frames⟩⟩

theorem Sound.members (h : m.Sound s) {base : Location} {rest : Members}
    (hrest : ∀ n ∈ rest, s.Stands ⟨[], base, n.2⟩) (path : List String) (done : Members) :
    (m.members base path done rest).Sound s := by
  cases rest with
  | nil => exact h.give _
  | cons n rest =>
    obtain ⟨hn, hns⟩ := List.forall_mem_cons.1 hrest
    exact ⟨h.distinct, h.named, hn, List.forall_mem_cons.2 ⟨hns, h.frames⟩⟩

theorem Sound.reference (h : m.Sound s) {base : Location} {holder : Json} {r : String}
    (hr : holder.reference? = some r) (hstands : s.Stands ⟨[], base, holder⟩)
    (path : List String) :
    (m.reference s base path holder (s.encounter m.stack base r)).Sound s := by
  cases hmet : s.encounter m.stack base r with
  | unfound => exact h.give holder
  | refused message => exact ⟨h.distinct, h.named, trivial, h.frames⟩
  | kept pointer => exact h.give (backEdge pointer holder)
  | entered t v =>
    have he := enters_of_encounter (p := ⟨m.stack, base, holder⟩) hr hmet
    have hq := he.sound ⟨h.distinct, h.named, hstands⟩
    exact ⟨hq.distinct, hq.named, hq.stands, List.forall_mem_cons.2 ⟨trivial, h.frames⟩⟩

theorem Sound.visit (h : m.Sound s) {base : Location} {v : Json}
    (hstands : s.Stands ⟨[], base, v⟩) (path : List String) : (m.visit s base path v).Sound s := by
  -- the values inside a value that stands in a document stand in it too
  have hpart : ∀ w ∈ v.children, s.Stands ⟨[], base, w⟩ := by
    obtain ⟨d, hd, hbase, hholds⟩ := hstands
    exact fun w hw => ⟨d, hd, hbase, Relation.ReflTransGen.tail hholds hw⟩
  cases v with
  | obj ms =>
    cases hr : (Json.obj ms).reference? with
    | some r =>
      simp only [Machine.visit, hr]
      exact h.reference hr hstands path
    | none =>
      simp only [Machine.visit, hr]
      exact h.members (fun n hn => hpart n.2 (List.mem_map.2 ⟨n, hn, rfl⟩)) path []
  | arr xs => exact h.items hpart path 0 []
  | _ => exact h.give _

theorem Sound.resume (h : m.Sound s) (v : Json) : (m.resume v).Sound s := by
  unfold Machine.resume
  split
  · exact h
  · next hframes =>
    obtain ⟨hrest, hothers⟩ := List.forall_mem_cons.1 (hframes ▸ h.frames)
    exact (h.withFrames hothers).items hrest _ _ _
  · next hframes =>
    obtain ⟨hrest, hothers⟩ := List.forall_mem_cons.1 (hframes ▸ h.frames)
    exact (h.withFrames hothers).members hrest _ _
  · next hframes =>
    obtain ⟨_, hothers⟩ := List.forall_mem_cons.1 (hframes ▸ h.frames)
    exact ⟨h.distinct.sublist (List.tail_sublist _),
      fun t ht => h.named t (List.mem_of_mem_tail ht), h.control, hothers⟩

theorem Sound.next (h : m.Sound s) : (m.next s).Sound s := by
  have hcontrol := h.control
  unfold Machine.next
  split
  · next heq =>
    rw [heq] at hcontrol
    exact h.visit hcontrol _
  · exact h.resume _

theorem Sound.iterate (h : m.Sound s) (n : Nat) : ((Machine.next s)^[n] m).Sound s := by
  induction n with
  | zero => exact h
  | succ n ih =>
    rw [Function.iterate_succ_apply']
    exact ih.next

end Machine

/-! ## A run -/

variable (s) in
/-- The machine gets from one state to another. -/
def Steps (m m' : Machine) : Prop := ∃ n, (Machine.next s)^[n] m = m'

theorem Steps.next {m m' : Machine} (h : s.Steps (m.next s) m') : s.Steps m m' := by
  obtain ⟨n, hn⟩ := h
  exact ⟨n + 1, hn⟩

theorem Steps.one (m : Machine) : s.Steps m (m.next s) := ⟨1, rfl⟩

theorem Steps.trans {m m' m'' : Machine} (h : s.Steps m m') (h' : s.Steps m' m'') :
    s.Steps m m'' := by
  obtain ⟨n, rfl⟩ := h
  obtain ⟨n', rfl⟩ := h'
  exact ⟨n' + n, Function.iterate_add_apply _ n' n m⟩

variable (s) in
/-- The machine comes back from a value with what `walk` makes of it. -/
def Walks (stack : List Target) (base : Location) (f : Follow) (v : Json) : Prop :=
  ∀ path findings frames, s.Steps ⟨stack, findings, .visit base path v, frames⟩
    ⟨stack, findings ++ (walk f path v).findings, .give (walk f path v).value, frames⟩

theorem steps_items {stack : List Target} {base : Location} {f : Follow} {items : List Json}
    (hitems : ∀ v ∈ items, s.Walks stack base f v) (path : List String) (index : Nat)
    (done : List Json) (findings : List Diagnostic) (control : Control) (frames : List Frame) :
    s.Steps (Machine.items ⟨stack, findings, control, frames⟩ base path index done items)
      ⟨stack, findings ++ (walkItems f path index items).findings,
        .give (.arr (done ++ (walkItems f path index items).value)), frames⟩ := by
  induction items generalizing index done findings control with
  | nil => exact ⟨0, by simp [walkItems, Machine.items]⟩
  | cons v rest ih =>
    obtain ⟨hv, hrest⟩ := List.forall_mem_cons.1 hitems
    refine Steps.trans (hv (path ++ [toString index]) findings _) (Steps.next ?_)
    have hgo := ih hrest (index + 1) (done ++ [(walk f (path ++ [toString index]) v).value])
      (findings ++ (walk f (path ++ [toString index]) v).findings)
      (.give (walk f (path ++ [toString index]) v).value)
    simp only [List.append_assoc] at hgo
    exact hgo

theorem steps_members {stack : List Target} {base : Location} {f : Follow} {ms : Members}
    (hms : ∀ m ∈ ms, s.Walks stack base f m.2) (path : List String) (done : Members)
    (findings : List Diagnostic) (control : Control) (frames : List Frame) :
    s.Steps (Machine.members ⟨stack, findings, control, frames⟩ base path done ms)
      ⟨stack, findings ++ (walkMembers f path ms).findings,
        .give (.obj (done ++ (walkMembers f path ms).value)), frames⟩ := by
  induction ms generalizing done findings control with
  | nil => exact ⟨0, by simp [walkMembers, Machine.members]⟩
  | cons m rest ih =>
    obtain ⟨hm, hrest⟩ := List.forall_mem_cons.1 hms
    refine Steps.trans (hm (path ++ [m.1]) findings _) (Steps.next ?_)
    have hgo := ih hrest (done ++ [(m.1, (walk f (path ++ [m.1]) m.2).value)])
      (findings ++ (walk f (path ++ [m.1]) m.2).findings)
      (.give (walk f (path ++ [m.1]) m.2).value)
    simp only [List.append_assoc] at hgo
    exact hgo

/-- The machine comes back from every value, with what `walk` makes of it and with the same targets
under way. By induction on the fuel, which is enough at a sound point, and on the value. -/
theorem steps_walk {fuel : Nat} {p : Point} (hp : s.Sound p)
    (hfuel : s.bound ≤ fuel + p.stack.length) :
    s.Walks p.stack p.base (s.follow fuel p.stack p.base) p.value := by
  induction fuel using Nat.strongRecOn generalizing p with
  | _ fuel ihFuel =>
    obtain ⟨stack, base, v⟩ := p
    induction v using Json.children_induction with
    | _ v ih =>
      intro path findings frames
      apply Steps.next
      cases hr : v.reference? with
      | some r =>
        obtain ⟨ms, rfl⟩ := reference?_obj hr
        rw [walk_reference hr, follow_eq]
        show s.Steps (Machine.visit s _ base path (.obj ms)) _
        simp only [Machine.visit, hr]
        cases hmet : s.encounter stack base r with
        | unfound => exact ⟨0, by simp [Machine.reference, replacement]⟩
        | refused message => exact ⟨0, rfl⟩
        | kept pointer => exact ⟨0, by simp [Machine.reference, replacement]⟩
        | entered t w =>
          have he := enters_of_encounter (p := ⟨stack, base, .obj ms⟩) hr hmet
          obtain ⟨n, rfl, hn⟩ := hp.fuel he hfuel
          have hgo := ihFuel n (Nat.lt_succ_self n) (he.sound hp) hn path findings
            (.leave :: frames)
          exact hgo.trans (Steps.one _)
      | none =>
        have hparts : ∀ w ∈ v.children, s.Walks stack base (s.follow fuel stack base) w :=
          fun w hw => ih w hw ((Step.part hr hw).sound hp) hfuel
        cases v with
        | obj ms =>
          rw [walk, hr]
          show s.Steps (Machine.visit s _ base path (.obj ms)) _
          simp only [Machine.visit, hr]
          exact steps_members (fun m hm => hparts m.2 (List.mem_map.2 ⟨m, hm, rfl⟩)) path []
            findings _ frames
        | arr xs => exact steps_items hparts path 0 [] findings _ frames
        | _ => exact ⟨0, by simp [walk, Machine.next, Machine.visit]⟩

variable (s) in
/-- The machine before anything is done. -/
def boot : Machine := ⟨[], [], .visit s.location [] s.root, []⟩

theorem boot_sound (s : Sources) : s.boot.Sound s where
  distinct := List.Pairwise.nil
  named t ht := by cases ht
  control := stands_start s
  frames f hf := by cases hf

/-- Where nothing is left to do nothing changes. -/
theorem next_give (stack : List Target) (findings : List Diagnostic) (v : Json) (n : Nat) :
    (Machine.next s)^[n] ⟨stack, findings, .give v, []⟩ = ⟨stack, findings, .give v, []⟩ :=
  Function.iterate_fixed rfl n

/-- Inlining comes to an end, with nothing under way. At every moment before, the targets under way
are pairwise distinct and of the finitely many that references name. -/
theorem machine_ends (s : Sources) :
    {t | s.IsNamed t}.Finite ∧
    (∀ n, ((Machine.next s)^[n] s.boot).stack.Pairwise (fun t t' => (t == t') = false) ∧
      ∀ t ∈ ((Machine.next s)^[n] s.boot).stack, s.IsNamed t) ∧
    ∃ n, ∀ m ≥ n, (Machine.next s)^[m] s.boot =
      ⟨[], s.inline.findings, .give s.inline.value, []⟩ := by
  refine ⟨finite_isNamed s, fun n => ?_, ?_⟩
  · have hsound := (boot_sound s).iterate n
    exact ⟨hsound.distinct, hsound.named⟩
  · obtain ⟨n, hn⟩ := steps_walk (sound_start s) (Nat.le_add_right s.bound 0) [] [] []
    refine ⟨n, fun m hm => ?_⟩
    obtain ⟨k, rfl⟩ := Nat.exists_eq_add_of_le' hm
    rw [Function.iterate_add_apply, show (Machine.next s)^[n] s.boot = _ from hn]
    exact next_give _ _ _ k

end Sources
end MessageContract
