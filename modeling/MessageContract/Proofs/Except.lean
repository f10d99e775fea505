import Mathlib.Data.List.Forall2

/-!
# Steps that can fail

Where a chain of steps gives a value, every step gave one. Two chains of steps agree if both come to
values that belong together, or both fail; which error each of them fails with does not matter
(`Agree`).
-/

namespace MessageContract

/-! ## One chain -/

section

variable {α β ε ε' : Type}

theorem bind_eq_ok {x : Except ε α} {f : α → Except ε β} {b : β} (h : x >>= f = .ok b) :
    ∃ a, x = .ok a ∧ f a = .ok b := by
  cases x with
  | error e => cases h
  | ok a => exact ⟨a, rfl, h⟩

theorem map_eq_ok {x : Except ε α} {f : α → β} {b : β} (h : x.map f = .ok b) :
    ∃ a, x = .ok a ∧ f a = b := by
  cases x with
  | error e => cases h
  | ok a => exact ⟨a, rfl, Except.ok.inj h⟩

theorem mapError_eq_ok {x : Except ε α} {f : ε → ε'} {a : α} (h : x.mapError f = .ok a) :
    x = .ok a := by
  cases x with
  | error e => cases h
  | ok b => exact congrArg Except.ok (Except.ok.inj h)

theorem getD_toOption {P : α → Prop} {x : Except ε α} {a : α} (ha : P a)
    (h : ∀ b, x = .ok b → P b) : P (x.toOption.getD a) := by
  cases x with
  | error e => exact ha
  | ok b => exact h b rfl

/-- What every step keeps, a chain of steps over a list keeps. -/
theorem foldlM_keeps {P : α → Prop} {f : α → β → Except ε α} {xs : List β}
    (h : ∀ x ∈ xs, ∀ a b, P a → f a x = .ok b → P b) {a b : α} (ha : P a)
    (hab : xs.foldlM f a = .ok b) : P b := by
  induction xs generalizing a with
  | nil =>
    cases hab
    exact ha
  | cons x xs ih =>
    rw [List.foldlM_cons] at hab
    obtain ⟨c, hc, hrest⟩ := bind_eq_ok hab
    rw [List.forall_mem_cons] at h
    exact ih h.2 (h.1 a c ha hc) hrest

end

/-! ## Two chains that agree -/

variable {α α' β β' γ γ' ε ε' ε₁ ε₁' : Type}

/-- Both give values that are related, or both fail. -/
inductive Agree (R : α → β → Prop) : Except ε α → Except ε' β → Prop
  | ok {a : α} {b : β} (related : R a b) : Agree R (.ok a) (.ok b)
  | error (e : ε) (e' : ε') : Agree R (.error e) (.error e')

namespace Agree

variable {R : α → β → Prop} {S : α' → β' → Prop} {x : Except ε α} {y : Except ε' β}

theorem mono {R' : α → β → Prop} (h : Agree R x y) (hmono : ∀ a b, R a b → R' a b) :
    Agree R' x y := by
  cases h with
  | ok related => exact .ok (hmono _ _ related)
  | error e e' => exact .error e e'

theorem refl {R : α → α → Prop} (hrefl : ∀ a, R a a) (x : Except ε α) : Agree R x x := by
  cases x with
  | error e => exact .error e e
  | ok a => exact .ok (hrefl a)

theorem bind {f : α → Except ε α'} {g : β → Except ε' β'} (h : Agree R x y)
    (hnext : ∀ a b, R a b → Agree S (f a) (g b)) : Agree S (x >>= f) (y >>= g) := by
  cases h with
  | ok related => exact hnext _ _ related
  | error e e' => exact .error e e'

theorem map {f : α → α'} {g : β → β'} (h : Agree R x y)
    (hnext : ∀ a b, R a b → S (f a) (g b)) : Agree S (x.map f) (y.map g) := by
  cases h with
  | ok related => exact .ok (hnext _ _ related)
  | error e e' => exact .error e e'

theorem mapError {f : ε → ε₁} {g : ε' → ε₁'} (h : Agree R x y) :
    Agree R (x.mapError f) (y.mapError g) := by
  cases h with
  | ok related => exact .ok related
  | error e e' => exact .error _ _

/-- The steps over two lists agree if they do so item by item. -/
theorem foldlM {T : γ → γ' → Prop} {f : α → γ → Except ε α} {g : β → γ' → Except ε' β}
    {xs : List γ} {ys : List γ'} (h : List.Forall₂ T xs ys)
    (hstep : ∀ a b x y, R a b → T x y → Agree R (f a x) (g b y)) {a : α} {b : β} (hab : R a b) :
    Agree R (xs.foldlM f a) (ys.foldlM g b) := by
  induction h generalizing a b with
  | nil => exact .ok hab
  | cons hxy _ ih =>
    rw [List.foldlM_cons, List.foldlM_cons]
    exact (hstep _ _ _ _ hab hxy).bind fun _ _ => ih

/-- What becomes of each item is what becomes of them all. -/
theorem mapM_map {p : γ → γ'} {q : α → β} {f : γ → Except ε α} {g : γ' → Except ε' β}
    (h : ∀ x, Agree (fun a b => b = q a) (f x) (g (p x))) (xs : List γ) :
    Agree (fun as bs => bs = as.map q) (xs.mapM f) ((xs.map p).mapM g) := by
  induction xs with
  | nil => exact .ok rfl
  | cons x xs ih =>
    rw [List.map_cons, List.mapM_cons, List.mapM_cons]
    refine (h x).bind ?_
    rintro a _ rfl
    refine ih.bind ?_
    rintro as _ rfl
    exact .ok rfl

end Agree
end MessageContract
