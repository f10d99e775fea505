import MessageContract.Location

/-!
# Equality of locations

Files are one if their components are, URLs if their texts are, so what counts as one location is an
equivalence.
-/

namespace MessageContract

namespace Location

theorem beq_file (p q : FilePath) :
    (Location.file p == Location.file q) = true ↔ p.components = q.components :=
  beq_iff_eq (α := List Component)

theorem beq_url (u v : Url) : (Location.url u == Location.url v) = true ↔ u.write = v.write :=
  beq_iff_eq (α := String)

theorem beq_refl (l : Location) : (l == l) = true := by
  cases l with
  | file p => exact (beq_file p p).2 rfl
  | url u => exact (beq_url u u).2 rfl
  | inline => rfl

theorem beq_symm {a b : Location} (h : (a == b) = true) : (b == a) = true := by
  cases a with
  | file p =>
    cases b with
    | file q => exact (beq_file q p).2 ((beq_file p q).1 h).symm
    | _ => cases h
  | url u =>
    cases b with
    | url v => exact (beq_url v u).2 ((beq_url u v).1 h).symm
    | _ => cases h
  | inline =>
    cases b with
    | inline => exact h
    | _ => cases h

theorem beq_trans {a b c : Location} (h : (a == b) = true) (h' : (b == c) = true) :
    (a == c) = true := by
  cases b with
  | file q =>
    cases a with
    | file p =>
      cases c with
      | file r => exact (beq_file p r).2 (((beq_file p q).1 h).trans ((beq_file q r).1 h'))
      | _ => cases h'
    | _ => cases h
  | url v =>
    cases a with
    | url u =>
      cases c with
      | url x => exact (beq_url u x).2 (((beq_url u v).1 h).trans ((beq_url v x).1 h'))
      | _ => cases h'
    | _ => cases h
  | inline =>
    cases a with
    | inline => exact h'
    | _ => cases h

instance : EquivBEq Location where
  symm := beq_symm
  trans := beq_trans
  rfl := beq_refl _

end Location

end MessageContract
