import MessageContract.Proofs.Schema.Draft7
import MessageContract.SchemaFormat.OpenApi

/-!
# Idioms of schemas

What a schema object asks for by itself is said in an idiom: that of Draft 7 (`Draft7.idiom`) or that
of OpenAPI 3.0 (`OpenApi.idiom`), where `nullable: true` lets `null` pass the type and the
enumeration, and a boolean exclusive flag makes the bound beside it strict. The keywords that apply
schemas are the same in both.
-/

namespace MessageContract

open Draft7 (Keywords)

/-- What schema objects ask for by themselves, and the keywords that it rests on. -/
structure Idiom where
  keywords : List String
  admits : Keywords → Json → Bool
  admits_congr : ∀ {ks ks'}, (∀ k ∈ keywords, ks' k = ks k) → admits ks' = admits ks

namespace Draft7

/-- The keywords whose values say the same in both idioms. -/
def commonKeywords : List String :=
  "contentEncoding" :: "contentMediaType" :: assertions.map (·.1)

/-- The keywords that say something by themselves. -/
def ownKeywords : List String :=
  ["type", "enum", "minimum", "exclusiveMinimum", "maximum", "exclusiveMaximum"] ++ commonKeywords

theorem common_congr {ks ks' : Keywords} (h : ∀ k ∈ commonKeywords, ks' k = ks k) :
    common ks' = common ks := by
  have hall : ∀ l : List (String × (Json → Json → Bool)), (∀ a ∈ l, ks' a.1 = ks a.1) → ∀ v,
      (l.all fun a => (ks' a.1).all (a.2 · v)) = l.all fun a => (ks a.1).all (a.2 · v) := by
    intro l hl v
    induction l with
    | nil => rfl
    | cons a l ih =>
      rw [List.all_cons, List.all_cons, hl a List.mem_cons_self,
        ih fun a' ha' => hl a' (List.mem_cons_of_mem _ ha')]
  funext v
  rw [common, common, h "contentEncoding" List.mem_cons_self,
    h "contentMediaType" (List.mem_cons_of_mem _ List.mem_cons_self),
    hall assertions fun a ha => h a.1
      (List.mem_cons_of_mem _ (List.mem_cons_of_mem _ (List.mem_map.2 ⟨a, ha, rfl⟩)))]

/-- The idiom of Draft 7. -/
def idiom : Idiom where
  keywords := ownKeywords
  admits := admits
  admits_congr := by
    intro ks ks' h
    have hcommon := common_congr fun k hk => h k (List.mem_append_right _ hk)
    funext v
    simp only [admits, hcommon, h "type" (by decide), h "enum" (by decide),
      h "minimum" (by decide), h "exclusiveMinimum" (by decide), h "maximum" (by decide),
      h "exclusiveMaximum" (by decide)]

end Draft7

namespace OpenApi

def hasNull (ks : Keywords) : Bool :=
  match ks "nullable" with
  | some (.bool true) => true
  | _ => false

/-- Whether a bound holds, strictly if the flag beside it says so; what is no flag is a bound of its
own. -/
def isWithin (bound exclusive : Option Json) (loose strict : Json → Json → Bool) (v : Json) : Bool :=
  match exclusive with
  | some (.bool true) => bound.all (strict · v)
  | some (.bool false) => bound.all (loose · v)
  | limit => bound.all (loose · v) && limit.all (strict · v)

/-- What a schema object of OpenAPI 3.0 asks for by itself. -/
def admits (ks : Keywords) (v : Json) : Bool :=
  (hasNull ks && v.isNull ||
    (ks "type").all (Draft7.hasType · v) && (ks "enum").all (Draft7.isListed · v)) &&
  isWithin (ks "minimum") (ks "exclusiveMinimum") Draft7.isAtLeast Draft7.isAbove v &&
  isWithin (ks "maximum") (ks "exclusiveMaximum") Draft7.isAtMost Draft7.isBelow v &&
  Draft7.common ks v

/-- The idiom of OpenAPI 3.0. -/
def idiom : Idiom where
  keywords := "nullable" :: Draft7.ownKeywords
  admits := admits
  admits_congr := by
    intro ks ks' h
    have hown : ∀ k ∈ Draft7.ownKeywords, ks' k = ks k := fun k hk =>
      h k (List.mem_cons_of_mem _ hk)
    have hcommon := Draft7.common_congr fun k hk => hown k (List.mem_append_right _ hk)
    funext v
    simp only [admits, hasNull, hcommon, h "nullable" (by decide), hown "type" (by decide),
      hown "enum" (by decide), hown "minimum" (by decide), hown "exclusiveMinimum" (by decide),
      hown "maximum" (by decide), hown "exclusiveMaximum" (by decide)]

end OpenApi
end MessageContract
