import MessageContract.Proofs.Json.Quotation
import MessageContract.Schema.Report
import Mathlib.Data.List.Basic

/-!
# The names of missing properties

A message names a missing property by its text in quotes, with the quotes trimmed off. Trimming
leaves the escapes as they are, and takes one quote more where the name ends in one
(`Violation.unquote_quote`, `Violation.unquote_quote_concat`). So a message has the name itself
exactly if the name needs no escapes, and still tells names apart (`Violation.describe_required`).
-/

namespace MessageContract.Violation

open Json

variable {cs : List Char}

/-! ## Trimming -/

/-- All quotes around a text go whose ends are no quotes. -/
theorem unquote_replicate (hhead : cs.head? ≠ some '"') (hlast : cs.getLast? ≠ some '"') (n : Nat) :
    unquote (String.ofList ('"' :: cs ++ List.replicate n '"')) = String.ofList cs := by
  have hend : (List.replicate n '"' ++ cs.reverse).dropWhile (· == '"') = cs.reverse := by
    rw [List.dropWhile_append_of_pos (by simp)]
    rw [← List.head?_reverse] at hlast
    cases hcs : cs.reverse with
    | nil => rfl
    | cons d ds =>
      rw [hcs, List.head?_cons, ne_eq, Option.some.injEq] at hlast
      exact List.dropWhile_cons_of_neg (by simpa using hlast)
  have hstart : ('"' :: cs ++ List.replicate n '"').dropWhile (· == '"') =
      if cs = [] then [] else cs ++ List.replicate n '"' := by
    cases cs with
    | nil => simp
    | cons d ds =>
      rw [List.head?_cons, ne_eq, Option.some.injEq] at hhead
      rw [List.cons_append, List.dropWhile_cons_of_pos (by simp), List.cons_append,
        List.dropWhile_cons_of_neg (by simpa using hhead)]
      rfl
  simp only [unquote, String.toList_ofList, hstart]
  by_cases hcs : cs = []
  · rw [if_pos hcs, hcs]
    rfl
  · rw [if_neg hcs, List.reverse_append, List.reverse_replicate, hend, List.reverse_reverse]

/-! ## Names in quotes -/

theorem head?_escape (c : Char) : ∃ d, (escape c).head? = some d ∧ d ≠ '"' := by
  cases h : isVerbatim c with
  | true =>
    rw [escape_of_isVerbatim h]
    simp only [isVerbatim, Bool.and_eq_true, bne_iff_ne] at h
    exact ⟨c, rfl, h.1.1⟩
  | false =>
    obtain ⟨d, ds, hescape, -⟩ := readEscape_escape h
    rw [hescape]
    exact ⟨'\\', rfl, by decide⟩

/-- Only the escape of a quote ends in a quote. -/
theorem getLast?_escape {c : Char} (hc : c ≠ '"') :
    ∃ d, (escape c).getLast? = some d ∧ d ≠ '"' := by
  cases h : isVerbatim c with
  | true =>
    rw [escape_of_isVerbatim h]
    exact ⟨c, rfl, hc⟩
  | false =>
    have hcontrol : ∀ n < 32, (escape (Char.ofNat n)).getLast?.any (· != '"') := by decide
    obtain rfl | rfl | ⟨n, hn, rfl⟩ := eq_of_not_isVerbatim h
    · exact absurd rfl hc
    · exact ⟨'\\', rfl, by decide⟩
    · obtain ⟨d, hlast, hd⟩ := (Option.any_eq_true _ _).mp (hcontrol n hn)
      exact ⟨d, hlast, by simpa using hd⟩

theorem head?_flatMap_escape (cs : List Char) : (cs.flatMap escape).head? ≠ some '"' := by
  cases cs with
  | nil => simp
  | cons c cs =>
    obtain ⟨d, hd, hne⟩ := head?_escape c
    simp [List.head?_append, hd, hne]

/-- The text of a name that does not end in a quote is what stands between the quotes. -/
theorem unquote_quote {name : String} (hlast : name.toList.getLast? ≠ some '"') :
    unquote (quote name) = String.ofList (name.toList.flatMap escape) := by
  refine unquote_replicate (head?_flatMap_escape _) ?_ 1
  obtain hnil | ⟨cs, c, hcs⟩ := List.eq_nil_or_concat' name.toList
  · simp [hnil]
  · rw [hcs, List.getLast?_concat, ne_eq, Option.some.injEq] at hlast
    obtain ⟨d, hd, hne⟩ := getLast?_escape hlast
    simp [hcs, List.getLast?_append, hd, hne]

/-- The quote at the end of a name goes as well, and leaves its backslash behind. -/
theorem unquote_quote_concat {name : String} (hname : name.toList = cs ++ ['"']) :
    unquote (quote name) = String.ofList (cs.flatMap escape ++ ['\\']) := by
  have hquote : quote name =
      String.ofList ('"' :: (cs.flatMap escape ++ ['\\']) ++ List.replicate 2 '"') := by
    simp [quote, hname, escape, List.replicate]
  have hhead : (cs.flatMap escape ++ ['\\']).head? ≠ some '"' := by
    have hcs := head?_flatMap_escape cs
    cases h : cs.flatMap escape with
    | nil => simp
    | cons d ds => simpa [h] using hcs
  rw [hquote]
  exact unquote_replicate hhead (by simp) 2

/-! ## Messages -/

/-- A name without quotes, backslashes and control characters. -/
def isPlainName (name : String) : Bool := name.toList.all isVerbatim

theorem flatMap_escape_eq_self_iff : cs.flatMap escape = cs ↔ cs.all isVerbatim = true := by
  have hlength : ∀ ds : List Char, ds.length ≤ (ds.flatMap escape).length := by
    intro ds
    induction ds with
    | nil => exact Nat.le_refl 0
    | cons d ds ih =>
      obtain ⟨e, he, -⟩ := head?_escape d
      have hpos : 0 < (escape d).length := List.length_pos_of_mem (List.mem_of_mem_head? he)
      simp only [List.flatMap_cons, List.length_append, List.length_cons]
      omega
  induction cs with
  | nil => simp
  | cons c cs ih =>
    cases h : isVerbatim c with
    | true => simpa [escape_of_isVerbatim h, h] using ih
    | false =>
      obtain ⟨d, ds, hescape, -⟩ := readEscape_escape h
      have hmore := hlength cs
      constructor
      · intro heq
        have hsame := congrArg List.length heq
        simp only [List.flatMap_cons, hescape, List.length_append, List.length_cons] at hsame
        omega
      · simp [h]

theorem unquote_quote_eq_self_iff (name : String) :
    unquote (quote name) = name ↔ isPlainName name = true := by
  obtain hlast | hlast := Decidable.em (name.toList.getLast? = some '"')
  · obtain ⟨cs, hcs⟩ := List.getLast?_eq_some_iff.1 hlast
    rw [unquote_quote_concat hcs, ← String.toList_inj, String.toList_ofList, hcs, isPlainName, hcs]
    constructor
    · intro h
      exact absurd (List.append_inj_right' h rfl) (by decide)
    · simp [isVerbatim]
  · rw [unquote_quote hlast, ← String.toList_inj, String.toList_ofList, isPlainName,
      flatMap_escape_eq_self_iff]

/-- Trimmed texts still tell names apart: one that lost a quote ends in half an escape. -/
theorem unquote_quote_injective {a b : String} (h : unquote (quote a) = unquote (quote b)) :
    a = b := by
  rw [← String.toList_inj]
  obtain ha | ha := Decidable.em (a.toList.getLast? = some '"') <;>
    obtain hb | hb := Decidable.em (b.toList.getLast? = some '"')
  · obtain ⟨as, has⟩ := List.getLast?_eq_some_iff.1 ha
    obtain ⟨bs, hbs⟩ := List.getLast?_eq_some_iff.1 hb
    rw [unquote_quote_concat has, unquote_quote_concat hbs, String.ofList_inj] at h
    rw [has, hbs, flatMap_escape_injective (List.append_cancel_right h)]
  · obtain ⟨as, has⟩ := List.getLast?_eq_some_iff.1 ha
    rw [unquote_quote_concat has, unquote_quote hb, String.ofList_inj] at h
    exact absurd h.symm flatMap_escape_ne_dangling
  · obtain ⟨bs, hbs⟩ := List.getLast?_eq_some_iff.1 hb
    rw [unquote_quote ha, unquote_quote_concat hbs, String.ofList_inj] at h
    exact absurd h flatMap_escape_ne_dangling
  · rw [unquote_quote ha, unquote_quote hb, String.ofList_inj] at h
    exact flatMap_escape_injective h

/-- What is said of a missing property. -/
def missingMessage (name : String) : String := "must have required property '" ++ name ++ "'"

theorem missingMessage_injective {a b : String} (h : missingMessage a = missingMessage b) :
    a = b := by
  have hfront := (String.append_left_inj "'").1 h
  exact (String.append_right_inj "must have required property '").1 hfront

/-- The message about a missing property has its name if and only if the name needs no escapes, and
in all cases messages about different names differ. -/
theorem describe_required (schema : Json) (spot : Spot) (path : List String) (name : String) :
    (describe schema ⟨.required name, spot, path⟩ = missingMessage name ↔
        isPlainName name = true) ∧
      (unquote (quote name) = name ↔ isPlainName name = true) ∧
      ∀ schema' spot' path' other,
        describe schema ⟨.required name, spot, path⟩ =
          describe schema' ⟨.required other, spot', path'⟩ → name = other := by
  have hdescribe : ∀ schema spot path name, describe schema ⟨.required name, spot, path⟩ =
      missingMessage (unquote (quote name)) := by
    intro schema spot path name
    unfold missingMessage
    simp only [describe]
  refine ⟨?_, unquote_quote_eq_self_iff name, ?_⟩
  · rw [hdescribe, ← unquote_quote_eq_self_iff]
    exact ⟨missingMessage_injective, congrArg missingMessage⟩
  · intro schema' spot' path' other h
    rw [hdescribe, hdescribe] at h
    exact unquote_quote_injective (missingMessage_injective h)

/-- A name with a quote inside is told with a backslash that it does not have. -/
theorem describe_required_quoted :
    let v : Violation := ⟨.required "a\"b", ⟨.obj [], []⟩, ["required"]⟩
    describe (.obj []) v = missingMessage "a\\\"b" ∧
      describe (.obj []) v ≠ missingMessage "a\"b" := by
  decide

end MessageContract.Violation
