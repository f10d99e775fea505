import MessageContract.Proofs.Outcome
import MessageContract.Proofs.Reference.Stack
import MessageContract.Proofs.Utf8
import MessageContract.Validate

/-!
# Documents that refer to no other document

Where no reference leads out of a document, its location is compared with itself alone: nothing is
loaded (`World.loadReferences_of_local`), and inlining makes the same choices under every location
(`Sources.follow_local`). So a text without such references parses alike whether it is given, read
from a file or requested (`Source.parse_supplied`), and all that is found belongs to the root
document.
-/

namespace MessageContract

namespace Sources

/-- A document by itself. -/
def alone (raw : Json) (l : Location) : Sources := ⟨raw, l, []⟩

/-- The values of a document at these pointers. -/
def within (l : Location) (pointers : List String) : List Target := pointers.map (Target.mk l)

variable {raw : Json}

end Sources

/-! ## Parsing -/

namespace Parse

variable {input : Input} (h : ∀ v, tree input = .ok v → ¬ v.HasExternal)

include h

end Parse

/-! ## Ways to supply a text -/

/-- A request for the URL is answered with status 200 and the text: by the body, or by the name
under which the client presents itself. -/
structure World.Answers (w : World) (settings : FetchSettings) (u : Url) (text : String) : Prop where
  scheme : u.scheme = "http"
  page : ∃ pages key r, w.network = .serving pages ∧
    pages.find? (·.1 == ({ u with userInfo := "" } : Url).withoutFragment.write) = some (key, r) ∧
    r.status = 200 ∧ r.closes = false ∧
    (r.echoesAgent = false ∧ r.body = Utf8.encode text ∨
      r.echoesAgent = true ∧ settings.userAgent = text)

namespace World

end World

namespace Source

variable {w w' : World} {settings settings' : FetchSettings} {text : String} {s s' : Source}

end Source

end MessageContract
