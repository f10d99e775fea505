/-!
# AsyncAPI versions
-/

namespace MessageContract

/-- A version of the AsyncAPI specification. -/
structure Version where
  major : Nat
  minor : Nat
  patch : Nat
  deriving DecidableEq, Repr

namespace Version

/-- The versions that are understood. -/
def supported : List Version :=
  [⟨2, 0, 0⟩, ⟨2, 1, 0⟩, ⟨2, 2, 0⟩, ⟨2, 3, 0⟩, ⟨2, 4, 0⟩, ⟨2, 5, 0⟩, ⟨2, 6, 0⟩, ⟨3, 0, 0⟩]

def write (v : Version) : String :=
  toString v.major ++ "." ++ toString v.minor ++ "." ++ toString v.patch

/-- The supported version with a text. -/
def ofText? (s : String) : Option Version := supported.find? (·.write == s)

/-- What is said of a text that names no supported version. -/
def unsupportedMessage (s : String) : String :=
  "version \"" ++ s ++ "\" is not supported; supported versions are " ++
    String.intercalate ", " (supported.map write)

def isV2 (v : Version) : Bool := v.major == 2
def isV3 (v : Version) : Bool := v.major == 3

/-- The schema format of messages that declare none. -/
def defaultFormat (v : Version) : String := "application/vnd.aai.asyncapi;version=" ++ v.write

end Version
end MessageContract
