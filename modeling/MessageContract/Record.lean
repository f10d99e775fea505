/-!
# Records

One way in which a payload fails its schema, in words.
-/

namespace MessageContract

structure Record where
  /-- The JSON Pointer of the failing value in the payload. -/
  instancePath : String
  /-- The JSON Pointer of the failing keyword in the schema. -/
  schemaPath : String
  keyword : String
  message : String
  deriving DecidableEq, Repr

def Record.write (r : Record) : String := "data" ++ r.instancePath ++ " " ++ r.message

/-- Records in one line. -/
def Record.summary (rs : List Record) : String :=
  if rs.isEmpty then "No errors" else String.intercalate ", " (rs.map write)

end MessageContract
