import MessageContract.SchemaFormat.OpenApi
import MessageContract.Text.Blank
import MessageContract.Text.Split

/-!
# Schema formats

A message names the format its payload is written in. A format recognises a family of identifiers
and converts schemas into plain JSON Schema; a registry is asked in its order.
-/

namespace MessageContract

/-- A format: its name, the identifiers it covers, and its conversion. -/
structure SchemaFormat where
  name : String
  supports : String → Bool
  convert : Json → Except String Json

namespace SchemaFormat

/-- An identifier without blanks and in lower case. -/
def normalizeId (id : String) : String :=
  String.ofList ((id.toList.filter (!isBlank ·)).map Char.toLower)

/-- What may follow the name of a format before its parameters. -/
def encodings : List (List Char) := [[], "+json".toList, "+yaml".toList]

/-- What stands before the first semicolon. -/
def beforeSemicolon (cs : List Char) : List Char := cs.takeWhile (· != ';')

/-- Whether an identifier names AsyncAPI schema objects or JSON Schema. -/
def isNativeId (id : String) : Bool :=
  ["application/vnd.aai.asyncapi", "application/schema"].any fun head =>
    match Text.after? head.toList id.toList with
    | some rest => encodings.contains (beforeSemicolon rest)
    | none => false

/-- Whether an identifier names schema objects of OpenAPI 3.0. -/
def isOpenApiId (id : String) : Bool :=
  match Text.after? "application/vnd.oai.openapi".toList id.toList with
  | none => false
  | some rest =>
    match Text.cut? ";version=".toList rest with
    | some (media, version) =>
      encodings.contains media && (Text.after? "3.0".toList version).isSome
    | none => encodings.contains rest

/-- AsyncAPI schema objects and JSON Schema itself, taken as they are. -/
def native : SchemaFormat := ⟨"asyncapi", isNativeId, .ok⟩

/-- Schema objects of OpenAPI 3.0. -/
def openApi : SchemaFormat := ⟨"openapi", isOpenApiId, fun schema => .ok (OpenApi.convert schema)⟩

end SchemaFormat

/-- Formats in the order in which they are asked. -/
abbrev Registry := List SchemaFormat

namespace Registry

/-- Native schemas and OpenAPI. -/
def default : Registry := [.native, .openApi]

/-- The first format that covers an identifier. -/
def find? (r : Registry) (id : String) : Option SchemaFormat :=
  List.find? (fun f => f.supports (SchemaFormat.normalizeId id)) r

end Registry
end MessageContract
