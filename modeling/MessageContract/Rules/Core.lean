import MessageContract.Diagnostic
import MessageContract.Json.Basic
import MessageContract.Version

/-!
# Rules on the structure of a document

Which version a document declares, what the core rules demand of `info`, `channels` and
`components`, and what the recommended rules advise.
-/

namespace MessageContract.Rules

/-! ## The version -/

/-- The version a document declares. -/
def version (doc : Json) : Except Diagnostic Version :=
  match doc.get? "asyncapi" with
  | some (.str text) =>
    match Version.ofText? text with
    | some v => .ok v
    | none => .error (.error .isAsyncApi (Version.unsupportedMessage text) ["asyncapi"])
  | some _ => .error (.error .isAsyncApi "The \"asyncapi\" field must be a string." ["asyncapi"])
  | none =>
    .error (.error .isAsyncApi
      "This is not an AsyncAPI document. The \"asyncapi\" field as string is missing." [])

/-! ## Core rules -/

/-- A field of `info` that has to be a string. -/
def infoField (info : Members) (field : String) : List Diagnostic :=
  match info.get? field with
  | some (.str _) => []
  | _ => [.error .info ("\"info." ++ field ++ "\" is required and must be a string.")
      ["info", field]]

def info (doc : Json) : List Diagnostic :=
  match doc.get? "info" with
  | some (.obj ms) => infoField ms "title" ++ infoField ms "version"
  | some _ => [.error .info "\"info\" must be an object." ["info"]]
  | none => [.error .info "\"info\" property is required." []]

def channels (doc : Json) (v : Version) : List Diagnostic :=
  match doc.get? "channels" with
  | some (.obj _) => []
  | some _ => [.error .channels "\"channels\" must be an object." ["channels"]]
  | none =>
    if v.isV2 then [.error .channels "\"channels\" property is required." []] else []

/-- The declared messages; none if `components` or its `messages` is no object. -/
def messages (doc : Json) : Members :=
  (((doc.get? "components").bind (·.get? "messages")).bind Json.asMembers?).getD []

def components (doc : Json) : List Diagnostic :=
  match doc.get? "components" with
  | none => []
  | some (.obj ms) =>
    match Members.get? ms "messages" with
    | none => []
    | some (.obj _) => []
    | some _ => [.error .components "\"components.messages\" must be an object."
        ["components", "messages"]]
  | some _ => [.error .components "\"components\" must be an object." ["components"]]

/-- The path of a message. -/
def messagePath (key : String) : List String := ["components", "messages", key]

/-- A message has to be an object, its payload an object or a boolean. -/
def messageShape (key : String) (message : Json) : List Diagnostic :=
  match message with
  | .obj ms =>
    match Members.get? ms "payload" with
    | none => []
    | some payload =>
      if payload.isObject || payload.isBool then []
      else [.error .messagePayload
        ("Payload of message \"" ++ key ++ "\" must be a schema object or boolean.")
        (messagePath key ++ ["payload"])]
  | _ => [.error .components ("Message \"" ++ key ++ "\" must be an object.") (messagePath key)]

/-- The `messageId` of a message. -/
def messageId? (message : Json) : Option String := (message.get? "messageId").bind Json.asString?

/-- What is said of a `messageId` that an earlier message has. -/
def repeatedId (key id earlier : String) : Diagnostic :=
  .error .messageIdUniqueness
    ("\"messageId\" must be unique across all the messages: \"" ++ id ++ "\" is also used by \"" ++
      earlier ++ "\".")
    (messagePath key ++ ["messageId"])

/-- The messages whose `messageId` one of the messages before them has; `earlier` holds ids and
keys, the nearest message first. -/
def repeatedIds : List (String × String) → List (String × Json) → List Diagnostic
  | _, [] => []
  | earlier, (key, message) :: rest =>
    match messageId? message with
    | none => repeatedIds earlier rest
    | some id =>
      let others := repeatedIds ((id, key) :: earlier) rest
      match earlier.lookup id with
      | some other => repeatedId key id other :: others
      | none => others

/-- All core rules. -/
def core (doc : Json) (v : Version) : List Diagnostic :=
  let ms := messages doc
  info doc ++ channels doc v ++ components doc ++ ms.flatMap (fun m => messageShape m.1 m.2) ++
    if v.isV2 then repeatedIds [] ms else []

/-! ## Recommended rules -/

/-- The recommended rules; their findings are warnings. -/
def recommended (doc : Json) : List Diagnostic :=
  match doc.get? "info" with
  | some (.obj ms) =>
    (match Members.get? ms "description" with
      | some (.str _) => []
      | _ => [.warning .infoDescription
          "Info \"description\" should be present and non-empty string." ["info"]]) ++
    (if (Members.get? ms "contact").isSome then []
      else [.warning .infoContact "Info object should contain \"contact\" object." ["info"]])
  | _ => []

end MessageContract.Rules
