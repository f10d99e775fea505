import MessageContract.Json.Pointer
import MessageContract.Version

/-!
# Documents and messages

A document that was accepted: its version, its tree with references inlined, and the messages
declared under `components.messages`, in order.
-/

namespace MessageContract

structure Message where
  /-- The name under `components.messages`. -/
  key : String
  /-- The `messageId` of a 2.x message that has one, the key otherwise. -/
  id : String
  name : Option String
  schemaFormat : String
  /-- The payload as plain JSON Schema. -/
  payload : Option Json

/-- Whether a text is the id or the name of a message. -/
def Message.matches (m : Message) (key : String) : Bool := m.id == key || m.name == some key

structure Document where
  version : Version
  json : Json
  messages : List Message

namespace Document

/-- The text at `info.title`. -/
def title (d : Document) : Option String :=
  ((d.json.get? "info").bind (·.get? "title")).bind Json.asString?

/-- The first message with an id or name. -/
def find? (d : Document) (key : String) : Option Message := d.messages.find? (·.matches key)

end Document
end MessageContract
