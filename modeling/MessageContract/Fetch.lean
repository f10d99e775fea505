import MessageContract.World
import MessageContract.Location

/-!
# Fetching documents

The text behind a location: a file is read, an `http` or `https` URL is requested, with up to ten
redirections followed. A failure is told as it is.
-/

namespace MessageContract

/-- How requests are made. -/
structure FetchSettings where
  timeoutSeconds : Nat
  userAgent : String
  deriving DecidableEq, Repr

namespace FetchSettings

def default : FetchSettings := ⟨30, "aapi-parser/0.1.0"⟩

/-- A number of seconds: digits, which may have a plus sign, below `2 ^ 64`. -/
def seconds? (s : String) : Option Nat :=
  let cs := match s.toList with
    | '+' :: rest => rest
    | cs => cs
  if cs.isEmpty || !cs.all Char.isDigit then none
  else (Url.natural? 10 cs).filter (· < Nat.pow 2 64)

/-- The settings of an environment; a time that is no number is passed over. -/
def ofEnvironment (timeout userAgent : Option String) : FetchSettings :=
  ⟨(timeout.bind seconds?).getD default.timeoutSeconds, userAgent.getD default.userAgent⟩

/-- Whether the client's name can be sent. -/
def isSendable (s : FetchSettings) : Bool :=
  s.userAgent.toList.all fun c => c == '\t' || (32 ≤ c.toNat && c.toNat != 127)

end FetchSettings

/-- Why a request fails. -/
inductive HttpError
  | status (code : Nat) (url : String)
  | connect (url : String)
  | closed (url : String)
  | scheme (url : String)
  | redirects (url : String)
  | badAgent
  deriving DecidableEq, Repr

/-- The reason phrase of a status. -/
def reasonPhrase (code : Nat) : String :=
  match code with
  | 200 => "OK"
  | 204 => "No Content"
  | 301 => "Moved Permanently"
  | 302 => "Found"
  | 400 => "Bad Request"
  | 401 => "Unauthorized"
  | 403 => "Forbidden"
  | 404 => "Not Found"
  | 410 => "Gone"
  | 500 => "Internal Server Error"
  | 503 => "Service Unavailable"
  | _ => "Other"

namespace HttpError

def message : HttpError → String
  | status code url =>
    "HTTP status " ++ (if code < 500 then "client" else "server") ++ " error (" ++ toString code ++
      " " ++ reasonPhrase code ++ ") for url (" ++ url ++ ")"
  | connect url => "error sending request for url (" ++ url ++ ")"
  | closed url => "error sending request for url (" ++ url ++ ")"
  | scheme url => "builder error for url (" ++ url ++ ")"
  | redirects url => "error following redirect for url (" ++ url ++ ")"
  | badAgent => "builder error"

/-- What lies behind the failure, from the outside in. -/
def reasons : HttpError → List String
  | status _ _ => []
  | connect _ =>
    ["client error (Connect)", "tcp connect error", "Network is unreachable (os error 101)"]
  | closed _ => ["client error (SendRequest)", "connection closed before message completed"]
  | scheme _ => ["URL scheme is not allowed"]
  | redirects _ => ["too many redirects"]
  | badAgent => ["failed to parse header value"]

end HttpError

/-- Why a document cannot be had. -/
inductive FetchError
  | io (error : IoError)
  | http (error : HttpError)
  | url (error : UrlError)
  deriving DecidableEq, Repr

namespace FetchError

def message : FetchError → String
  | io e => e.message
  | http e => e.message
  | url e => e.message

/-- The message with what lies behind it. -/
def fullMessage : FetchError → String
  | http e => String.intercalate ": " (e.message :: e.reasons)
  | e => e.message

end FetchError

namespace World

/-- A URL as it is sent. -/
def requestUrl (u : Url) : Url := { u with userInfo := "" }

/-- Requests a URL; `hops` is the number of redirections that may still be followed. -/
def request (w : World) (settings : FetchSettings) : Nat → Url → Except FetchError String
  | hops, u =>
    let shown := (requestUrl u).write
    if u.scheme != "http" && u.scheme != "https" then .error (.http (.scheme shown))
    else
      match w.network with
      | .unreachable => .error (.http (.connect shown))
      | .serving pages =>
        if u.scheme == "https" then .error (.http (.connect shown))
        else
          match pages.find? (·.1 == (requestUrl u).withoutFragment.write) with
          | none => .error (.http (.status 404 shown))
          | some (_, r) =>
            if r.closes then .error (.http (.closed shown))
            else
              let target := if r.status == 301 || r.status == 302 then
                  r.redirect.bind fun t => (u.join t).toOption
                else none
              match target, hops with
              | some _, 0 => .error (.http (.redirects shown))
              | some t, hops + 1 => request w settings hops t
              | none, _ =>
                if 400 ≤ r.status && r.status < 600 then .error (.http (.status r.status shown))
                else if r.echoesAgent then .ok settings.userAgent
                else .ok (Utf8.decodeLossy r.body)
termination_by hops => hops

/-- The text behind a URL. -/
def fetchUrl (w : World) (settings : FetchSettings) (u : Url) : Except FetchError String :=
  if u.scheme == "file" then
    match u.filePath? with
    | some bytes => (w.readText ⟨bytes⟩).mapError .io
    | none => .error (.io (.notLocal u.write))
  else w.request settings 10 u

/-- The text behind a location. -/
def fetch (w : World) (settings : FetchSettings) : Location → Except FetchError String
  | .file path => (w.readText path).mapError .io
  | .url u => w.fetchUrl settings u
  | .inline => .error (.io .inMemory)

end World
end MessageContract
