import MessageContract.Url.Host

/-!
# URLs

A URL in parts, each as it is written. Without a host the path may be rootless, as in `urn:a:b`:
then nothing can be resolved against the URL.
-/

namespace MessageContract

structure Url where
  scheme : String
  /-- User name and password with their punctuation, or nothing. -/
  userInfo : String
  host : Option String
  port : Option Nat
  path : String
  rootless : Bool
  query : Option String
  fragment : Option String
  deriving DecidableEq, Repr

namespace Url

/-- How a scheme treats authority and path. -/
inductive Kind
  | file
  | special
  | plain
  deriving DecidableEq, Repr

def kindOf (scheme : String) : Kind :=
  if scheme == "file" then .file
  else if ["http", "https", "ws", "wss", "ftp"].contains scheme then .special
  else .plain

/-- The port that need not be written. -/
def defaultPort? (scheme : String) : Option Nat :=
  if scheme == "http" || scheme == "ws" then some 80
  else if scheme == "https" || scheme == "wss" then some 443
  else if scheme == "ftp" then some 21
  else none

/-- The text of a URL. -/
def write (u : Url) : String :=
  let authority :=
    match u.host with
    | some h => "//" ++ u.userInfo ++ h ++ (u.port.map fun p => ":" ++ toString p).getD ""
    | none =>
      if u.scheme == "file" then "//"
      else if !u.rootless && u.path.startsWith "//" then "/." else ""
  u.scheme ++ ":" ++ authority ++ u.path ++ (u.query.map ("?" ++ ·)).getD "" ++
    (u.fragment.map ("#" ++ ·)).getD ""

def withoutFragment (u : Url) : Url := { u with fragment := none }

end Url
end MessageContract
