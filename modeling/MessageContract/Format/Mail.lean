import MessageContract.Format.Host
import MessageContract.Unicode.Property

/-!
# Mail addresses

A mail address may carry a name in front of it and its domain may be an address in brackets.
-/

namespace MessageContract.Format

private def oneOf (s : String) (c : Char) : Bool := s.toList.contains c

/-- Characters of a word in an address. -/
def isAtomic (c : Char) : Bool :=
  Property.alphabetic.holds c || Category.number.holds c || oneOf "!#$%&'*+-/=?^_\x60\x7b|\x7d~" c

def isAtom (cs : List Char) : Bool := !cs.isEmpty && cs.all isAtomic

/-- The inside of a quoted local part. -/
def isQuotedContent : List Char → Bool
  | [] => true
  | ['\\'] => false
  | '\\' :: c :: rest => '!' ≤ c && c ≤ '~' && isQuotedContent rest
  | c :: rest => (c == '\t' || (' ' ≤ c && c ≤ '~' && c != '"')) && isQuotedContent rest

private def bytes (cs : List Char) : Nat := cs.foldl (fun n c => n + c.utf8Size) 0

/-- What stands before the `@`: words with dots between them, or a quoted text. -/
def isLocalPart (cs : List Char) : Bool :=
  !cs.isEmpty && bytes cs ≤ 64 &&
    if cs.head? == some '"' && cs.getLast? == some '"' then
      2 < cs.length && isQuotedContent ((cs.drop 1).dropLast)
    else (Text.splitAt '.' cs).all isAtom

/-- The inside of a domain in brackets. -/
def literal? (cs : List Char) : Option (List Char) :=
  if cs.head? == some '[' && cs.getLast? == some ']' && 1 < cs.length then
    some ((cs.drop 1).dropLast)
  else none

/-- A domain; `named` says which names are host names. -/
def isDomain (named : List Char → Bool) (cs : List Char) : Bool :=
  bytes cs ≤ 254 &&
    match literal? cs with
    | some inside =>
      match Text.after? "IPv6:".toList inside with
      | some address => isIpv6 address
      | none => isIpv4 inside
    | none => (Text.splitAt '.' cs).all (fun l => bytes l ≤ 63 && isAtom l) && named cs

private def blank (c : Char) : Bool := Property.whiteSpace.holds c

/-- The address behind the last ` <`, or the whole text. -/
def address? (cs : List Char) : Option (List Char) :=
  match Text.cut? "< ".toList cs.reverse with
  | none => some cs
  | some (behind, _) =>
    match behind.dropWhile blank with
    | '>' :: rest => some (rest.reverse.dropWhile blank)
    | _ => none

/-- A mail address; `named` says which domains are host names. -/
def isMail (named : List Char → Bool) (cs : List Char) : Bool :=
  match address? cs with
  | none => false
  | some a =>
    let domain := (a.reverse.takeWhile (· != '@')).reverse
    a.contains '@' && isLocalPart (a.take (a.length - domain.length - 1)) && isDomain named domain

end MessageContract.Format
