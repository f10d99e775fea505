import MessageContract.Format.Mail
import MessageContract.Format.Time
import MessageContract.Regex.Search
import MessageContract.Uri.Basic

/-!
# Formats of strings

The formats that have a name, and what each asks of a text. A format that has no name here asks for
nothing.
-/

namespace MessageContract

/-- A named format. -/
inductive Format
  | date
  | dateTime
  | time
  | email
  | idnEmail
  | hostname
  | idnHostname
  | ipv4
  | ipv6
  | uri
  | uriReference
  | iri
  | iriReference
  | uriTemplate
  | jsonPointer
  | relativeJsonPointer
  | regex
  | uuid
  | duration
  deriving DecidableEq, Repr

namespace Format

/-- The format with a name. -/
def ofName? (name : String) : Option Format :=
  match name with
  | "date" => some date
  | "date-time" => some dateTime
  | "time" => some time
  | "email" => some email
  | "idn-email" => some idnEmail
  | "hostname" => some hostname
  | "idn-hostname" => some idnHostname
  | "ipv4" => some ipv4
  | "ipv6" => some ipv6
  | "uri" => some uri
  | "uri-reference" => some uriReference
  | "iri" => some iri
  | "iri-reference" => some iriReference
  | "uri-template" => some uriTemplate
  | "json-pointer" => some jsonPointer
  | "relative-json-pointer" => some relativeJsonPointer
  | "regex" => some regex
  | "uuid" => some uuid
  | "duration" => some duration
  | _ => none

/-! ## Pointers -/

private def goodEscapes : List Char → Bool
  | [] => true
  | '~' :: '0' :: rest => goodEscapes rest
  | '~' :: '1' :: rest => goodEscapes rest
  | '~' :: _ => false
  | _ :: rest => goodEscapes rest

def isPointer (cs : List Char) : Bool := (cs.isEmpty || cs.head? == some '/') && goodEscapes cs

/-- A count of steps up, then `#` or a pointer. -/
def isRelativePointer (cs : List Char) : Bool :=
  let up := cs.takeWhile Char.isDigit
  let rest := cs.drop up.length
  !up.isEmpty && (up.head? != some '0' || up.length == 1) && (rest == ['#'] || isPointer rest)

/-! ## Templates -/

/-- A character of a template outside the braces, escapes apart. -/
private def isPlain (c : Char) : Bool :=
  32 < c.toNat && !("\"'<>%\\^\x60\x7b|\x7d".toList.contains c)

private def isLowerHex (c : Char) : Bool := c.isDigit || ('a' ≤ c && c ≤ 'f')

/-- The rest behind the name of a variable; `some'` says whether a character was read. -/
private def afterName? : Bool → List Char → Option (List Char)
  | _, '%' :: a :: b :: rest => if isLowerHex a && isLowerHex b then afterName? true rest else none
  | some', c :: rest =>
    if c.isDigit || c.isLower || c == '_' then afterName? true rest
    else if some' then some (c :: rest) else none
  | some', [] => if some' then some [] else none

/-- The rest behind a length or a star. -/
private def afterModifier? (cs : List Char) : Option (List Char) :=
  match cs with
  | '*' :: rest => some rest
  | ':' :: rest =>
    let digits := rest.takeWhile Char.isDigit
    if digits.isEmpty || digits.head? == some '0' || 4 < digits.length then none
    else some (rest.drop digits.length)
  | rest => some rest

/-- A list of variables without its braces. -/
private def isExpression (cs : List Char) : Bool :=
  let cs := match cs with
    | c :: rest => if "+#./;?&=,!@|".toList.contains c then rest else c :: rest
    | [] => []
  (Text.splitAt ',' cs).all fun v => ((afterName? false v).bind afterModifier?) == some []

/-- Text with expressions in braces. -/
def isTemplate : Nat → List Char → Bool
  | 0, _ => false
  | _, [] => true
  | fuel + 1, '%' :: a :: b :: rest => isLowerHex a && isLowerHex b && isTemplate fuel rest
  | fuel + 1, '\x7b' :: rest =>
    let inside := rest.takeWhile (· != '\x7d')
    inside.length < rest.length && isExpression inside &&
      isTemplate fuel (rest.drop (inside.length + 1))
  | fuel + 1, c :: rest => isPlain c && isTemplate fuel rest

/-! ## Identifiers -/

/-- Five groups of digits of base sixteen with hyphens between them. -/
def isUuid (cs : List Char) : Bool :=
  let groups := Text.splitAt '-' cs
  groups.map List.length == [8, 4, 4, 4, 12] &&
    groups.all (·.all fun c => (Url.hexDigit? c).isSome)

/-! ## All formats -/

private def isUri (international absolute : Bool) (s : String) : Bool :=
  (Uri.parse ⟨international⟩ absolute s).toOption.isSome

/-- Whether a text has a format. -/
def accepts (f : Format) (s : String) : Bool :=
  let cs := s.toList
  match f with
  | date => isDate cs
  | dateTime => isDateTime cs
  | time => isTime cs
  | email => isMail isHostname cs
  | idnEmail => isMail isInternationalHostname cs
  | hostname => isHostname cs
  | idnHostname => isInternationalHostname cs
  | ipv4 => isIpv4 cs
  | ipv6 => isIpv6 cs
  | uri => isUri false true s
  | uriReference => isUri false false s
  | iri => isUri true true s
  | iriReference => isUri true false s
  | uriTemplate => isTemplate (cs.length + 1) cs
  | jsonPointer => isPointer cs
  | relativeJsonPointer => isRelativePointer cs
  | regex => Regex.isPattern s
  | uuid => isUuid cs
  | duration => isDuration cs

end Format
end MessageContract
