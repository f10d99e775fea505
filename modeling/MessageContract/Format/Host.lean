import MessageContract.Domain.Name
import MessageContract.Url.Host

/-!
# Host names

Addresses of machines and names of hosts. The international form of a name allows characters beyond
ASCII, some of them only beside or together with others.
-/

namespace MessageContract.Format

/-! ## Addresses -/

/-- Four decimal numbers below 256, without zeros in front. -/
def isIpv4 (cs : List Char) : Bool :=
  let parts := Text.splitAt '.' cs
  parts.length == 4 && parts.all fun p =>
    !p.isEmpty && p.length ≤ 3 && p.all Char.isDigit && !(p.head? == some '0' && 1 < p.length) &&
      ((Url.natural? 10 p).getD 256) < 256

def isIpv6 (cs : List Char) : Bool := (Url.ipv6? cs).isSome

/-! ## Names -/

private def isNameCharacter (c : Char) : Bool := c.isAlphanum || c == '-'

/-- Labels of letters, digits and inner hyphens. -/
def isHostname (cs : List Char) : Bool :=
  cs.length ≤ 253 && (Text.splitAt '.' cs).all fun l =>
    l.length ≤ 63 && !l.isEmpty && l.head? != some '-' && l.getLast? != some '-' &&
      l.all isNameCharacter

/-! ## International names -/

private def isWithin (low high : Nat) (c : Char) : Bool := low ≤ c.toNat && c.toNat ≤ high

private def isGreek (c : Char) : Bool := isWithin 0x370 0x3FF c || isWithin 0x1F00 0x1FFF c

private def isHebrew (c : Char) : Bool := isWithin 0x590 0x5FF c

/-- A character of the scripts among which a Japanese middle dot stands. -/
private def isJapanese (c : Char) : Bool :=
  isWithin 0x3040 0x30FF c && c.toNat != 0x30FB || isWithin 0x4E00 0x9FFF c

private def isArabicDigit (c : Char) : Bool := isWithin 0x660 0x669 c

private def isEasternDigit (c : Char) : Bool := isWithin 0x6F0 0x6F9 c

/-- A filler, a tone mark or a mark of repetition, which no name holds. -/
private def isBarred (c : Char) : Bool :=
  [0x640, 0x7FA, 0x302E, 0x302F, 0x303B].contains c.toNat || isWithin 0x3031 0x3035 c

/-- Whether a character may stand between its neighbours. -/
private def fits (before : Option Char) (c : Char) (behind : Option Char) : Bool :=
  match c.toNat with
  | 0x200D => before.any fun b => Combining.classOf b == Combining.silencing
  | 0xB7 => before == some 'l' && behind == some 'l'
  | 0x375 => behind.any isGreek
  | 0x5F3 => before.any isHebrew
  | 0x5F4 => before.any isHebrew
  | _ => !isBarred c

private def allFit : Option Char → List Char → Bool
  | _, [] => true
  | before, c :: rest => fits before c rest.head? && allFit (some c) rest

/-- Whether the characters of a name may stand where they stand and together. -/
def keepsContext (cs : List Char) : Bool :=
  allFit none cs && (!cs.contains '\u30FB' || cs.any isJapanese) &&
    !(cs.any isArabicDigit && cs.any isEasternDigit)

/-- A host name with characters of any script. -/
def isInternationalHostname (cs : List Char) : Bool :=
  match Domain.labels? ⟨fun c => c.toNat < 128 && !isNameCharacter c && c != '.', true⟩ cs with
  | some labels =>
    Domain.isShort (labels.map Domain.asciiLabel) && keepsContext (Domain.write labels)
  | none => false

end MessageContract.Format
