import MessageContract.Domain.Mapping
import MessageContract.Domain.Punycode
import MessageContract.Text.Split
import MessageContract.Unicode.Composition
import MessageContract.Unicode.Direction
import MessageContract.Unicode.Joining

/-!
# Domain names

A domain name consists of labels with full stops between them. A label with characters beyond ASCII
can be written in Punycode behind `xn--`. Every label has to consist of characters that may be there
in an order in which they may be.
-/

namespace MessageContract.Domain

/-- What more is asked of labels. -/
structure Rules where
  /-- ASCII characters that may not be there. -/
  denies : Char → Bool
  /-- Whether hyphens may stand only in places that are not set apart. -/
  checksHyphens : Bool

private def isAscii (c : Char) : Bool := c.toNat < 128

/-! ## Labels -/

/-- No hyphen at an end, and no two behind two characters. -/
def keepsHyphens (label : List Char) : Bool :=
  label.head? != some '-' && label.getLast? != some '-' && (label.drop 2).take 2 != ['-', '-']

/-- A mark belongs to the character before it. -/
def startsWithMark (label : List Char) : Bool := label.head?.any Category.mark.holds

/-- Whether the joiners in a label stand behind a sign that silences a vowel, or, if they keep
letters apart, between letters that would be joined; `before` is the start of the label in
reverse. -/
def keepsJoiners : List Char → List Char → Bool
  | _, [] => true
  | before, c :: behind =>
    keepsJoiners (c :: before) behind &&
      (!(c == '\u200C' || c == '\u200D') ||
        before.head?.any (fun b => Combining.classOf b == Combining.silencing) ||
        (c == '\u200C' && Joining.isJoined before behind))

/-- Whether a label does not mix directions. -/
def keepsDirection (label : List Char) : Bool :=
  match label with
  | [] => true
  | first :: tail =>
    let tail := (tail.map Direction.of).reverse.dropWhile (· == .mark)
    match Direction.of first with
    | .left =>
      tail.head?.all [.left, .europeanNumber].contains &&
        tail.all fun d => d != .right && d != .arabicNumber
    | .right =>
      tail.head?.all [.right, .europeanNumber, .arabicNumber].contains && tail.all (· != .left) &&
        !(tail.contains .europeanNumber && tail.contains .arabicNumber)
    | _ => false

/-- No label beyond ASCII is longer. -/
def longestLabel : Nat := 1000

/-- No Punycode is longer. -/
def longestPunycode : Nat := 2000

/-- Whether a label keeps the rules, directions apart. -/
def isLabel (rules : Rules) (label : List Char) : Bool :=
  (!rules.checksHyphens || keepsHyphens label) && !startsWithMark label && keepsJoiners [] label &&
    (label.all isAscii || label.length ≤ longestLabel)

/-! ## Names -/

def punycodeMark : List Char := "xn--".toList

/-- Whether a text is in the one form of its characters. -/
private def isMapped (cs : List Char) : Bool :=
  cs.all (fun c => image? c == some [c]) && Composition.composed cs == cs

/-- The label that Punycode stands for. -/
def ofPunycode? (rules : Rules) (cs : List Char) : Option (List Char) :=
  if !cs.all isAscii || cs.getLast? == some '-' || cs.isEmpty || longestPunycode < cs.length then
    none
  else (Punycode.decode? cs).filter fun label =>
    isMapped label && !label.any fun c => c == '.' || rules.denies c

/-- A label behind its own mark, if it has one. -/
def label? (rules : Rules) (cs : List Char) : Option (List Char) :=
  let label := match Text.after? punycodeMark cs with
    | some cs => ofPunycode? rules cs
    | none => some cs
  label.filter (isLabel rules)

private def isRightToLeft (c : Char) : Bool :=
  Direction.of c == .right || Direction.of c == .arabicNumber

/-- The labels of a domain name, none of them in Punycode. -/
def labels? (rules : Rules) (cs : List Char) : Option (List (List Char)) := do
  let mapped := Composition.composed (← cs.mapM image?).flatten
  if mapped.any rules.denies then none
  else
    let labels ← (Text.splitAt '.' mapped).mapM (label? rules)
    if labels.any (·.any isRightToLeft) && !labels.all keepsDirection then none else some labels

/-- A label in ASCII. -/
def asciiLabel (label : List Char) : List Char :=
  if label.all isAscii then label else punycodeMark ++ Punycode.encode label

/-- Labels as a domain name. -/
def write (labels : List (List Char)) : List Char := List.intercalate ['.'] labels

/-- Whether labels in ASCII are neither empty nor too long. -/
def isShort (labels : List (List Char)) : Bool :=
  labels.all (fun l => !l.isEmpty && l.length ≤ 63) && (write labels).length ≤ 253

end MessageContract.Domain
