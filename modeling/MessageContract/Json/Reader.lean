import MessageContract.Json.Basic
import MessageContract.Text.Utf8

/-!
# Reading JSON text

The text is read left to right; the first fault ends the reading. Faults name a line and a column,
where a column counts the bytes since the line's start. Arrays and objects nest at most 127 deep.
Numbers outside the 64-bit integers become doubles from their first digits and a power of ten.
-/

namespace MessageContract.Json

/-- What can be wrong with a text. -/
inductive Fault
  | eofInList
  | eofInObject
  | eofInString
  | eofInValue
  | expectedColon
  | expectedListEnd
  | expectedObjectEnd
  | expectedWord
  | expectedValue
  | invalidEscape
  | invalidNumber
  | numberOutOfRange
  | controlCharacter
  | keyNotString
  | loneSurrogate
  | trailingComma
  | trailingCharacters
  | brokenSurrogatePair
  | tooDeep
  deriving DecidableEq, Repr

def Fault.message : Fault → String
  | eofInList => "EOF while parsing a list"
  | eofInObject => "EOF while parsing an object"
  | eofInString => "EOF while parsing a string"
  | eofInValue => "EOF while parsing a value"
  | expectedColon => "expected \x60:\x60"
  | expectedListEnd => "expected \x60,\x60 or \x60]\x60"
  | expectedObjectEnd => "expected \x60,\x60 or \x60\x7d\x60"
  | expectedWord => "expected ident"
  | expectedValue => "expected value"
  | invalidEscape => "invalid escape"
  | invalidNumber => "invalid number"
  | numberOutOfRange => "number out of range"
  | controlCharacter => "control character (\\u0000-\\u001F) found while parsing a string"
  | keyNotString => "key must be a string"
  | loneSurrogate => "lone leading surrogate in hex escape"
  | trailingComma => "trailing comma"
  | trailingCharacters => "trailing characters"
  | brokenSurrogatePair => "unexpected end of hex escape"
  | tooDeep => "recursion limit exceeded"

/-- A fault and its place. -/
structure ReadError where
  fault : Fault
  line : Nat
  column : Nat
  deriving DecidableEq, Repr

def ReadError.message (e : ReadError) : String :=
  e.fault.message ++ " at line " ++ toString e.line ++ " column " ++ toString e.column

/-- The text still to be read, and the place reached. -/
structure Cursor where
  rest : List Char
  line : Nat
  column : Nat

namespace Cursor

/-- Past the next character. -/
def next (c : Cursor) : Cursor :=
  match c.rest with
  | [] => c
  | ch :: rest =>
    if ch == '\n' then ⟨rest, c.line + 1, 0⟩ else ⟨rest, c.line, c.column + ch.utf8Size⟩

/-- A fault at the place reached. -/
def fail (c : Cursor) (fault : Fault) : ReadError := ⟨fault, c.line, c.column⟩

/-- A fault at the next byte. -/
def failNext (c : Cursor) (fault : Fault) : ReadError :=
  match c.rest with
  | [] => c.fail fault
  | ch :: _ => if ch == '\n' then ⟨fault, c.line + 1, 0⟩ else ⟨fault, c.line, c.column + 1⟩

/-- The place after `n` more bytes, which may lie inside a character. -/
def placeAfter : Nat → Cursor → Nat × Nat
  | 0, c => (c.line, c.column)
  | n + 1, c =>
    match c.rest with
    | [] => (c.line, c.column)
    | ch :: rest =>
      if ch == '\n' then placeAfter n ⟨rest, c.line + 1, 0⟩
      else if ch.utf8Size ≤ n + 1 then
        placeAfter (n + 1 - ch.utf8Size) ⟨rest, c.line, c.column + ch.utf8Size⟩
      else (c.line, c.column + n + 1)
termination_by n => n
decreasing_by
  · omega
  · have : 0 < ch.utf8Size := ch.utf8Size_pos
    omega

/-- The end of the text. -/
def toEnd (c : Cursor) : Cursor :=
  match c with
  | ⟨[], line, column⟩ => ⟨[], line, column⟩
  | ⟨ch :: rest, line, column⟩ =>
    if ch == '\n' then toEnd ⟨rest, line + 1, 0⟩ else toEnd ⟨rest, line, column + ch.utf8Size⟩
termination_by c.rest.length

/-- Past the blanks that may stand between tokens. -/
def skipBlank (c : Cursor) : Cursor :=
  match c with
  | ⟨[], line, column⟩ => ⟨[], line, column⟩
  | ⟨ch :: rest, line, column⟩ =>
    if ch == '\n' then skipBlank ⟨rest, line + 1, 0⟩
    else if ch == ' ' || ch == '\t' || ch == '\r' then skipBlank ⟨rest, line, column + 1⟩
    else ⟨ch :: rest, line, column⟩
termination_by c.rest.length

end Cursor

/-! ## Words and strings -/

/-- Reads the remaining letters of a word. -/
def readWord : List Char → Cursor → Except ReadError Cursor
  | [], c => .ok c
  | w :: ws, c =>
    match c.rest with
    | [] => .error (c.fail .eofInValue)
    | ch :: _ => if ch == w then readWord ws c.next
      else
        let (line, column) := c.placeAfter 1
        .error ⟨.expectedWord, line, column⟩

def hexValue? (c : Char) : Option Nat :=
  if '0' ≤ c ∧ c ≤ '9' then some (c.toNat - 48)
  else if 'a' ≤ c ∧ c ≤ 'f' then some (c.toNat - 87)
  else if 'A' ≤ c ∧ c ≤ 'F' then some (c.toNat - 55)
  else none

def bytesLeft (c : Cursor) : Nat := c.rest.foldl (fun n ch => n + ch.utf8Size) 0

/-- Reads the four digits of a `\u` escape. -/
def readHex (c : Cursor) : Except ReadError (Nat × Cursor) :=
  if bytesLeft c < 4 then .error (c.toEnd.fail .eofInString)
  else
    match (c.rest.take 4).mapM hexValue? with
    | some [a, b, d, e] =>
      .ok (((a * 16 + b) * 16 + d) * 16 + e, c.next.next.next.next)
    | _ =>
      let (line, column) := c.placeAfter 4
      .error ⟨.invalidEscape, line, column⟩

/-- Reads the second half of a surrogate pair. -/
def readLowSurrogate (high : Nat) (c : Cursor) : Except ReadError (Char × Cursor) := do
  let expect (ch : Char) (c : Cursor) : Except ReadError Cursor :=
    match c.rest with
    | [] => .error (c.fail .eofInString)
    | x :: _ => if x == ch then .ok c.next
      else
        let (line, column) := c.placeAfter 1
        .error ⟨.brokenSurrogatePair, line, column⟩
  let c ← expect '\\' c
  let c ← expect 'u' c
  let (low, c) ← readHex c
  if low < 0xDC00 || 0xDFFF < low then .error (c.fail .loneSurrogate)
  else .ok (Char.ofNat ((high - 0xD800) * 1024 + (low - 0xDC00) + 0x10000), c)

/-- Reads what follows a backslash. -/
def readEscape (c : Cursor) : Except ReadError (Char × Cursor) := do
  match c.rest with
  | [] => .error (c.fail .eofInString)
  | '"' :: _ => .ok ('"', c.next)
  | '\\' :: _ => .ok ('\\', c.next)
  | '/' :: _ => .ok ('/', c.next)
  | 'b' :: _ => .ok (Char.ofNat 8, c.next)
  | 'f' :: _ => .ok (Char.ofNat 12, c.next)
  | 'n' :: _ => .ok ('\n', c.next)
  | 'r' :: _ => .ok ('\r', c.next)
  | 't' :: _ => .ok ('\t', c.next)
  | 'u' :: _ =>
    let (n, c) ← readHex c.next
    if 0xDC00 ≤ n && n ≤ 0xDFFF then .error (c.fail .loneSurrogate)
    else if n < 0xD800 || 0xDBFF < n then .ok (Char.ofNat n, c)
    else readLowSurrogate n c
  | _ =>
    let (line, column) := c.placeAfter 1
    .error ⟨.invalidEscape, line, column⟩

/-- Reads a string after its opening quote; `acc` holds the characters so far, last first. -/
def readString : Nat → List Char → Cursor → Except ReadError (String × Cursor)
  | 0, _, c => .error (c.fail .eofInString)
  | fuel + 1, acc, c =>
    match c.rest with
    | [] => .error (c.fail .eofInString)
    | '"' :: _ => .ok (String.ofList acc.reverse, c.next)
    | '\\' :: _ => do
      let (ch, c) ← readEscape c.next
      readString fuel (ch :: acc) c
    | ch :: _ =>
      if ch.toNat < 32 then .error (c.next.fail .controlCharacter)
      else readString fuel (ch :: acc) c.next

/-! ## Numbers -/

private def isDigit (c : Char) : Bool := '0' ≤ c && c ≤ '9'
private def digitOf (c : Char) : Nat := c.toNat - 48

/-- The largest number that digits are collected into. -/
def maxDigits : Nat := Nat.pow 2 64 - 1

/-- Takes digits while the number stays below the limit; counts them. -/
def takeDigits : Nat → Nat → Nat → Cursor → Nat × Nat × Cursor
  | 0, n, count, c => (n, count, c)
  | fuel + 1, n, count, c =>
    match c.rest with
    | ch :: _ =>
      if isDigit ch && n * 10 + digitOf ch ≤ maxDigits then
        takeDigits fuel (n * 10 + digitOf ch) (count + 1) c.next
      else (n, count, c)
    | [] => (n, count, c)

/-- Passes digits over; counts them. -/
def skipDigits : Nat → Nat → Cursor → Nat × Cursor
  | 0, count, c => (count, c)
  | fuel + 1, count, c =>
    match c.rest with
    | ch :: _ => if isDigit ch then skipDigits fuel (count + 1) c.next else (count, c)
    | [] => (count, c)

private def startsWithDigit (c : Cursor) : Bool :=
  match c.rest with
  | ch :: _ => isDigit ch
  | [] => false

private def startsWithExponent (c : Cursor) : Bool :=
  match c.rest with
  | ch :: _ => ch == 'e' || ch == 'E'
  | [] => false

/-- `10 ^ n` as a double. -/
def powerOfTen (n : Nat) : Double := .ofDecimal false 1 n

/-- Divides by `10 ^ 308` until the exponent is small enough for one more division. -/
def scaleDown : Nat → Double → Nat → Double
  | 0, d, _ => d
  | fuel + 1, d, n =>
    if n ≤ 308 then d.div (powerOfTen n)
    else if d.isZero then d
    else scaleDown fuel (d.div (powerOfTen 308)) (n - 308)

/-- The double for `digits · 10 ^ exponent`, where digits and power are rounded before they are
combined; `none` if it is too large. -/
def doubleOf? (negative : Bool) (digits : Nat) (exponent : Int) : Option Double :=
  let d := Double.ofInt digits
  let magnitude : Option Double :=
    if 0 ≤ exponent then
      if 308 < exponent then (if d.isZero then some d else none)
      else
        let r := d.mul (powerOfTen exponent.toNat)
        if r.isInfinite then none else some r
    else some (scaleDown 8 d exponent.natAbs)
  magnitude.map fun d => if negative then d.neg else d

private def finish (negative : Bool) (digits : Nat) (exponent : Int) (c : Cursor) :
    Except ReadError (Number × Cursor) :=
  match doubleOf? negative digits exponent with
  | some d => .ok (.double d, c)
  | none => .error (c.fail .numberOutOfRange)

/-- The largest exponent that is read. -/
def maxExponent : Nat := Nat.pow 2 31 - 1

/-- Reads the digits of an exponent up to the limit; `none` in place of the exponent if the next
digit would pass it. -/
def takeExponent : Nat → Nat → Cursor → Option Nat × Cursor
  | 0, n, c => (some n, c)
  | fuel + 1, n, c =>
    match c.rest with
    | ch :: _ =>
      if isDigit ch then
        if n * 10 + digitOf ch ≤ maxExponent then
          takeExponent fuel (n * 10 + digitOf ch) c.next
        else (none, c.next)
      else (some n, c)
    | [] => (some n, c)

/-- Reads an exponent after its `e`. -/
def readExponent (fuel : Nat) (negative : Bool) (digits : Nat) (start : Int) (c : Cursor) :
    Except ReadError (Number × Cursor) :=
  let (down, c) :=
    match c.rest with
    | '+' :: _ => (false, c.next)
    | '-' :: _ => (true, c.next)
    | _ => (false, c)
  match c.rest with
  | [] => .error (c.fail .eofInValue)
  | ch :: _ =>
    if !isDigit ch then
      let (line, column) := c.placeAfter 1
      .error ⟨.invalidNumber, line, column⟩
    else
      match takeExponent fuel (digitOf ch) c.next with
      | (some e, c) => finish negative digits (if down then start - e else start + e) c
      | (none, c) =>
        if digits != 0 && !down then .error (c.fail .numberOutOfRange)
        else .ok (.double (.zero negative), (skipDigits fuel 0 c).2)

/-- Reads a fraction after its point. -/
def readFraction (fuel : Nat) (negative : Bool) (digits : Nat) (start : Int) (c : Cursor) :
    Except ReadError (Number × Cursor) :=
  let (digits, count, c) := takeDigits fuel digits 0 c
  let overflow := startsWithDigit c
  if count == 0 && !overflow then
    match c.rest with
    | [] => .error (c.fail .eofInValue)
    | _ => .error (c.failNext .invalidNumber)
  else
    let c := (skipDigits fuel 0 c).2
    let exponent := start - count
    if startsWithExponent c then readExponent fuel negative digits exponent c.next
    else finish negative digits exponent c

/-- Reads a number after its sign. -/
def readNumber (fuel : Nat) (negative : Bool) (c : Cursor) : Except ReadError (Number × Cursor) :=
  match c.rest with
  | [] => .error (c.fail .eofInValue)
  | ch :: _ =>
    if !isDigit ch then
      let (line, column) := c.placeAfter 1
      .error ⟨.invalidNumber, line, column⟩
    else if ch == '0' && startsWithDigit c.next then .error (c.next.failNext .invalidNumber)
    else
      let (digits, _, c) := takeDigits fuel 0 0 c
      let (dropped, c) := skipDigits fuel 0 c
      match c.rest with
      | '.' :: _ => readFraction fuel negative digits dropped c.next
      | 'e' :: _ => readExponent fuel negative digits dropped c.next
      | 'E' :: _ => readExponent fuel negative digits dropped c.next
      | _ =>
        if dropped != 0 then finish negative digits dropped c
        else if !negative then .ok (.int digits, c)
        else if digits == 0 || Nat.pow 2 63 < digits then .ok (.double (.neg (.ofInt digits)), c)
        else .ok (.int (-digits), c)

/-! ## Values -/

mutual

/-- Reads a value; `depth` is the number of brackets that may still be opened. -/
def readValue (fuel depth : Nat) (c : Cursor) : Except ReadError (Json × Cursor) :=
  match fuel with
  | 0 => .error (c.fail .eofInValue)
  | fuel + 1 =>
    let c := c.skipBlank
    match c.rest with
    | [] => .error (c.fail .eofInValue)
    | 'n' :: _ => (readWord "ull".toList c.next).map fun c => (.null, c)
    | 't' :: _ => (readWord "rue".toList c.next).map fun c => (.bool true, c)
    | 'f' :: _ => (readWord "alse".toList c.next).map fun c => (.bool false, c)
    | '"' :: _ => (readString (c.rest.length + 1) [] c.next).map fun (s, c) => (.str s, c)
    | '-' :: _ => (readNumber (c.rest.length + 1) true c.next).map fun (n, c) => (.num n, c)
    | '[' :: _ =>
      match depth with
      | 0 => .error (c.failNext .tooDeep)
      | depth + 1 => (readItems fuel depth true [] c.next).map fun (vs, c) => (.arr vs, c)
    | '{' :: _ =>
      match depth with
      | 0 => .error (c.failNext .tooDeep)
      | depth + 1 => (readMembers fuel depth true [] c.next).map fun (ms, c) => (.obj ms, c)
    | ch :: _ =>
      if isDigit ch then
        (readNumber (c.rest.length + 1) false c).map fun (n, c) => (.num n, c)
      else .error (c.failNext .expectedValue)

/-- Reads the items of an array up to its bracket; `acc` holds those before, last first. -/
def readItems (fuel depth : Nat) (first : Bool) (acc : List Json) (c : Cursor) :
    Except ReadError (List Json × Cursor) :=
  match fuel with
  | 0 => .error (c.fail .eofInList)
  | fuel + 1 =>
    let c := c.skipBlank
    let item (c : Cursor) : Except ReadError (List Json × Cursor) := do
      let (v, c) ← readValue fuel depth c
      readItems fuel depth false (v :: acc) c
    match c.rest with
    | [] => .error (c.fail .eofInList)
    | ']' :: _ => .ok (acc.reverse, c.next)
    | ',' :: _ =>
      if first then item c
      else
        let c := c.next.skipBlank
        match c.rest with
        | [] => .error (c.fail .eofInValue)
        | ']' :: _ => .error (c.failNext .trailingComma)
        | _ => item c
    | _ => if first then item c else .error (c.failNext .expectedListEnd)

/-- Reads the members of an object up to its brace. -/
def readMembers (fuel depth : Nat) (first : Bool) (acc : Members) (c : Cursor) :
    Except ReadError (Members × Cursor) :=
  match fuel with
  | 0 => .error (c.fail .eofInObject)
  | fuel + 1 =>
    let c := c.skipBlank
    let member (c : Cursor) : Except ReadError (Members × Cursor) := do
      let (k, c) ← readString (c.rest.length + 1) [] c.next
      let c := c.skipBlank
      match c.rest with
      | [] => .error (c.fail .eofInObject)
      | ':' :: _ =>
        let (v, c) ← readValue fuel depth c.next
        readMembers fuel depth false (acc.insert k v) c
      | _ => .error (c.failNext .expectedColon)
    match c.rest with
    | [] => .error (c.fail .eofInObject)
    | '}' :: _ => .ok (acc, c.next)
    | '"' :: _ => if first then member c else .error (c.failNext .expectedObjectEnd)
    | ',' :: _ =>
      if first then .error (c.failNext .keyNotString)
      else
        let c := c.next.skipBlank
        match c.rest with
        | [] => .error (c.fail .eofInValue)
        | '"' :: _ => member c
        | '}' :: _ => .error (c.failNext .trailingComma)
        | _ => .error (c.failNext .keyNotString)
    | _ => .error (c.failNext (if first then .keyNotString else .expectedObjectEnd))

end

/-- Reads a text that holds one value and blanks around it. -/
def read (text : String) : Except ReadError Json := do
  let c : Cursor := ⟨text.toList, 1, 0⟩
  let (v, c) ← readValue (2 * c.rest.length + 2) 127 c
  let c := c.skipBlank
  match c.rest with
  | [] => .ok v
  | _ => .error (c.failNext .trailingCharacters)

end MessageContract.Json
