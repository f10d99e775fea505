import MessageContract.Json.Basic
import MessageContract.Decimal.Shortest

/-!
# Writing JSON

The compact text of a value, and the indented text with one member to a line.
-/

namespace MessageContract

/-- Doubles in JSON text: positional from `0.00001` up to sixteen digits before the point. -/
def Layout.json : Layout := ⟨4, 16, true, true⟩

/-- Doubles without exponent and without `.0`. -/
def Layout.positional : Layout := ⟨400, 400, false, false⟩

def Number.write : Number → String
  | .int n => toString n
  | .double d => d.write .json

namespace Json

def hexDigit (n : Nat) : Char :=
  if n < 10 then Char.ofNat (48 + n) else Char.ofNat (87 + n)

/-- A character inside a string: the quote, the backslash and the control characters are
escaped. -/
def escape (c : Char) : List Char :=
  if c == '"' then ['\\', '"']
  else if c == '\\' then ['\\', '\\']
  else if c == '\n' then ['\\', 'n']
  else if c == '\r' then ['\\', 'r']
  else if c == '\t' then ['\\', 't']
  else if c.toNat == 8 then ['\\', 'b']
  else if c.toNat == 12 then ['\\', 'f']
  else if c.toNat < 32 then
    ['\\', 'u', '0', '0', hexDigit (c.toNat / 16), hexDigit (c.toNat % 16)]
  else [c]

/-- A string in quotes. -/
def quote (s : String) : String :=
  String.ofList ('"' :: s.toList.flatMap escape ++ ['"'])

mutual

/-- The compact text of a value. -/
def write : Json → String
  | .null => "null"
  | .bool b => if b then "true" else "false"
  | .num n => n.write
  | .str s => quote s
  | .arr items => "[" ++ writeItems items ++ "]"
  | .obj ms => "\x7b" ++ writeMembers ms ++ "\x7d"

/-- Items separated by commas. -/
def writeItems : List Json → String
  | [] => ""
  | [v] => v.write
  | v :: rest => v.write ++ "," ++ writeItems rest

/-- Members separated by commas. -/
def writeMembers : List (String × Json) → String
  | [] => ""
  | [(k, v)] => quote k ++ ":" ++ v.write
  | (k, v) :: rest => quote k ++ ":" ++ v.write ++ "," ++ writeMembers rest

end

private def margin (n : Nat) : String := String.ofList (List.replicate (2 * n) ' ')

mutual

/-- The indented text of a value that stands `n` levels deep. -/
def prettyAt (n : Nat) : Json → String
  | .arr [] => "[]"
  | .obj [] => "\x7b\x7d"
  | .arr items => "[\n" ++ prettyItems (n + 1) items ++ "\n" ++ margin n ++ "]"
  | .obj ms => "\x7b\n" ++ prettyMembers (n + 1) ms ++ "\n" ++ margin n ++ "\x7d"
  | v => v.write

def prettyItems (n : Nat) : List Json → String
  | [] => ""
  | [v] => margin n ++ prettyAt n v
  | v :: rest => margin n ++ prettyAt n v ++ ",\n" ++ prettyItems n rest

def prettyMembers (n : Nat) : List (String × Json) → String
  | [] => ""
  | [(k, v)] => margin n ++ quote k ++ ": " ++ prettyAt n v
  | (k, v) :: rest => margin n ++ quote k ++ ": " ++ prettyAt n v ++ ",\n" ++ prettyMembers n rest

end

/-- The indented text of a value. -/
def pretty (v : Json) : String := v.prettyAt 0

end Json
end MessageContract
