import MessageContract.Unicode.Property

/-!
# Quoted text for messages

A text in double quotes in which everything that does not show is written as an escape.
-/

namespace MessageContract

/-- Characters that do not show on their own: controls and what is not assigned, separators other
than the space, what may be ignored, and what continues the character before it. -/
def hidden : CharSet :=
  (Category.other ∪ Category.separator ∪ Property.defaultIgnorable ∪ Property.graphemeExtend) \
    .char ' '

def isHidden (c : Char) : Bool := hidden.holds c

/-- A number in base sixteen. -/
def hexadecimal (n : Nat) : String := String.ofList (Nat.toDigits 16 n)

/-- A character between double quotes. -/
def escapeForMessage (c : Char) : String :=
  if c == '"' then "\\\""
  else if c == '\\' then "\\\\"
  else if c == '\n' then "\\n"
  else if c == '\r' then "\\r"
  else if c == '\t' then "\\t"
  else if c.toNat == 0 then "\\0"
  else if isHidden c then "\\u\x7b" ++ hexadecimal c.toNat ++ "\x7d"
  else String.singleton c

def quoteForMessage (s : String) : String :=
  "\"" ++ String.join (s.toList.map escapeForMessage) ++ "\""

end MessageContract
