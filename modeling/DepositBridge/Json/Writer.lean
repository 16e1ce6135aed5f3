import DepositBridge.Value

/-!
# Writing JSON

Values as JSON text in ASCII: characters beyond ASCII are escaped, those beyond the first plane as
surrogate pairs. Octet strings have no JSON form of their own and are written as hexadecimal text,
hidden texts as their masks.
-/

namespace DepositBridge.Json

/-- The escape of a code unit. -/
def escapeUnit (n : Nat) : List Char := '\\' :: 'u' :: Hex.digitsPadded 4 n

/-- One character of a string. -/
def escapeChar (c : Char) : List Char :=
  if c = '"' then ['\\', '"']
  else if c = '\\' then ['\\', '\\']
  else if c = '\n' then ['\\', 'n']
  else if c = '\r' then ['\\', 'r']
  else if c = '\t' then ['\\', 't']
  else if c = '\x08' then ['\\', 'b']
  else if c = '\x0c' then ['\\', 'f']
  else
    let n := c.toNat
    if 32 ≤ n ∧ n < 127 then [c]
    else if n < 0x10000 then escapeUnit n
    else escapeUnit (0xd800 + (n - 0x10000) / 0x400) ++ escapeUnit (0xdc00 + (n - 0x10000) % 0x400)

/-- A string in double quotes. -/
def writeString (text : String) : List Char :=
  '"' :: text.toList.flatMap escapeChar ++ ['"']

/-- A number in double precision: its fewest digits, or the word for what is none. -/
def writeFloat : Binary64 → List Char
  | .nan => "NaN".toList
  | .infinite negative => (if negative then "-Infinity" else "Infinity").toList
  | .finite negative significand exponent =>
    (Binary64.finite negative significand exponent).text.toList

mutual

/-- The text of a value, with a blank behind each comma and colon. -/
def write : Value → List Char
  | .null => "null".toList
  | .bool true => "true".toList
  | .bool false => "false".toList
  | .int n => (toString n).toList
  | .float x => writeFloat x
  | .text s => writeString s
  | .bytes octets => writeString (Hex.encodeMarked octets)
  | .list [] => ['[', ']']
  | .list (v :: rest) => '[' :: write v ++ writeItems rest
  | .object [] => ['\x7b', '\x7d']
  | .object ((name, v) :: rest) =>
    '\x7b' :: writeString name ++ ':' :: ' ' :: write v ++ writeMembers rest
  | .hidden s => writeString (Text.mask s)

/-- The items of a list behind its first one, and the closing bracket. -/
def writeItems : List Value → List Char
  | [] => [']']
  | v :: rest => ',' :: ' ' :: write v ++ writeItems rest

/-- The members of an object behind its first one, and the closing brace. -/
def writeMembers : List (String × Value) → List Char
  | [] => ['\x7d']
  | (name, v) :: rest =>
    ',' :: ' ' :: writeString name ++ ':' :: ' ' :: write v ++ writeMembers rest

end

end DepositBridge.Json
