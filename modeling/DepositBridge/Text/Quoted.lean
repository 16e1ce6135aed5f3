import DepositBridge.Hex
import DepositBridge.Text.Printable

/-!
# Quoted text

How a message quotes a text or an octet string: in single quotes, or in double quotes when the text
holds single ones only; with escapes for what cannot be printed.
-/

namespace DepositBridge.Text

/-- The quote for a text: double when it holds a single quote and no double one. -/
def quoteMark (text : List Char) : Char :=
  if text.contains '\'' && !text.contains '"' then '"' else '\''

/-- One character inside quotes of the given kind. -/
def escapeChar (quote c : Char) : List Char :=
  if c = quote || c = '\\' then ['\\', c]
  else if c = '\n' then ['\\', 'n']
  else if c = '\r' then ['\\', 'r']
  else if c = '\t' then ['\\', 't']
  else if isPrintable c then [c]
  else
    let n := c.toNat
    if n < 0x100 then '\\' :: 'x' :: Hex.digitsPadded 2 n
    else if n < 0x10000 then '\\' :: 'u' :: Hex.digitsPadded 4 n
    else '\\' :: 'U' :: Hex.digitsPadded 8 n

/-- A text in quotes. -/
def quoteChars (text : List Char) : List Char :=
  let quote := quoteMark text
  quote :: text.flatMap (escapeChar quote) ++ [quote]

/-- A text in quotes. -/
def quote (text : String) : String := String.ofList (quoteChars text.toList)

/-- What stands for a text that is hidden: the same for all texts but the empty one. -/
def mask (text : String) : String := if text.isEmpty then "" else "**********"

/-- One octet inside quotes: ASCII is shown, all else escaped in two digits. -/
def escapeOctet (quote : Char) (b : UInt8) : List Char :=
  let c := Char.ofNat b.toNat
  if b.toNat < 128 then escapeChar quote c else '\\' :: 'x' :: Hex.digitsPadded 2 b.toNat

/-- An octet string in quotes behind the letter `b`. -/
def quoteOctets (bytes : Octets) : String :=
  let quote := quoteMark (bytes.map fun b => Char.ofNat b.toNat)
  String.ofList ('b' :: quote :: bytes.flatMap (escapeOctet quote) ++ [quote])

end DepositBridge.Text
