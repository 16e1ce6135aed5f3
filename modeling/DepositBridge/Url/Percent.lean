import DepositBridge.Hex
import DepositBridge.Text.Utf8

/-!
# Percent encoding

Octets that a part of a URL may not hold as they are stand behind a percent sign.
-/

namespace DepositBridge.Url.Percent

/-- What the parts of a URL encode besides controls and everything beyond ASCII. -/
structure Part where
  encoded : List Char

/-- The fragment. -/
def Part.fragment : Part := ⟨[' ', '"', '<', '>', '\x60']⟩

/-- A query of the web schemes. -/
def Part.query : Part := ⟨[' ', '"', '#', '<', '>', '\'']⟩

/-- A segment of a path. -/
def Part.path : Part := ⟨Part.fragment.encoded ++ ['#', '?', '\x7b', '\x7d']⟩

/-- A user name or a password. -/
def Part.userInfo : Part :=
  ⟨Part.path.encoded ++ ['/', ':', ';', '=', '@', '[', '\\', ']', '^', '|']⟩

/-- The percent form of an octet, in capital digits. -/
def encodeOctet (b : UInt8) : List Char :=
  ['%', (Hex.digit (b.toNat / 16)).toUpper, (Hex.digit (b.toNat % 16)).toUpper]

/-- One character of a part. -/
def encodeChar (part : Part) (c : Char) : List Char :=
  if c.toNat < 32 || c.toNat ≥ 127 || part.encoded.contains c then
    (Text.encodeChar c).flatMap encodeOctet
  else [c]

/-- The text of a part. -/
def encode (part : Part) (text : List Char) : List Char := text.flatMap (encodeChar part)

/-- The octets that a text stands for. A percent sign without two digits behind it stands for
itself. -/
def decode : List Char → Octets
  | [] => []
  | '%' :: a :: b :: rest =>
    match Hex.value? a, Hex.value? b with
    | some high, some low => UInt8.ofNat (16 * high + low) :: decode rest
    | _, _ => Text.encodeChar '%' ++ decode (a :: b :: rest)
  | c :: rest => Text.encodeChar c ++ decode rest

end DepositBridge.Url.Percent
