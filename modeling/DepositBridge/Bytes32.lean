import DepositBridge.Value

/-!
# Words of thirty-two octets

Hashes and keys as callers give them: thirty-two octets, or their hexadecimal text.
-/

namespace DepositBridge

/-- Why a value is no word of thirty-two octets. -/
inductive Bytes32.Fault where
  /-- A text is not hexadecimal. -/
  | malformed (text : String)
  /-- The octets are not thirty-two. -/
  | wrongLength (count : Nat)
  /-- The value is neither text nor octets. -/
  | wrongKind
  deriving DecidableEq, Repr

namespace Bytes32

/-- The wording of a fault. -/
def Fault.message : Fault → String
  | .malformed text => "Invalid hex hash: " ++ Text.quote text
  | .wrongLength count => s!"Expected a 32-byte hash, got {count} bytes"
  | .wrongKind => "Expected text or octets"

/-- Octets that are thirty-two. -/
def ofOctets (octets : Octets) : Except Fault Octets :=
  if octets.length = 32 then .ok octets else .error (.wrongLength octets.length)

/-- The word that a text writes: one mark `0x` or `0X` may stand in front, and blanks around the
pairs of digits. -/
def ofText (text : String) : Except Fault Octets :=
  match Hex.decodeSpaced? (Hex.dropMark text.toList) with
  | some octets => ofOctets octets
  | none => .error (.malformed text)

/-- The word that a value gives. -/
def ofValue : Value → Except Fault Octets
  | .bytes octets => ofOctets octets
  | .text text => ofText text
  | _ => .error .wrongKind

end Bytes32

end DepositBridge
