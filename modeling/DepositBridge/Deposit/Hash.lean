import DepositBridge.Crypto.Keccak
import DepositBridge.Value

/-!
# The deposit hash

The leaf that the rollup inserts into its deposit tree: the hash of the recipient's commitment, the
token index and the amount, tightly packed. The packing is done on digits: a number that needs more
digits than its field has simply makes the text longer.
-/

namespace DepositBridge.DepositHash

/-- The digits of the packed fields: those of the commitment, at least eight of the index, at least
sixty-four of the amount; a zero in front when their number is odd. -/
def packedDigits (salt : Octets) (index amount : Nat) : List Char :=
  let digits := Hex.encodeChars salt ++ Hex.digitsPadded 8 index ++ Hex.digitsPadded 64 amount
  if digits.length % 2 = 1 then '0' :: digits else digits

/-- The octets that are hashed. -/
def packed (salt : Octets) (index amount : Nat) : Octets :=
  (Hex.decodePairs? (packedDigits salt index amount)).getD []

/-- The hash of a deposit. -/
def hash (salt : Octets) (index amount : Nat) : Octets := Keccak.hash (packed salt index amount)

/-- Why values have no deposit hash. -/
inductive Fault where
  /-- The commitment has no length. -/
  | noLength
  /-- The commitment's length is not thirty-two. -/
  | wrongLength (count : Nat)
  /-- The commitment is not octets, or a number is negative or no whole number. -/
  | unsuitable
  deriving DecidableEq, Repr

/-- The wording of a fault. -/
def Fault.message : Fault → String
  | .noLength => "the value has no length"
  | .wrongLength count => s!"pubkey salt hash must be 32 bytes, got {count}"
  | .unsuitable => "the values do not fit the packed types"

/-- The length of a value that has one. -/
def length? : Value → Option Nat
  | .text s => some s.length
  | .bytes octets => some octets.length
  | .list items => some items.length
  | .object members => some members.length
  | .hidden s => some s.length
  | _ => none

/-- The hash of a deposit given by loosely typed values. The length of the commitment is looked at
before anything else. -/
def ofValues (salt index amount : Value) : Except Fault Octets :=
  match length? salt with
  | none => .error .noLength
  | some 32 =>
    match salt, index, amount with
    | .bytes octets, .int index, .int amount =>
      if 0 ≤ index ∧ 0 ≤ amount then .ok (hash octets index.toNat amount.toNat)
      else .error .unsuitable
    | _, _, _ => .error .unsuitable
  | some count => .error (.wrongLength count)

end DepositBridge.DepositHash
