import DepositBridge.Crypto.Keccak
import DepositBridge.Crypto.Secp256k1
import DepositBridge.Hex

/-!
# Addresses

Accounts and contracts. An address is twenty octets; its text is their hexadecimal form, in which
the case of the letters carries a checksum. Reading ignores the case.
-/

namespace DepositBridge

/-- The twenty octets of an account or a contract. -/
structure Address where
  octets : Octets
  length_eq : octets.length = 20

namespace Address

instance : DecidableEq Address := fun a b =>
  if h : a.octets = b.octets then
    isTrue (by cases a; cases b; cases h; rfl)
  else isFalse fun e => h (e ▸ rfl)

/-- The address all of whose octets are zero. -/
def zero : Address := ⟨List.replicate 20 0, by decide⟩

instance : Inhabited Address := ⟨zero⟩

/-- The address of twenty octets. -/
def ofOctets? (octets : Octets) : Option Address :=
  if h : octets.length = 20 then some ⟨octets, h⟩ else none

/-- The address that a text writes: forty digits in either case, with or without one mark. The whole
text is matched with that pattern and nothing else: a checksum in the case of the letters is
written, but never checked, so `0x71d5770391817aCE9E5517adB3D8963ED872bB82` is read although it
would be written as `0x71D5770391817Ace9E5517aDb3d8963ED872bb82`. -/
def ofText? (text : String) : Option Address :=
  (Hex.decodePairs? (Hex.dropMark text.toList)).bind ofOctets?

/-! ## The checksum -/

/-- The halves of octets, the high one first. -/
def nibbles : Octets → List Nat
  | [] => []
  | b :: rest => b.toNat / 16 :: b.toNat % 16 :: nibbles rest

/-- Digits whose letters are capitals where the hash has a half of eight or more. -/
def applyCase (digits : List Char) (hash : List Nat) : List Char :=
  digits.zipWith (fun c n => if n ≥ 8 then c.toUpper else c) hash

/-- The digits of an address with the checksum in their case. -/
def digits (address : Address) : List Char :=
  let plain := Hex.encodeChars address.octets
  applyCase plain (nibbles (Keccak.hash (plain.map fun c => UInt8.ofNat c.toNat)))

/-- The text of an address. -/
def text (address : Address) : String := String.ofList ('0' :: 'x' :: address.digits)

/-- The address that owns a key. -/
def ofKey (key : Nat) : Address :=
  (ofOctets? ((Keccak.hash (Secp256k1.publicKey key)).drop 12)).getD zero

end Address

end DepositBridge
