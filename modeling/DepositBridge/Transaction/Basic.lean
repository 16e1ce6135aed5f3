import DepositBridge.Crypto.Keccak
import DepositBridge.Crypto.Secp256k1
import DepositBridge.Rlp

/-!
# Transactions

A transaction before it is signed, in one of three forms, and the octets of the signed one.
-/

namespace DepositBridge

/-- An address and the storage places of it that a transaction touches, as numbers of a type. -/
structure AccessEntry (Number : Type) where
  address : Octets
  places : List Number

namespace Transaction

/-- How the gas of a transaction is paid; the numbers are in base units. -/
inductive Pricing (Number : Type) where
  /-- A price per unit of gas. -/
  | plain (gasPrice : Number)
  /-- A price per unit of gas, with the places that are touched. -/
  | listed (gasPrice : Number) (accessList : List (AccessEntry Number))
  /-- A tip and a limit per unit of gas, with the places that are touched. -/
  | dynamic (tip limit : Number) (accessList : List (AccessEntry Number))

end Transaction

/-- The fields of a transaction whose numbers are of a type. A plain transaction may leave its chain
open. -/
structure TransactionFields (Number : Type) where
  chainId : Option Number
  nonce : Number
  gas : Number
  receiver : Octets
  value : Number
  data : Octets
  pricing : Transaction.Pricing Number

/-- A transaction: its numbers are not negative, and its storage places below `2 ^ 256`. -/
abbrev Transaction := TransactionFields Nat

namespace Transaction

/-! ## Checking -/

/-- The fields of a transaction as they were given. -/
abbrev Draft := TransactionFields Int

/-- Why a number cannot be written. -/
inductive NumberFault where
  | negative
  /-- The number does not fit into a storage place. -/
  | tooLarge
  deriving DecidableEq, Repr

/-- The wording of a number's fault. -/
def NumberFault.message : NumberFault → String
  | negative => "Cannot serialize negative integers"
  | tooLarge => "Integer too large (does not fit in 32 bytes)"

/-- A number that cannot be written: its field, and where it is within the lists of the field, from
the outermost list on. -/
structure Unwritable where
  field : String
  positions : List Nat
  fault : NumberFault
  deriving DecidableEq, Repr

/-- The wording of what cannot be written. -/
def Unwritable.message (unwritable : Unwritable) : String :=
  let failed (place reason : String) : String :=
    s!"Serialization failed because of {place} (\"{reason}\")"
  failed s!"field {unwritable.field}" (unwritable.positions.foldr
    (fun position reason => failed s!"element at index {position}" reason)
    unwritable.fault.message)

/-- A number that can be written. -/
def natural (field : String) (n : Int) : Except Unwritable Nat :=
  if 0 ≤ n then .ok n.toNat else .error ⟨field, [], .negative⟩

/-- An access list whose storage places can be written. They stand behind the address, at position
one of their entry. -/
def checkAccessList (accessList : List (AccessEntry Int)) :
    Except Unwritable (List (AccessEntry Nat)) :=
  accessList.zipIdx.mapM fun (entry, i) => do
    let places ← entry.places.zipIdx.mapM fun (n, j) =>
      if Nat.pow 2 256 ≤ n then .error ⟨"accessList", [i, 1, j], .tooLarge⟩
      else if n < 0 then .error ⟨"accessList", [i, 1, j], .negative⟩
      else .ok n.toNat
    pure ⟨entry.address, places⟩

/-- The transaction of a draft; otherwise the first number that cannot be written, in the order in
which the form of the transaction writes them. -/
def ofDraft (draft : Draft) : Except Unwritable Transaction :=
  match draft.pricing with
  | .plain gasPrice => do
    let nonce ← natural "nonce" draft.nonce
    let gasPrice ← natural "gasPrice" gasPrice
    let gas ← natural "gas" draft.gas
    let value ← natural "value" draft.value
    let chainId ← draft.chainId.mapM (natural "v")
    pure { draft with chainId, nonce, gas, value, pricing := .plain gasPrice }
  | .listed gasPrice accessList => do
    let chainId ← draft.chainId.mapM (natural "chainId")
    let nonce ← natural "nonce" draft.nonce
    let gasPrice ← natural "gasPrice" gasPrice
    let gas ← natural "gas" draft.gas
    let value ← natural "value" draft.value
    let accessList ← checkAccessList accessList
    pure { draft with chainId, nonce, gas, value, pricing := .listed gasPrice accessList }
  | .dynamic tip limit accessList => do
    let chainId ← draft.chainId.mapM (natural "chainId")
    let nonce ← natural "nonce" draft.nonce
    let tip ← natural "maxPriorityFeePerGas" tip
    let limit ← natural "maxFeePerGas" limit
    let gas ← natural "gas" draft.gas
    let value ← natural "value" draft.value
    let accessList ← checkAccessList accessList
    pure { draft with chainId, nonce, gas, value, pricing := .dynamic tip limit accessList }

/-! ## Encoding -/

open Rlp (Item)

/-- The item of an access list. -/
def accessItem (accessList : List (AccessEntry Nat)) : Item :=
  .list (accessList.map fun entry =>
    .list [.octets entry.address,
      .list (entry.places.map fun n => .octets (Octets.ofNatWidth 32 n))])

/-- The number in front of a transaction's list: none for a plain one. -/
def form (transaction : Transaction) : Option UInt8 :=
  match transaction.pricing with
  | .plain _ => none
  | .listed .. => some 1
  | .dynamic .. => some 2

/-- The items of a transaction before it is signed. -/
def items (transaction : Transaction) : List Item :=
  let chain := Item.nat (transaction.chainId.getD 0)
  let nonce := Item.nat transaction.nonce
  let call := [Item.nat transaction.gas, .octets transaction.receiver, .nat transaction.value,
    .octets transaction.data]
  match transaction.pricing with
  | .plain gasPrice => nonce :: .nat gasPrice :: call
  | .listed gasPrice accessList =>
    chain :: nonce :: .nat gasPrice :: call ++ [accessItem accessList]
  | .dynamic tip limit accessList =>
    chain :: nonce :: .nat tip :: .nat limit :: call ++ [accessItem accessList]

/-- Why a transaction is not signed. -/
inductive SigningFault where
  /-- A size in the transaction is too large to be written. -/
  | tooLarge
  /-- None of the nonces that were drawn gives a signature. -/
  | noNonce
  deriving DecidableEq, Repr

/-- The wording of a fault. -/
def SigningFault.message : SigningFault → String
  | tooLarge => "The transaction is too large to be written"
  | noNonce => "No nonce gives a signature"

/-- The octets of items behind the number of a form. -/
def write (form : Option UInt8) (items : List Item) : Except SigningFault Octets :=
  if Rlp.isWritable (.list items) then .ok (form.toList ++ Rlp.encode (.list items))
  else .error .tooLarge

/-- The octets whose hash is signed: a plain transaction for a chain ends in the chain's number and
two empty numbers. -/
def unsigned (transaction : Transaction) : Except SigningFault Octets :=
  let ending := match transaction.pricing, transaction.chainId with
    | .plain _, some chainId => [.nat chainId, .nat 0, .nat 0]
    | _, _ => []
  write transaction.form (transaction.items ++ ending)

/-- The number that tells which key signed: in a plain transaction it carries the chain too. -/
def recoveryNumber (transaction : Transaction) (recovery : Nat) : Nat :=
  match transaction.pricing, transaction.chainId with
  | .plain _, some chainId => 2 * chainId + 35 + recovery
  | .plain _, none => 27 + recovery
  | _, _ => recovery

/-- The octets of a transaction with its signature. -/
def signed (transaction : Transaction) (signature : Secp256k1.Signature) :
    Except SigningFault Octets :=
  write transaction.form (transaction.items ++
    [.nat (transaction.recoveryNumber signature.recovery), .nat signature.r, .nat signature.s])

/-- Signs a transaction with a key. -/
def sign (transaction : Transaction) (key : Nat) : Except SigningFault Octets := do
  let message ← transaction.unsigned
  match Secp256k1.sign key (Keccak.hash message) with
  | some signature => transaction.signed signature
  | none => throw .noNonce

end Transaction

end DepositBridge
