import DepositBridge.Field
import DepositBridge.Transaction.Draft

/-!
# Wallets

An account: its address, and its key unless the wallet is for reading only. The key never appears in
what a wallet shows.
-/

namespace DepositBridge

/-- An account and, if it can sign, its key. -/
structure Wallet where
  address : Address
  key : Option Nat

namespace Wallet

/-- Why there is no wallet, or no signature. -/
inductive Fault where
  | invalidKey
  | invalidAddress (refusal : Refusal)
  | readOnly (address : Address)
  | transaction (fault : Transaction.Fault)
  | signing (fault : Transaction.SigningFault)

/-- The wording of a fault. A bad key is not shown. -/
def Fault.message : Fault → String
  | invalidKey => "Invalid private key"
  | invalidAddress refusal => refusal.message
  | readOnly address => s!"Wallet {address.text} is read-only and cannot sign"
  | transaction fault => fault.message
  | signing fault => fault.message

/-- The octets of a key: thirty-two octets, hexadecimal text of them in which a leading zero may be
missing, or a number that fills them. -/
def keyOctets? (v : Value) : Option Octets :=
  let octets := match v with
    | .text s => Hex.decodeLoose? s
    | .bytes octets => some octets
    | .int n => if 0 ≤ n then some (Octets.ofNat n.toNat) else none
    | _ => none
  octets.filter fun octets => octets.length = 32

/-- The wallet of a key. -/
def ofKey (v : Value) : Except Fault Wallet :=
  match keyOctets? v with
  | some octets =>
    let key := Octets.toNat octets
    if Secp256k1.isKey key then .ok ⟨Address.ofKey key, some key⟩ else .error .invalidKey
  | none => .error .invalidKey

/-- The wallet of an address, for reading only. -/
def ofAddress (v : Value) : Except Fault Wallet :=
  match Address.ofValue v with
  | .ok address => .ok ⟨address, none⟩
  | .error refusal => .error (.invalidAddress refusal)

/-- Whether a wallet can sign. -/
def canSign (wallet : Wallet) : Bool := wallet.key.isSome

/-- The octets of a transaction signed by a wallet. -/
def sign (wallet : Wallet) (transaction : Transaction) : Except Fault Octets :=
  match wallet.key with
  | none => .error (.readOnly wallet.address)
  | some key => (transaction.sign key).mapError .signing

/-- The fields of a transaction without its sender, which has to be the wallet itself. -/
def dropSender (wallet : Wallet) (members : List (String × Value)) :
    Except Fault (List (String × Value)) :=
  match Value.member? members "from" with
  | none => .ok members
  | some (.text s) =>
    if s = wallet.address.text then .ok (members.filter fun (name, _) => name ≠ "from")
    else .error (.transaction .malformed)
  | some _ => .error (.transaction .malformed)

/-- Signs a transaction that is given as loosely typed fields. -/
def signMembers (wallet : Wallet) (members : List (String × Value)) : Except Fault Octets := do
  if !wallet.canSign then throw (.readOnly wallet.address)
  let members ← wallet.dropSender members
  match Transaction.ofMembers members with
  | .ok transaction => wallet.sign transaction
  | .error fault => throw (.transaction fault)

/-- A wallet as a call of its constructor. -/
def quoted (wallet : Wallet) : String :=
  let mode := if wallet.canSign then "signer" else "read-only"
  s!"Wallet(address={Text.quote wallet.address.text}, {mode})"

end Wallet

end DepositBridge
