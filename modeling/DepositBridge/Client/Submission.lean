import DepositBridge.Client.Basic

/-!
# Submissions

Calls that change a contract. A client whose wallet has a key signs the transaction itself;
otherwise the node signs it for the wallet's account, or without a wallet for the first account that
it keeps. Either way the transaction is submitted once, and the client waits until it is mined.
-/

namespace DepositBridge.Client

open Session (take note)

variable (client : Client)

/-! ## Signed by the client -/

/-- Whether a value is the number zero. -/
def isZero : Value → Bool
  | .int n => n = 0
  | .bool b => !b
  | .float x => x.toInt? = some 0
  | _ => false

/-- A value that goes with a call is not text unless that can be read as a number, and it is zero
when the function takes none. -/
def checkAmount (f : Abi.Function) : Option Value → Except Fault Unit
  | none => .ok ()
  | some v => do
    let number ← Read.numberIfText v
    if !f.takesValue && !isZero number then throw .valueNotTaken

/-- The number of a value that goes with a call: zero for none. -/
def amountOf (amount : Option Value) : Except Transaction.Fault Int :=
  match amount with
  | none => .ok 0
  | some v => Transaction.numberField "value" v

/-- The transaction that a client signs: the fee leaves room for the base fee to double, on top
of the tip. -/
def draftOf (chain nonce gas tip baseFee : Int) (data : Octets) (amount : Int) :
    Transaction.Draft where
  chainId := some chain
  nonce := nonce
  gas := gas
  receiver := client.address.octets
  value := amount
  data := data
  pricing := .dynamic tip (tip + 2 * baseFee) []

/-- The octets of a signed transaction, or why there are none. -/
def signDraft (wallet : Wallet) (draft : Transaction.Draft) : Except Fault Octets :=
  match Transaction.ofDraft draft with
  | .ok transaction => (wallet.sign transaction).mapError .wallet
  | .error number => .error (.wallet (.transaction (.unwritable number)))

/-- The octets of a call's transaction, filled up with the node's help and signed. -/
def prepareSigned (wallet : Wallet) (call : Abi.Call) (amount : Option Value) :
    Session Octets := do
  let data := call.octets
  let chain ← client.chainId
  let nonce ← client.sendForQuantity (.transactionCount wallet.address)
  take (checkAmount call.function amount)
  client.checkChain (some chain)
  let gas ← client.sendForQuantity (.estimateGas
    { value := amount, sender := some wallet.address, nonce := some nonce, gas := none
      receiver := client.address, data })
  let tip ← client.sendForQuantity .tip
  let baseFee ← client.latestQuantity "baseFeePerGas"
  let value ← take ((amountOf amount).mapError fun fault => .wallet (.transaction fault))
  take (signDraft wallet (client.draftOf chain nonce gas tip baseFee data value))

/-! ## Signed by the node -/

/-- The account that the node sends from: the wallet's, or the first one that the node keeps. -/
def sender : Session Address := do
  match client.wallet with
  | some wallet => pure wallet.address
  | none =>
    match ← take (Read.accounts (← client.send .accounts)) with
    | account :: _ => pure account
    | [] => throw (.noAccount client.url)

/-- What the gas of a transaction may exceed its estimate by. -/
def gasReserve : Int := 100000

/-- The gas for a transaction: its estimate with a reserve, as far as a block has room. -/
def gasFor (fields : Node.CallFields) : Session Int := do
  client.checkChain none
  let estimate ← client.sendForQuantity (.estimateGas fields)
  let limit ← client.latestQuantity "gasLimit"
  if estimate > limit then throw (.gasLimit estimate limit)
  pure (min limit (estimate + gasReserve))

/-- The fields of a call's transaction, filled up with the node's help, for the node to sign. -/
def prepareUnsigned (call : Abi.Call) (amount : Option Value) : Session Node.CallFields := do
  let sender ← client.sender
  take (checkAmount call.function amount)
  let fields : Node.CallFields :=
    { value := amount, sender := some sender, nonce := none, gas := none,
      receiver := client.address, data := call.octets }
  let _ ← client.latestBlock
  client.checkChain none
  let gas ← client.gasFor fields
  pure { fields with gas := some gas }

/-! ## Submitting -/

/-- The request that submits a call. -/
def prepare (call : Abi.Call) (amount : Option Value) : Session Node.Request :=
  match client.wallet with
  | some wallet =>
    if wallet.canSign then .sendRaw <$> client.prepareSigned wallet call amount
    else .send <$> client.prepareUnsigned call amount
  | none => .send <$> client.prepareUnsigned call amount

/-- Submits a call; the result is the hash that the node answers. -/
def submit (call : Abi.Call) (amount : Option Value) : Session Octets := do
  let request ← client.prepare call amount
  take (Read.octets (← client.send request))

/-! ## Receipts -/

/-- Whether an error says that a transaction is not known yet. -/
def isPending (object : Value) : Bool :=
  match Node.faultOf false object, object.get? "message" with
  | .transactionNotFound _, _ => true
  | _, some (.text message) => message = "transaction indexing in progress"
  | _, _ => false

/-- Asks for the receipt of a transaction until there is one, so many times at most. -/
def awaitReceipt (hash : Octets) : Nat → Session Value
  | 0 => throw (.notMined hash client.patience.seconds)
  | polls + 1 => do
    match ← client.query (.receipt hash) with
    | .result receipt =>
      if Read.isNothing receipt then awaitReceipt hash polls else pure receipt
    | .error object =>
      if isPending object then awaitReceipt hash polls
      else throw (.node (Node.faultOf false object))

/-- Judges a receipt: a transaction that failed is reported by its hash. -/
def checkReceipt (label : String) (hash : Octets) (receipt : Value) : Session Unit := do
  let members ← take (Read.record receipt >>= Read.withNumbers ["status", "blockNumber"])
  let status ← take (Read.field members "status")
  if !Read.isSuccess status then throw (.reverted label hash)
  let block ← take (Read.field members "blockNumber")
  let shown ← take (block.shown.mapError .numeral)
  note .info s!"{label} mined in block {shown}"

/-- Submits a call and waits until it is mined; the result is the transaction's hash. -/
def transact (label : String) (call : Abi.Call) (amount : Option Value) : Session Octets := do
  let hash ← client.submit call amount
  note .info s!"{label} sent: {Hex.encodeMarked hash}"
  let receipt ← client.awaitReceipt hash client.patience.polls
  checkReceipt label hash receipt
  pure hash

end DepositBridge.Client
