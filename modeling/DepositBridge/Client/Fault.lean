import DepositBridge.Abi.Coherence
import DepositBridge.Abi.Event
import DepositBridge.Node.Fault
import DepositBridge.Wallet

/-!
# What goes wrong in a client

Why a call of a contract comes to nothing: because of its arguments, of the interface, of the
wallet, or of what the node answers.
-/

namespace DepositBridge.Client

/-- Why a call comes to nothing. -/
inductive Fault where
  | lookup (fault : Abi.LookupFault)
  | refused (refusal : Refusal)
  | wallet (fault : Wallet.Fault)
  /-- The node answers with an error. -/
  | node (fault : Node.Fault)
  /-- A quantity in an answer is no numeral. -/
  | numeral (fault : Numeral.Fault)
  /-- Octets in an answer are not hexadecimal. -/
  | notHexadecimal
  /-- Octets in an answer are more or fewer than expected. -/
  | width (octets : Octets) (expected : Nat)
  /-- An answer, or an argument, is of the wrong kind. -/
  | malformed
  /-- An answer lacks a field. -/
  | missingField (name : String)
  /-- The node has no latest block. -/
  | noBlock
  | chainMismatch (declared actual : Int)
  | gasLimit (estimate limit : Int)
  /-- Value goes with a call of a function that takes none. -/
  | valueNotTaken
  /-- A transaction is not mined within the time that was given to it. -/
  | notMined (hash : Octets) (seconds : String)
  /-- The node at a URL has no account to send from. -/
  | noAccount (url : String)
  /-- A transaction is mined, but it has failed. -/
  | reverted (label : String) (hash : Octets)
  /-- The answer of a call is not what the interface promises. -/
  | undecodable
  | log (fault : Abi.LogFault)
  /-- A failure of a client of another make, of a kind of its own. It may be the remote side's. -/
  | foreign (kind text : String) (isRemote : Bool)

/-- The wording of a fault. -/
def Fault.message : Fault → String
  | lookup fault => fault.message
  | refused refusal => refusal.message
  | wallet fault => fault.message
  | node fault => fault.message
  | numeral fault => fault.message
  | notHexadecimal => "Non-hexadecimal digit found"
  | width octets expected =>
    let shown := Text.quote (Hex.encodeMarked octets)
    s!"The value HexBytes({shown}) is {octets.length} bytes, but should be {expected}"
  | malformed => "A value is of the wrong kind"
  | missingField name => Text.quote name
  | noBlock => "Block with id: 'latest' not found."
  | chainMismatch declared actual =>
    s!"The transaction declared chain ID {declared}, but the connected node is on {actual}"
  | gasLimit estimate limit =>
    "Gas estimate for transaction is higher than current network gas limits. " ++
      s!"Transaction could not be sent. Estimated: {estimate}. Current gas limit: {limit}"
  | valueNotTaken =>
    "Sending non-zero ether to a contract function with payable=False. " ++
      "Please ensure that transaction's value is 0."
  | notMined hash seconds =>
    let shown := Text.quote (Hex.encodeMarked hash)
    s!"Transaction HexBytes({shown}) is not in the chain after {seconds} seconds"
  | noAccount url => s!"Node at {url} has no unlocked account to send from"
  | reverted label hash => s!"{label} reverted in tx {Hex.encodeMarked hash}"
  | undecodable => "The answer of the call is not what the interface promises"
  | log fault => fault.message
  | foreign _ text _ => text

/-- Whether a fault says that the remote side did not carry out what it was asked to do. -/
def Fault.isRemote : Fault → Bool
  | noAccount _ => true
  | reverted .. => true
  | foreign _ _ isRemote => isRemote
  | _ => false

/-- The transaction that a fault names: one that is mined but has failed. -/
def Fault.transaction? : Fault → Option String
  | reverted _ hash => some (Hex.encodeMarked hash)
  | _ => none

end DepositBridge.Client
