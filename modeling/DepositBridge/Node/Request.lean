import DepositBridge.Address
import DepositBridge.Program
import DepositBridge.Value

/-!
# Requests to a node

The requests that a node of a chain is sent, and the form in which they are sent.
-/

namespace DepositBridge.Node

/-- The fields of a call or a transaction that a node fills up, judges or signs. The value that goes
with it is passed on as it was given. -/
structure CallFields where
  value : Option Value
  sender : Option Address
  nonce : Option Int
  gas : Option Int
  receiver : Address
  data : Octets

/-- A number as a quantity; other values stay as they are. -/
def amountValue : Value → Value
  | .int n => .text (Hex.quantity n)
  | v => v

/-- The form of call fields: numbers as quantities, addresses with their checksums. -/
def CallFields.toValue (fields : CallFields) : Value :=
  let quantity (name : String) (n : Option Int) : List (String × Value) :=
    (n.map fun n => (name, Value.text (Hex.quantity n))).toList
  .object ((fields.value.map fun v => ("value", amountValue v)).toList ++
    (fields.sender.map fun a => ("from", Value.text a.text)).toList ++
    quantity "nonce" fields.nonce ++
    quantity "gas" fields.gas ++
    [("to", .text fields.receiver.text), ("data", .text (Hex.encodeMarked fields.data))])

/-- A request. -/
inductive Request where
  | chainId
  | transactionCount (account : Address)
  | estimateGas (fields : CallFields)
  | tip
  | latestBlock
  | sendRaw (raw : Octets)
  | send (fields : CallFields)
  | receipt (hash : Octets)
  | call (fields : CallFields)
  | code (account : Address)
  | accounts
  | blockNumber
  | logs (account : Address) (first last : Int) (topic : Octets)

namespace Request

/-- The method of a request. -/
def method : Request → String
  | chainId => "eth_chainId"
  | transactionCount _ => "eth_getTransactionCount"
  | estimateGas _ => "eth_estimateGas"
  | tip => "eth_maxPriorityFeePerGas"
  | latestBlock => "eth_getBlockByNumber"
  | sendRaw _ => "eth_sendRawTransaction"
  | send _ => "eth_sendTransaction"
  | receipt _ => "eth_getTransactionReceipt"
  | call _ => "eth_call"
  | code _ => "eth_getCode"
  | accounts => "eth_accounts"
  | blockNumber => "eth_blockNumber"
  | logs .. => "eth_getLogs"

/-- Whether a request runs a contract, so that an error may be the contract's own. -/
def runsContract : Request → Bool
  | estimateGas _ => true
  | call _ => true
  | _ => false

/-- The parameters of a request. -/
def params : Request → List Value
  | chainId => []
  | transactionCount account => [.text account.text, .text "pending"]
  | estimateGas fields => [fields.toValue, .text "latest"]
  | tip => []
  | latestBlock => [.text "latest", .bool false]
  | sendRaw raw => [.text (Hex.encodeMarked raw)]
  | send fields => [fields.toValue]
  | receipt hash => [.text (Hex.encodeMarked hash)]
  | call fields => [fields.toValue, .text "latest"]
  | code account => [.text account.text, .text "latest"]
  | accounts => []
  | blockNumber => []
  | logs account first last topic => [.object [
      ("address", .list [.text account.text]), ("fromBlock", .text (Hex.quantity first)),
      ("toBlock", .text (Hex.quantity last)),
      ("topics", .list [.text (Hex.encodeMarked topic)])]]

end Request

/-- What a program does with connections to nodes, which are numbered in the order in which they are
opened: it opens one to the node at a URL, sends a request, or closes the connection. -/
inductive Query where
  | connect (connection : Nat) (url : String)
  | request (connection : Nat) (request : Request)
  | disconnect (connection : Nat)

/-- What a node answers: a result, or an error object. -/
inductive Answer where
  | result (v : Value)
  | error (object : Value)
  deriving Inhabited

/-- A program that talks to nodes. -/
abbrev Talk := Program Query Answer

end DepositBridge.Node
