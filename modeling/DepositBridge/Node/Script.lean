import DepositBridge.Node.Request

/-!
# Scripted nodes

Nodes that answer by a script: for each method the answers in turn, the last one again and again. A
method without a script is answered as by a development chain that has just been started.
-/

namespace DepositBridge.Node

/-- The answers of a node to the methods that are named, in turn. -/
structure Script where
  turns : List (String × List Answer)

namespace Script

/-- A node on which everything is as on a new development chain. -/
def empty : Script := ⟨[]⟩

private def repeated (count : Nat) (octet : UInt8) : Value :=
  .text (Hex.encodeMarked (List.replicate count octet))

/-- What a new development chain answers to a method. -/
def developmentAnswer (method : String) : Answer :=
  match method with
  | "eth_chainId" => .result (.text "0x7a69")
  | "eth_getTransactionCount" => .result (.text "0x7")
  | "eth_estimateGas" => .result (.text "0x5208")
  | "eth_maxPriorityFeePerGas" => .result (.text "0x3b9aca00")
  | "eth_getBlockByNumber" => .result (.object
      [("baseFeePerGas", .text "0x7"), ("gasLimit", .text "0x1c9c380")])
  | "eth_sendRawTransaction" => .result (repeated 32 0x11)
  | "eth_sendTransaction" => .result (repeated 32 0x22)
  | "eth_getTransactionReceipt" => .result (.object
      [("status", .text "0x1"), ("blockNumber", .text "0x2a")])
  | "eth_call" =>
    .result (.text (Hex.encodeMarked (Octets.ofNatWidth 32 1 ++ Octets.ofNatWidth 32 3)))
  | "eth_accounts" => .result (.list [.text "0xf39fd6e51aad88f6f4ce6ab8827279cfffb92266"])
  | "eth_blockNumber" => .result (.text "0x2a")
  | "eth_getLogs" => .result (.list [])
  | _ => .error (.object [("code", .int (-32601)), ("message", .text "method not found")])

/-- The answer to a method that has been asked for a number of times before. -/
def answer (script : Script) (method : String) (before : Nat) : Answer :=
  match script.turns.lookup method with
  | some answers => (Program.inTurn? answers before).getD (developmentAnswer method)
  | none => developmentAnswer method

/-- Whether a query sends a method to a connection. -/
def asks (connection : Nat) (method : String) : Query → Bool
  | .request c request => c = connection ∧ request.method = method
  | _ => false

/-- How nodes behave that answer by scripts, the first one behind the first connection. -/
def behaviour (scripts : List Script) : Program.Behaviour Query Answer
  | history, .request connection request =>
    let before := history.countP fun (query, _) => asks connection request.method query
    ((scripts[connection]?).getD empty).answer request.method before
  | _, _ => .result .null

end Script

end DepositBridge.Node
