import DepositBridge.Abi.Event
import DepositBridge.Client.Basic
import DepositBridge.Deposit.Record

/-!
# Announced leaves

The rollup announces each leaf that it inserts. A node answers with the logs of these announcements.
-/

namespace DepositBridge.Client

/-- The name of the event that announces a leaf. -/
def leafEventName : String := "DepositLeafInserted"

/-- A log as a node gives it. Its numbers, topics and data are read at once; of the other fields it
only matters, when the leaf is made, whether they are there. -/
structure Log where
  topics : List Octets
  data : Octets
  members : List (String × Value)

/-- The log of a record. -/
def Log.ofValue (v : Value) : Except Fault Log := do
  let members ← Read.record v
  let members ← Read.withNumbers ["blockNumber", "logIndex", "transactionIndex"] members
  let topics ← match ← Read.field members "topics" with
    | .list topics => topics.mapM fun topic => Read.octets topic >>= Read.fitWidth 32
    | _ => throw .malformed
  let data ← Read.octets (← Read.field members "data")
  pure ⟨topics, data, members⟩

/-- The fields that a log has to have. -/
def logFields : List String :=
  ["logIndex", "transactionIndex", "transactionHash", "address", "blockHash", "blockNumber"]

/-- An announced leaf with its place among the logs of its block. -/
structure PlacedLeaf where
  leaf : Leaf
  place : Int

namespace PlacedLeaf

/-- An argument of an event. -/
private def argument (arguments : List (String × Abi.Datum)) (name : String) :
    Except Fault Abi.Datum :=
  match arguments.lookup name with
  | some datum => .ok datum
  | none => .error (.missingField name)

/-- The leaf that a log announces. -/
def ofLog (event : Abi.Event) (log : Log) : Except Fault PlacedLeaf := do
  let arguments ← (event.arguments log.topics log.data).mapError .log
  let _ ← logFields.mapM (Read.field log.members)
  let index ← match ← argument arguments "depositIndex" with
    | .number n => pure n
    | _ => throw .malformed
  let hash ← match ← argument arguments "depositHash" with
    | .octets content => pure (Hex.encodeMarked content)
    | _ => throw .malformed
  let block ← Read.quantity (← Read.field log.members "blockNumber")
  let place ← Read.quantity (← Read.field log.members "logIndex")
  pure ⟨⟨index, hash, block⟩, place⟩

/-- The order of logs on a chain: by block, and in a block by place. -/
def isNotAfter (a b : PlacedLeaf) : Bool :=
  a.leaf.block < b.leaf.block || (a.leaf.block = b.leaf.block && a.place ≤ b.place)

end PlacedLeaf

/-- The leaves that the logs of an answer announce, in the order of the chain. -/
def leavesOf (event : Abi.Event) (answer : Value) : Except Fault (List Leaf) := do
  let values ← match answer with
    | .list values => pure values
    | _ => throw .malformed
  let logs ← values.mapM Log.ofValue
  let placed ← logs.mapM (PlacedLeaf.ofLog event)
  pure ((placed.mergeSort PlacedLeaf.isNotAfter).map (·.leaf))

end DepositBridge.Client
