import DepositBridge.Client.Log
import DepositBridge.Client.Submission

/-!
# The rollup contract

The calls of the contract on the second chain: it is told about deposits, and announces the leaves
that it has inserted. The announcements are collected window by window, since a node answers for a
limited number of blocks only.
-/

namespace DepositBridge.Client

open Session (take note)

variable (client : Client)

/-! ## Relaying -/

/-- Tells the contract about deposits by their hashes. -/
def processDeposits (lastProcessed hashes : Value) : Session Octets := do
  let name := "processDeposits"
  let call ← take ((Abi.findCall client.entries name [lastProcessed, hashes]).mapError .lookup)
  client.transact name call none

/-! ## Windows -/

/-- How many blocks are asked for at once. -/
def windowSize : Int := 10000

/-- How many windows the blocks from `start` to `head` take. -/
def windowCount (start head : Int) : Nat := ((head - start) / windowSize + 1).toNat

/-- The event that announces a leaf. -/
def leafEvent : Except Fault Abi.Event := do
  let entry ← (Abi.findEvent client.entries leafEventName).mapError .lookup
  match Abi.Event.ofEntry? leafEventName entry with
  | some event => pure event
  | none => throw .malformed

/-- The leaves that were announced from block `first` to block `last`. -/
def leavesIn (first last : Int) : Session (List Leaf) := do
  note .debug s!"Scanning {leafEventName} in blocks {first}-{last}"
  let event ← take client.leafEvent
  let answer ← client.send (.logs client.address first last event.topic)
  take (leavesOf event answer)

/-- The leaves of a number of windows from block `start` on; none reaches beyond `head`. -/
def scan (head start : Int) : Nat → Session (List Leaf)
  | 0 => pure []
  | windows + 1 => do
    let leaves ← client.leavesIn start (min (start + windowSize - 1) head)
    let later ← scan head (start + windowSize) windows
    pure (leaves ++ later)

/-- The leaves that were announced from a block up to the head of the chain, by their indices. -/
def leaves (start : Int) : Session (List Leaf) := do
  let head ← client.sendForQuantity .blockNumber
  let found ← client.scan head start (windowCount start head)
  pure (found.mergeSort fun a b => a.index ≤ b.index)

/-- The leaves that were announced from a block on, or without one from the block in which the
contract was deployed. -/
def leavesFrom (deployedBlock : Int) (fromBlock : Option Int) : Session (List Leaf) :=
  client.leaves (fromBlock.getD deployedBlock)

end DepositBridge.Client
