import DepositBridge.Bridge.Journey
import DepositBridge.Client.Liquidity
import DepositBridge.Client.Rollup

/-!
# Bridges

A bridge is a client of the liquidity contract on the first chain, with the key of the depositor,
and a client of the rollup contract on the second. It carries out journeys.
-/

namespace DepositBridge

/-! ## Endpoints -/

/-- Where the two contracts are, what is known about their chains, and where their interfaces come
from. -/
structure Bridge.Endpoints where
  l1Url : Url
  l1ChainId : Option Int
  liquidityAddress : Address
  l2Url : Url
  l2ChainId : Option Int
  rollupAddress : Address
  deployedBlock : Int
  abiDirectory : Option Path

namespace Bridge.Endpoints

/-- What a request leaves open. -/
structure Options where
  l1ChainId : Option Int
  l2ChainId : Option Int
  deployedBlock : Int
  abiDirectory : Option Path

/-- The endpoints of a request. -/
def ofRequest (request : Request) (options : Options) : Endpoints where
  l1Url := request.l1Url
  l1ChainId := options.l1ChainId
  liquidityAddress := request.liquidityAddress
  l2Url := request.l2Url
  l2ChainId := options.l2ChainId
  rollupAddress := request.rollupAddress
  deployedBlock := options.deployedBlock
  abiDirectory := options.abiDirectory

/-- The endpoints of settings. -/
def ofSettings (settings : Settings) : Endpoints where
  l1Url := settings.l1Url
  l1ChainId := some settings.l1ChainId
  liquidityAddress := settings.liquidityAddress
  l2Url := settings.l2Url
  l2ChainId := some settings.l2ChainId
  rollupAddress := settings.rollupAddress
  deployedBlock := settings.deployedBlock
  abiDirectory := settings.abiDirectory

end Bridge.Endpoints

/-! ## Building -/

/-- The two clients, what they know about their chains at the start, and the block in which the
rollup contract was deployed. -/
structure Bridge where
  liquidity : Client
  liquidityChain : Option Int
  rollup : Client
  rollupChain : Option Int
  deployedBlock : Int

namespace Bridge

/-- A conversation with the two nodes that may fail. -/
abbrev Talk := ExceptT Failure Node.Talk

/-- Opens a connection. -/
def connect (connection : Nat) (url : String) : Talk Unit := do
  let _ ← ExceptT.lift (Program.query (.connect connection url))

/-- A result or a failure as a step. -/
def take {α : Type} : Except Failure α → Talk α
  | .ok a => pure a
  | .error failure => throw failure

/-- The interface of a contract. -/
def loadEntries (tree : FileTree) (name : String) (directory : Option Path) :
    Except Failure (List Value) :=
  (Abi.load tree name directory).mapError .artifact

/-- Connects to a contract at an endpoint. -/
def connectContract (connection : Nat) (url : Url) (address : Address) (wallet : Option Wallet)
    (entries : List Value) : Talk Client := do
  connect connection url.text
  take ((Client.ofInterface connection url.text address wallet entries .standard).mapError
    .interface)

/-- Connects to the rollup contract alone. -/
def connectRollup (connection : Nat) (tree : FileTree) (endpoints : Endpoints) : Talk Client := do
  let entries ← take (loadEntries tree Abi.rollupName endpoints.abiDirectory)
  connectContract connection endpoints.l2Url endpoints.rollupAddress none entries

/-- Builds a bridge for a key. The key is looked at first, then the contracts one after the
other. -/
def build (tree : FileTree) (endpoints : Endpoints) (key : Value) : Talk Bridge := do
  let wallet ← take ((Wallet.ofKey key).mapError .wallet)
  let entries ← take (loadEntries tree Abi.liquidityName endpoints.abiDirectory)
  let liquidity ←
    connectContract 0 endpoints.l1Url endpoints.liquidityAddress (some wallet) entries
  let rollup ← connectRollup 1 tree endpoints
  pure ⟨liquidity, endpoints.l1ChainId, rollup, endpoints.l2ChainId, endpoints.deployedBlock⟩

/-! ## Carrying out journeys -/

/-- What the two clients remember about their chains. -/
structure Memory where
  liquidity : Option Int
  rollup : Option Int

/-- Carries out a step of the client of the liquidity contract. -/
def liquidityStep {α : Type} (step : Client.Session α) (render : α → Value) (memory : Memory) :
    Node.Talk (Reply × Memory) := do
  let (result, chain) ← step.start memory.liquidity
  pure (result.map render, { memory with liquidity := chain })

/-- Carries out a step of the client of the rollup contract. -/
def rollupStep {α : Type} (step : Client.Session α) (render : α → Value) (memory : Memory) :
    Node.Talk (Reply × Memory) := do
  let (result, chain) ← step.start memory.rollup
  pure (result.map render, { memory with rollup := chain })

/-- The hash of a transaction as a reply. -/
def hashReply (hash : Octets) : Value := .text (Hex.encodeMarked hash)

/-- Carries out a call. -/
def answer (bridge : Bridge) : Call → Memory → Node.Talk (Reply × Memory)
  | .depositNative salt amount =>
    liquidityStep (bridge.liquidity.depositNative (.bytes salt) (.int amount)) hashReply
  | .depositErc20 token salt amount =>
    liquidityStep (bridge.liquidity.depositErc20 (.text token.text) (.bytes salt) (.int amount))
      hashReply
  | .tokenIndex type token id =>
    liquidityStep (bridge.liquidity.tokenIndex type (.text token.text) (.int id)) .int
  | .processDeposits lastProcessed hashes =>
    rollupStep (bridge.rollup.processDeposits (.int lastProcessed) (.list (hashes.map .bytes)))
      hashReply
  | .closeLiquidity => liquidityStep bridge.liquidity.close fun _ => .null
  | .closeRollup => rollupStep bridge.rollup.close fun _ => .null

/-- Carries out a journey. -/
def carryOut {α : Type} (bridge : Bridge) (journey : Journey α) : Talk α :=
  ExceptT.mk do
    let (result, _) ← Program.carryOut bridge.answer journey.run
      ⟨bridge.liquidityChain, bridge.rollupChain⟩
    pure result

/-! ## One deposit -/

/-- Deposits what a request asks for, over connections of its own, which are closed in the end. -/
def depositOnce (tree : FileTree) (relays : Bool) (request : Request) (endpoints : Endpoints) :
    Talk Outcome := do
  let bridge ← build tree endpoints (.text request.privateKey)
  bridge.carryOut (thenClose (deposit relays request))

/-- Deposits what a draft asks for. The draft is checked before anything else happens. -/
def depositDraft (draft : Request.Draft) (options : Endpoints.Options) (relays : Bool) :
    Talk Outcome := do
  let request ← take ((Request.ofDraft draft).mapError .request)
  depositOnce .empty relays request (.ofRequest request options)

end Bridge

end DepositBridge
