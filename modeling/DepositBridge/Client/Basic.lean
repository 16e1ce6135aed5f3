import DepositBridge.Client.Read

/-!
# Clients

A client calls one contract through one connection to a node. It remembers the number of the node's
chain; what it remembers outlives a call that fails.
-/

namespace DepositBridge

/-! ## Patience -/

/-- How long a client waits for a transaction: the seconds as they are told, and how often it asks.
Answers take no time here, so a number of seconds fixes the number of questions. -/
structure Client.Patience where
  seconds : String
  polls : Nat
  deriving Repr

namespace Client.Patience

/-- The thousandths of a second between one question and the next. -/
def pollPeriod : Nat := 101

/-- How often a client asks in a time given as a quotient of seconds. -/
def pollsIn (numerator : Int) (denominator : Nat) : Nat :=
  (numerator.toNat * 1000 + pollPeriod * denominator - 1) / (pollPeriod * denominator)

/-- The patience of a number of seconds. -/
def ofSeconds? : Value → Option Patience
  | .int n => some ⟨toString n, pollsIn n 1⟩
  | .float x =>
    match x with
    | .finite negative significand exponent =>
      let sign : Int := if negative then -1 else 1
      let numerator : Int := significand * Nat.pow 2 exponent.toNat
      some ⟨x.text, pollsIn (sign * numerator) (Nat.pow 2 (-exponent).toNat)⟩
    | _ => none
  | _ => none

/-- Two minutes. -/
def standard : Patience := ⟨"120.0", pollsIn 120 1⟩

end Client.Patience

/-! ## Clients -/

/-- A contract behind a connection, the interface by which it is called, and the wallet, if any,
that calls it. -/
structure Client where
  connection : Nat
  url : String
  address : Address
  wallet : Option Wallet
  entries : List Value
  patience : Client.Patience

namespace Client

/-- The client of a contract, which has a coherent interface. -/
def ofInterface (connection : Nat) (url : String) (address : Address) (wallet : Option Wallet)
    (entries : List Value) (patience : Patience) : Except Abi.CoherenceFault Client :=
  (Abi.checkEntries entries).map fun _ => ⟨connection, url, address, wallet, entries, patience⟩

/-- Why there is no client. -/
inductive OpeningFault where
  /-- The value that is given as the contract's address writes none. -/
  | address (refusal : Refusal)
  /-- No client can be made of the interface. -/
  | interface (fault : Abi.CoherenceFault)

/-- The client of a contract whose address is given as a value. The address is looked at before the
interface. -/
def ofAddress (connection : Nat) (url : String) (address : Value) (wallet : Option Wallet)
    (entries : List Value) (patience : Patience) : Except OpeningFault Client := do
  let address ← (Address.ofValue address).mapError .address
  (ofInterface connection url address wallet entries patience).mapError .interface

/-- What a client does: it talks to its node, remembers the number of its chain, and may fail. -/
abbrev Session := ExceptT Fault (StateT (Option Int) Node.Talk)

namespace Session

/-- A step of a conversation as a step of a session. -/
def talk {α : Type} (p : Node.Talk α) : Session α := ExceptT.lift (StateT.lift p)

/-- A result or a fault as a step. -/
def take {α : Type} : Except Fault α → Session α
  | .ok a => pure a
  | .error fault => throw fault

/-- Takes a note. -/
def note (level : Level) (text : String) : Session Unit :=
  talk (Program.journal level .contracts text)

/-- The conversation of a session that starts with a remembered number. -/
def start {α : Type} (session : Session α) (chain : Option Int) :
    Node.Talk (Except Fault α × Option Int) :=
  session.run.run chain

end Session

open Session (take note)

variable (client : Client)

/-! ## Requests -/

/-- Sends a request and takes its answer. -/
def query (request : Node.Request) : Session Node.Answer :=
  Session.talk (Program.query (.request client.connection request))

/-- Sends a request and takes its result; an error ends the session. -/
def send (request : Node.Request) : Session Value := do
  match ← client.query request with
  | .result v => pure v
  | .error object => throw (.node (Node.faultOf request.runsContract object))

/-- Sends a request whose result is a quantity. -/
def sendForQuantity (request : Node.Request) : Session Int := do
  take (Read.quantity (← client.send request))

/-- The latest block of the node. -/
def latestBlock : Session (List (String × Value)) := do
  let block ← client.send .latestBlock
  if Read.isNothing block then throw .noBlock
  take (Read.record block >>= Read.withNumbers ["baseFeePerGas", "gasLimit"])

/-- A quantity of the latest block. -/
def latestQuantity (name : String) : Session Int := do
  let block ← client.latestBlock
  take (Read.field block name >>= Read.quantity)

/-! ## The chain -/

/-- The number of the client's chain: the remembered one, or else what the node answers, which is
remembered from then on. -/
def chainId : Session Int := do
  match ← get with
  | some n => pure n
  | none =>
    let n ← client.sendForQuantity .chainId
    set (some n)
    pure n

/-- Asks for the number of the node's chain and holds it against a declared one. -/
def checkChain (declared : Option Int) : Session Unit := do
  let actual ← client.sendForQuantity .chainId
  match declared with
  | some n => if n ≠ actual then throw (.chainMismatch n actual)
  | none => pure ()

/-! ## Closing -/

/-- Closes the connection. -/
def close : Session Unit := do
  let _ ← Session.talk (Program.query (.disconnect client.connection))

end Client

end DepositBridge
