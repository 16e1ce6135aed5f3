import DepositBridge.Bridge.Call

/-!
# The journey of a deposit

A deposit on the first chain, the index of its token, its hash, and the relay of the hash to the
second chain. Each step waits for the one before it, and the first one that fails ends the journey.
-/

namespace DepositBridge.Bridge

/-! ## Relaying -/

/-- The hashes of deposits, in their order. -/
def depositHashes (deposits : List Deposit) : List Octets := deposits.map Deposit.hash

/-- Tells the rollup about a batch of deposits, behind the deposit that it processed last. -/
def relay (lastProcessed : Int) (deposits : List Deposit) : Journey Value := do
  if deposits.isEmpty then throw .nothingToRelay
  let hashes := depositHashes deposits
  Journey.note .info .relayer
    s!"Relaying {hashes.length} deposit(s) after deposit id {lastProcessed}"
  Journey.call (.processDeposits lastProcessed hashes)

/-! ## Depositing -/

/-- The call that deposits what a request asks for. -/
def depositCall (request : Request) : Call :=
  match request.asset with
  | .native => .depositNative request.salt request.amount
  | .erc20 token => .depositErc20 token request.salt request.amount

/-- The call that asks for the index of a request's token. -/
def indexCall (request : Request) : Call :=
  .tokenIndex request.token.toTokenType request.tokenAddress request.tokenId.number

/-- A number as a note shows it: without its fraction. -/
def wholeNumber? : Value → Option Int
  | .int n => some n
  | .bool b => some (if b then 1 else 0)
  | .float x =>
    match x with
    | .finite negative significand exponent =>
      let magnitude := significand * Nat.pow 2 exponent.toNat / Nat.pow 2 (-exponent).toNat
      some (if negative then -(magnitude : Int) else magnitude)
    | _ => none
  | _ => none

/-- Notes the index of a token, when it is a number. -/
def noteIndex (index : Value) : Journey Unit :=
  match wholeNumber? index with
  | some n => Journey.note .info .invoker s!"Token index: {n}"
  | none => pure ()

/-- The deposit that a request makes of a token with an index. -/
def depositOf (request : Request) (index : Value) : Except Failure Deposit :=
  (Deposit.ofFields (some (.bytes request.salt)) (some index)
    (some (.int request.amount))).mapError .rejected

/-- Deposits on the first chain and, unless the relay is left out, relays the deposit. -/
def deposit (relays : Bool) (request : Request) : Journey Outcome := do
  Journey.note .debug .invoker (s!"Depositing {request.amount} of token type " ++
    s!"{request.token.toTokenType.name} for {request.saltText}")
  let transaction ← Journey.call (depositCall request)
  let index ← Journey.call (indexCall request)
  noteIndex index
  let deposit ← Journey.take (depositOf request index)
  let hash := Hex.encodeMarked deposit.hash
  let relayTransaction ←
    if relays then relay 0 [deposit]
    else do
      Journey.note .info .invoker s!"Relay disabled; deposit hash {hash} not sent to the rollup"
      pure .null
  Journey.take ((Outcome.ofFields (some transaction) (some index) (some (.text hash))
    (some relayTransaction)).mapError .rejected)

/-! ## Closing -/

/-- Closes both connections, the second one even if the first one cannot be closed. -/
def close : Journey Unit := do
  let first ← (Journey.call .closeLiquidity).attempt
  let _ ← Journey.call .closeRollup
  let _ ← Journey.take first

/-- Does something and closes both connections, whatever comes of it. -/
def thenClose {α : Type} (journey : Journey α) : Journey α := do
  let result ← journey.attempt
  close
  Journey.take result

end DepositBridge.Bridge
