import DepositBridge.Address
import DepositBridge.Deposit.Token
import DepositBridge.Failure

/-!
# Journeys

A journey is what is done across the two chains, told by the calls of the two contracts. How a call
is carried out, and by what kind of client, is left open.
-/

namespace DepositBridge.Bridge

/-- The two contracts. -/
inductive Contract where
  | liquidity
  | rollup
  deriving DecidableEq, Repr

/-- What the client of a contract can be asked to do; every client can end its connection. -/
inductive Method where
  | depositNative
  | depositErc20
  | tokenIndex
  | processDeposits
  | close (contract : Contract)
  deriving DecidableEq, Repr

/-- The contract whose client is asked. -/
def Method.contract : Method → Contract
  | processDeposits => .rollup
  | close contract => contract
  | _ => .liquidity

/-- A call of one of the two contracts, or the end of the connection to it. -/
inductive Call where
  | depositNative (salt : Octets) (amount : Nat)
  | depositErc20 (token : Address) (salt : Octets) (amount : Nat)
  | tokenIndex (type : TokenType) (token : Address) (id : Nat)
  | processDeposits (lastProcessed : Int) (hashes : List Octets)
  | closeLiquidity
  | closeRollup

namespace Call

/-- What a call asks for. -/
def method : Call → Method
  | depositNative .. => .depositNative
  | depositErc20 .. => .depositErc20
  | tokenIndex .. => .tokenIndex
  | processDeposits .. => .processDeposits
  | closeLiquidity => .close .liquidity
  | closeRollup => .close .rollup

/-- The arguments of a call. -/
def arguments : Call → List Value
  | depositNative salt amount => [.bytes salt, .int amount]
  | depositErc20 token salt amount => [.text token.text, .bytes salt, .int amount]
  | tokenIndex type token id => [.int type.code, .text token.text, .int id]
  | processDeposits lastProcessed hashes => [.int lastProcessed, .list (hashes.map .bytes)]
  | _ => []

end Call

/-- What comes of a call. -/
abbrev Reply := Except Client.Fault Value

/-- What is done across the two chains. -/
abbrev Journey := ExceptT Failure (Program Call Reply)

namespace Journey

/-- Makes a call; its failure ends the journey. -/
def call (c : Call) : Journey Value := do
  match ← ExceptT.lift (Program.query c) with
  | .ok v => pure v
  | .error fault => throw (.client fault)

/-- Takes a note. -/
def note (level : Level) (source : Source) (text : String) : Journey Unit :=
  ExceptT.lift (Program.journal level source text)

/-- A result or a failure as a step. -/
def take {α : Type} : Except Failure α → Journey α
  | .ok a => pure a
  | .error failure => throw failure

/-- What comes of a journey, as the result of one that does not fail. -/
def attempt {α : Type} (journey : Journey α) : Journey (Except Failure α) :=
  ExceptT.lift journey.run

end Journey

end DepositBridge.Bridge
