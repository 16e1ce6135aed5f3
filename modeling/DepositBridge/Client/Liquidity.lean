import DepositBridge.Client.Submission
import DepositBridge.Deposit.Token

/-!
# The liquidity contract

The calls of the contract on the first chain that takes deposits and numbers the tokens.
-/

namespace DepositBridge.Client

open Session (take note)

variable (client : Client)

/-! ## Deposits -/

/-- The address of an argument, as the text that is put into the call. -/
def addressArgument (v : Value) : Except Fault Value :=
  ((Address.ofValue v).mapError .refused).map fun address => .text address.text

/-- Deposits the native token of the chain; the amount goes with the call. Null stands for no
amount. -/
def depositNative (salt amount : Value) : Session Octets := do
  let name := "depositNativeToken"
  let call ← take ((Abi.findCall client.entries name [salt]).mapError .lookup)
  let amount := match amount with
    | .null => none
    | v => some v
  client.transact name call amount

/-- Deposits tokens of a contract, which has to allow it. -/
def depositErc20 (token salt amount : Value) : Session Octets := do
  let name := "depositERC20"
  let _ ← take ((Abi.functionsNamed client.entries name).mapError .lookup)
  let token ← take (addressArgument token)
  let call ← take ((Abi.findCall client.entries name [token, salt, amount]).mapError .lookup)
  client.transact name call none

/-! ## Calls that change nothing -/

/-- The data that a call answers. An empty answer makes the client ask whether there is a contract
at all. -/
def ask (call : Abi.Call) : Session (List Abi.Datum) := do
  client.checkChain none
  let fields : Node.CallFields :=
    { value := none, sender := none, nonce := none, gas := none, receiver := client.address
      data := call.octets }
  let answer ← take (Read.octets (← client.send (.call fields)))
  match Abi.decodeAll? call.function.outputs answer with
  | some data => pure data
  | none =>
    if answer.isEmpty then
      let _ ← take (Read.octets (← client.send (.code client.address)))
    throw .undecodable

/-- The kind of token of an argument: its number, however it is written. -/
def tokenTypeArgument (v : Value) : Except Fault TokenType :=
  let number := match v with
    | .int n => some n
    | .bool b => some (if b then 1 else 0)
    | .float x => x.toInt?
    | _ => none
  match number.bind TokenType.ofCode? with
  | some t => .ok t
  | none => .error (.refused (.tokenType v))

/-- What the contract says about a token: whether it is registered, and its index. -/
def tokenAnswer : List Abi.Datum → Except Fault (Bool × Int)
  | [.flag found, .number index] => .ok (found, index)
  | _ => .error .malformed

/-- The index of a token. One that is not registered has an index too, and is noted. -/
def tokenIndex (type : TokenType) (token id : Value) : Session Int := do
  let name := "getTokenIndex"
  let _ ← take ((Abi.functionsNamed client.entries name).mapError .lookup)
  let address ← take (addressArgument token)
  let arguments := [.int type.code, address, id]
  let call ← take ((Abi.findCall client.entries name arguments).mapError .lookup)
  let (found, index) ← take (tokenAnswer (← client.ask call))
  if !found then
    let shown (v : Value) : String := (v.shown.toOption).getD ""
    note .warning (s!"Token (type={type.code}, address={shown token}, id={shown id}) " ++
      s!"is not registered; contract returned index {index}")
  pure index

end DepositBridge.Client
