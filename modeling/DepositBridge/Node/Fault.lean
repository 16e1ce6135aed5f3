import DepositBridge.Abi.Codec
import DepositBridge.Node.Request
import DepositBridge.Text.Basic

/-!
# Error answers

What an error object of a node says. A call that the contract gave up says why in the object's data
or in its message.
-/

namespace DepositBridge.Node

/-- Why a node did not do what it was asked to do. -/
inductive Fault where
  | refused (object : Value)
  | methodUnavailable (object : Value)
  | transactionNotFound (object : Value)
  | timedOut (object : Value)
  /-- The error object has no message or no code. -/
  | badObject
  /-- The contract gave up with a reason. -/
  | reverted (reason : String) (data : Value)
  /-- The contract ran into a check that its compiler put in. -/
  | panicked (reason : String) (data : Value)
  /-- A check that its compiler put in, with a code of no known meaning. -/
  | unknownPanic
  /-- The contract gave up with an error of its own. -/
  | custom (data : String)

private def quotedOrEmpty (v : Value) : String := v.quoted.toOption.getD ""

private def pair (reason : String) (data : Value) : String :=
  "(" ++ Text.quote reason ++ ", " ++ quotedOrEmpty data ++ ")"

/-- The wording of a fault. -/
def Fault.message : Fault → String
  | refused object => quotedOrEmpty object
  | methodUnavailable object => quotedOrEmpty object
  | transactionNotFound object => quotedOrEmpty object
  | timedOut object => quotedOrEmpty object
  | badObject => "The node's error has no message or no code"
  | reverted reason data => pair reason data
  | panicked reason data => pair reason data
  | unknownPanic => "The node's error has an unknown code"
  | custom data => pair data (.text data)

/-! ## Calls that a contract gave up -/

/-- The meanings of the codes of compilers' checks. -/
def panicReasons : List (String × String) := [
  ("00", "Panic error 0x00: Generic compiler inserted panic."),
  ("01", "Panic error 0x01: Assert evaluates to false."),
  ("11", "Panic error 0x11: Arithmetic operation results in underflow or overflow."),
  ("12", "Panic error 0x12: Division by zero."),
  ("21", "Panic error 0x21: Cannot convert value into an enum type."),
  ("22", "Panic error 0x12: Storage byte array is incorrectly encoded."),
  ("31", "Panic error 0x31: Call to 'pop()' on an empty array."),
  ("32", "Panic error 0x32: Array index is out of bounds."),
  ("41", "Panic error 0x41: Allocation of too much memory or array too large."),
  ("51", "Panic error 0x51: Call to a zero-initialized variable of internal function type.")]

/-- The selector of a reason in words. -/
def reasonSelector : List Char := "0x08c379a0".toList

/-- The selector of a compiler's check. -/
def panicSelector : List Char := "0x4e487b71".toList

/-- The reason in words that data hold. -/
def reasonOf? (data : List Char) : Option String := do
  let octets ← Hex.decodePairs? (data.drop 10)
  match Abi.decodeAll? [.string] octets with
  | some [.text reason] => some reason
  | _ => none

/-- What the data of an error say, if they say anything. -/
def faultOfData? (data : String) : Option Fault :=
  let chars := data.toList
  let selector := chars.take 10
  if selector = panicSelector then
    match panicReasons.lookup (String.ofList (chars.drop (chars.length - 2))) with
    | some reason => some (.panicked reason (.text data))
    | none => some .unknownPanic
  else if selector = reasonSelector then
    (reasonOf? chars).map fun reason => .reverted ("execution reverted: " ++ reason) (.text data)
  else if chars.length ≥ 10 then some (.custom data)
  else none

/-- The words by which a node says that a contract gave up. -/
def revertedWords : String := "execution reverted"

/-- What an error object says about a call that a contract gave up, if it says so. -/
def revertOf? (code : Int) (message : String) (data : Option Value) : Option Fault :=
  let hasMessage := !message.isEmpty
  let missing : Value := .text "no data"
  let ofMessage (data : Value) : Option Fault :=
    if !hasMessage then none
    else if code = 3 then some (.reverted message data)
    else if Text.occursIn revertedWords.toList message.toList then
      some (.reverted revertedWords data)
    else none
  match data with
  | none => ofMessage missing
  | some .null => some (.reverted (if hasMessage then message else revertedWords) missing)
  | some (.object members) =>
    if hasMessage then some (.reverted (revertedWords ++ ": " ++ message) (.object members))
    else none
  | some (.text s) => (faultOfData? s).or (ofMessage (.text s))
  | some v => ofMessage v

/-! ## Error objects -/

/-- What an error object says. `isCall` tells that the request ran a contract. -/
def faultOf (isCall : Bool) (object : Value) : Fault :=
  match object.get? "message", object.get? "code" with
  | some (.text message), some (.int code) =>
    let revert := if isCall then revertOf? code message (object.get? "data") else none
    match revert with
    | some fault => fault
    | none =>
      if message = "transaction not found" then .transactionNotFound object
      else if code = -32601 then .methodUnavailable object
      else if Text.occursIn "request timed out".toList (message.toList.map Char.toLower) then
        .timedOut object
      else .refused object
  | _, _ => .badObject

end DepositBridge.Node
