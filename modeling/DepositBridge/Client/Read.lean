import DepositBridge.Client.Fault

/-!
# Reading answers

The numbers, octets and records in what a node answers. A field that nobody asks for is left unread,
whatever stands in it.
-/

namespace DepositBridge.Client.Read

/-- The number of a quantity: a number, or its hexadecimal text with or without a mark. -/
def quantity : Value → Except Fault Int
  | .int n => .ok n
  | .text s => (Numeral.read .sixteen s).mapError .numeral
  | _ => .error .malformed

/-- The octets of hexadecimal text. -/
def octets : Value → Except Fault Octets
  | .text s =>
    match Hex.decodeLoose? s with
    | some content => .ok content
    | none => .error .notHexadecimal
  | _ => .error .malformed

/-- Octets of a width: longer ones lose the zeros in front; of shorter ones what is behind the zeros
in front stays short. -/
def fitWidth (width : Nat) (content : Octets) : Except Fault Octets :=
  let excess := if content.length ≤ width then 2 * content.length - width
    else content.length - width
  if content.length = width then .ok content
  else if (content.take excess).all (· = 0) then .ok (content.drop excess)
  else .error (.width content width)

/-- The address of hexadecimal text. -/
def account : Value → Except Fault Address
  | .text s =>
    match Address.ofText? s with
    | some address => .ok address
    | none => .error .malformed
  | _ => .error .malformed

/-- A list of accounts. -/
def accounts : Value → Except Fault (List Address)
  | .list values => values.mapM account
  | _ => .error .malformed

/-- The members of a record. -/
def record : Value → Except Fault (List (String × Value))
  | .object members => .ok members
  | _ => .error .malformed

/-- A field of a record. -/
def field (members : List (String × Value)) (name : String) : Except Fault Value :=
  match Value.member? members name with
  | some v => .ok v
  | none => .error (.missingField name)

/-- A field of a record as a number, when it is text. -/
def numberIfText : Value → Except Fault Value
  | .text s => ((Numeral.read .sixteen s).mapError .numeral).map .int
  | v => .ok v

/-- The members of a record with the texts of some of them read as numbers. -/
def withNumbers (names : List String) (members : List (String × Value)) :
    Except Fault (List (String × Value)) :=
  members.mapM fun (name, v) => do
    if names.contains name then pure (name, ← numberIfText v) else pure (name, v)

/-- Whether an answer says that there is nothing. -/
def isNothing : Value → Bool
  | .null => true
  | .text s => s = "0x"
  | _ => false

/-- Whether the status of a receipt tells of success. -/
def isSuccess : Value → Bool
  | .int n => n = 1
  | .bool b => b
  | .float x => x.toInt? = some 1
  | _ => false

end DepositBridge.Client.Read
