import DepositBridge.Address
import DepositBridge.Transaction.Basic
import DepositBridge.Value

/-!
# Transactions from fields

The draft of a transaction that is given as loosely typed fields. The fields tell which form is
meant.
-/

namespace DepositBridge.Transaction

/-- Why fields make no transaction. -/
inductive Fault where
  /-- A field is missing, unknown or of the wrong kind. -/
  | malformed
  /-- A field's value has no form as a number or octets. -/
  | unformattable (field quoted : String)
  /-- A number is negative, or too large for its place. -/
  | unwritable (number : Unwritable)
  deriving DecidableEq, Repr

/-- The wording of a fault. -/
def Fault.message : Fault → String
  | malformed => "Transaction fields are missing, unknown or of the wrong kind"
  | unformattable field quoted =>
    s!"Could not format invalid value {quoted} as field " ++ Text.quote field
  | unwritable number => number.message

/-- Hexadecimal text behind its mark, as a field may hold a number. -/
def markedDigits? (text : String) : Option (List Char) :=
  let chars := text.toList
  if Hex.isMarked chars && (Hex.dropMark chars).all Hex.isDigit then some (Hex.dropMark chars)
  else none

private def unformattable (field : String) (v : Value) : Fault :=
  .unformattable field (v.quoted.toOption.getD "")

/-- A number, or its hexadecimal text behind a mark. -/
def numberField (field : String) (v : Value) : Except Fault Int :=
  match v with
  | .int n => .ok n
  | .text s =>
    match markedDigits? s with
    | some digits =>
      match Hex.number? digits with
      | some n => .ok n
      | none => .error (unformattable field v)
    | none => .error .malformed
  | _ => .error .malformed

/-- Octets, a number's octets, or hexadecimal text with or without a mark. -/
def dataField (v : Value) : Except Fault Octets :=
  match v with
  | .bytes octets => .ok octets
  | .text s =>
    match Hex.decodeLoose? s with
    | some octets => .ok octets
    | none => .error (unformattable "data" v)
  | .int n =>
    if n < 0 then .error (unformattable "data" v)
    else if n = 0 then .ok [0]
    else .ok (Octets.ofNat n.toNat)
  | .bool b => .ok [if b then 1 else 0]
  | _ => .error .malformed

/-- The receiver: an address with its checksum, twenty octets, or nothing. -/
def receiverField (v : Value) : Except Fault Octets :=
  match v with
  | .null => .ok []
  | .text "" => .ok []
  | .text s =>
    match Address.ofText? s with
    | some address => if address.text = s then .ok address.octets else .error .malformed
    | none => .error .malformed
  | .bytes octets => if octets.isEmpty || octets.length = 20 then .ok octets else .error .malformed
  | _ => .error .malformed

/-- Whether reading a field fails for its kind. -/
def isMalformed {α : Type} : Except Fault α → Bool
  | .error .malformed => true
  | _ => false

/-- All of what has been read. What is of the wrong kind wins over what cannot be formatted. -/
def collect {α : Type} (read : List (Except Fault α)) : Except Fault (List α) :=
  if read.any isMalformed then .error .malformed else read.mapM id

/-- One entry of an access list: an object of an address and a list of storage places. -/
def accessEntry (v : Value) : Except Fault (AccessEntry Int) :=
  match v with
  | .object members =>
    match Value.member? members "address", Value.member? members "storageKeys" with
    | some address, some (.list places) =>
      if members.length ≠ 2 then .error .malformed
      else do
        let address ← match address with
          | .text s =>
            match Address.ofText? s with
            | some address => pure address.octets
            | none => throw .malformed
          | .bytes octets => if octets.length = 20 then pure octets else throw .malformed
          | _ => throw .malformed
        let places ← collect (places.map (numberField "storageKeys"))
        pure ⟨address, places⟩
    | _, _ => .error .malformed
  | _ => .error .malformed

/-- The access list of a field. One of the right kind that cannot be formatted is quoted as a
whole. -/
def accessListField (v : Value) : Except Fault (List (AccessEntry Int)) :=
  match v with
  | .list entries =>
    (collect (entries.map accessEntry)).mapError fun
      | .malformed => .malformed
      | _ => unformattable "accessList" v
  | _ => .error .malformed

/-- The form that fields ask for: the one they name, or the first for which they have a field. -/
def formOf (members : List (String × Value)) : Except Fault Nat :=
  let has (name : String) : Bool := (Value.member? members name).isSome
  match Value.member? members "type" with
  | some v => do
    let n ← numberField "type" v
    if n = 1 then pure 1 else if n = 2 then pure 2 else throw .malformed
  | none =>
    if has "maxFeePerGas" || has "maxPriorityFeePerGas" then pure 2
    else if has "accessList" then pure 1
    else pure 0

/-- The fields of all forms. -/
def sharedFields : List String := ["chainId", "nonce", "gas", "to", "value", "data"]

/-- The fields of a form. -/
def allowedFields : Nat → List String
  | 0 => "gasPrice" :: sharedFields
  | 1 => ["gasPrice", "accessList", "type"] ++ sharedFields
  | _ => ["maxPriorityFeePerGas", "maxFeePerGas", "accessList", "type"] ++ sharedFields

/-- The fields that a form cannot do without. -/
def requiredFields : Nat → List String
  | 2 => ["nonce", "gas", "maxPriorityFeePerGas", "maxFeePerGas"]
  | _ => ["nonce", "gas", "gasPrice"]

/-- A field that has to be there. -/
def requiredField {α : Type} (members : List (String × Value)) (name : String)
    (read : Value → Except Fault α) : Except Fault α :=
  match Value.member? members name with
  | some v => read v
  | none => .error .malformed

/-- A field that may be absent, and then has a given value. -/
def optionalField {α : Type} (members : List (String × Value)) (name : String) (default_ : α)
    (read : Value → Except Fault α) : Except Fault α :=
  match Value.member? members name with
  | some v => read v
  | none => .ok default_

/-- The number of a chain; in a plain transaction null leaves it open. -/
def chainField (form : Nat) (v : Value) : Except Fault (Option Int) :=
  match form, v with
  | 0, .null => .ok none
  | 0, v => (numberField "v" v).map some
  | _, v => (numberField "chainId" v).map some

/-- Reads a field for what is wrong with it. -/
def checkField (form : Nat) (name : String) (v : Value) : Except Fault Unit :=
  match name with
  | "to" => (receiverField v).map fun _ => ()
  | "data" => (dataField v).map fun _ => ()
  | "accessList" => (accessListField v).map fun _ => ()
  | "chainId" => (chainField form v).map fun _ => ()
  | _ => (numberField name v).map fun _ => ()

/-- The order in which fields are formatted: those that may be absent come first, but the chain of a
plain transaction comes last. -/
def formattingOrder (form : Nat) (members : List (String × Value)) : List String :=
  let first := if form = 0 then ["to", "value", "data"]
    else ["type", "chainId", "to", "value", "data", "accessList"]
  let last := if form = 0 then ["chainId"] else []
  first ++ (members.map (·.1)).filter (fun name => !(first ++ last).contains name) ++ last

/-- The draft of the members of an object. All fields have to be there and of their kinds before one
is formatted. -/
def Draft.ofMembers (members : List (String × Value)) : Except Fault Draft := do
  let form ← formOf members
  let known := members.all fun (name, v) =>
    (allowedFields form).contains name && !isMalformed (checkField form name v)
  let complete := (requiredFields form).all fun name => (Value.member? members name).isSome
  if !(known && complete) then throw .malformed
  (formattingOrder form members).forM fun name =>
    optionalField members name () (checkField form name)
  let number (name : String) := requiredField members name (numberField name)
  let receiver ← optionalField members "to" [] receiverField
  let value ← optionalField members "value" 0 (numberField "value")
  let data ← optionalField members "data" [] dataField
  let chainId ← optionalField members "chainId" (if form = 0 then none else some 0)
    (chainField form)
  let nonce ← number "nonce"
  let gas ← number "gas"
  let accessList ← optionalField members "accessList" [] accessListField
  let pricing ← match form with
    | 0 => do pure (Pricing.plain (← number "gasPrice"))
    | 1 => do pure (Pricing.listed (← number "gasPrice") accessList)
    | _ => do
      pure (Pricing.dynamic (← number "maxPriorityFeePerGas") (← number "maxFeePerGas") accessList)
  pure { chainId, nonce, gas, receiver, value, data, pricing }

/-- The transaction of the members of an object. -/
def ofMembers (members : List (String × Value)) : Except Fault Transaction := do
  let draft ← Draft.ofMembers members
  (ofDraft draft).mapError .unwritable

end DepositBridge.Transaction
