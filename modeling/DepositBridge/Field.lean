import DepositBridge.Address
import DepositBridge.Bytes32
import DepositBridge.Url.Basic

/-!
# Fields

How the loosely typed fields of a record are read, and what is reported when they cannot be. A
record reports the problems of all its fields at once, in the order of the fields.
-/

namespace DepositBridge

/-! ## Faults -/

/-- A rule of the domain that a value breaks. -/
inductive Refusal where
  | address (value : Value)
  | hash (fault : Bytes32.Fault)
  | hashKind
  | privateKey
  | amountRange (n : Int)
  | tokenIndexRange (n : Int)
  | tokenType (value : Value)
  | tokenIdKind (kind : String)
  | tokenIdRange (text : String)
  | numeral (fault : Numeral.Fault)
  | chainId (n : Int)
  | blockNumber (n : Int)

/-- A message that ends in a number; a number with too many digits makes a message of its own. -/
def messageWith (start : String) (n : Int) : String :=
  match Numeral.write n with
  | .ok digits => start ++ digits
  | .error fault => fault.message

/-- The wording of a refusal. -/
def Refusal.message : Refusal → String
  | address value =>
    match value.quoted with
    | .ok quoted => "Invalid address: " ++ quoted
    | .error fault => fault.message
  | hash fault => fault.message
  | hashKind => "pubkey salt hash must be hex or bytes"
  | privateKey => "private key must be 32 bytes of hex"
  | amountRange n => messageWith "amount out of uint256 range: " n
  | tokenIndexRange n => messageWith "token index out of uint32 range: " n
  | tokenType value =>
    match value.quoted with
    | .ok quoted => quoted ++ " is not a valid TokenType"
    | .error fault => fault.message
  | tokenIdKind kind => "token id must be a string, got " ++ kind
  | tokenIdRange text => "token id out of uint256 range: " ++ text
  | numeral fault => fault.message
  | chainId n => messageWith "chain id must be positive, got " n
  | blockNumber n => messageWith "block number must not be negative, got " n

/-- The address that a value writes. Nothing but text does. The case of the letters is no reason to
refuse a text, also where it is mixed and carries no checksum or a wrong one. -/
def Address.ofValue (v : Value) : Except Refusal Address :=
  match v with
  | .text s =>
    match Address.ofText? s with
    | some a => .ok a
    | none => .error (.address v)
  | _ => .error (.address v)

/-- The text, with its checksum, of the address that a value writes. -/
def Address.checksum (v : Value) : Except Refusal String := (ofValue v).map text

/-- Why a field is not accepted. -/
inductive FieldFault where
  | missing
  | intKind
  | intText
  | intTooLong
  | intFraction
  | notFinite
  | textKind
  | textEncoding
  | url (fault : Url.Fault)
  | urlKind
  | pathKind
  | frozen
  | refused (refusal : Refusal)

namespace FieldFault

/-- The short name of a fault. -/
def code : FieldFault → String
  | missing => "missing"
  | intKind => "int_type"
  | intText => "int_parsing"
  | intTooLong => "int_parsing_size"
  | intFraction => "int_from_float"
  | notFinite => "finite_number"
  | textKind => "string_type"
  | textEncoding => "string_unicode"
  | url .unsupportedScheme => "url_scheme"
  | url _ => "url_parsing"
  | urlKind => "url_type"
  | pathKind => "path_type"
  | frozen => "frozen_instance"
  | refused _ => "value_error"

/-- The wording of a fault. -/
def message : FieldFault → String
  | missing => "Field required"
  | intKind => "Input should be a valid integer"
  | intText => "Input should be a valid integer, unable to parse string as an integer"
  | intTooLong => "Unable to parse input string as an integer, exceeded maximum size"
  | intFraction => "Input should be a valid integer, got a number with a fractional part"
  | notFinite => "Input should be a finite number"
  | textKind => "Input should be a valid string"
  | textEncoding => "Input should be a valid string, unable to parse raw data as a unicode string"
  | url .unsupportedScheme => "URL scheme should be 'http' or 'https'"
  | url fault => "Input should be a valid URL, " ++ fault.message
  | urlKind => "URL input should be a string or URL"
  | pathKind => "Input is not a valid path"
  | frozen => "Instance is frozen"
  | refused refusal => "Value error, " ++ refusal.message

end FieldFault

/-- What is given for a field: a value, or a URL that has been read already. -/
inductive Given where
  | parsed (url : Url)
  | raw (v : Value)

/-- What a report repeats of what was given: what stands in a field, or, where a field is missing,
everything that was given for the record. -/
inductive Input where
  | field (given : Given)
  | record (fields : List (String × Given))

/-- The fields of a record for which something is given. -/
def givenFields (fields : List (String × Option Given)) : List (String × Given) :=
  fields.filterMap fun (name, given) => given.map fun given => (name, given)

/-- The input of a field, of which something may be given. -/
def Input.ofField (fields : List (String × Given)) : Option Given → Input
  | some given => .field given
  | none => .record fields

/-- A field, what is wrong with it, and the input at which that was found. A report in words leaves
the input out; the list of the problems has it. -/
structure Problem where
  field : String
  fault : FieldFault
  input : Input

/-! ## Records -/

/-- A record that is checked field by field: its value, or the problems of all its fields. -/
inductive Checked (α : Type) where
  | valid (a : α)
  | invalid (problems : List Problem)

namespace Checked

/-- Reads one more field: its name, its input and its value. -/
def field {α β : Type} (record : Checked (α → β)) (name : String) (input : Input)
    (value : Except FieldFault α) : Checked β :=
  match record, value with
  | valid make, .ok a => valid (make a)
  | valid _, .error fault => invalid [⟨name, fault, input⟩]
  | invalid problems, .ok _ => invalid problems
  | invalid problems, .error fault => invalid (problems ++ [⟨name, fault, input⟩])

/-- The record, or its problems as an error. -/
def toExcept {α ε : Type} (wrap : List Problem → ε) : Checked α → Except ε α
  | valid a => .ok a
  | invalid problems => .error (wrap problems)

end Checked

/-! ## Kinds of fields -/

namespace Field

/-- A field that has to be there. -/
def required {α : Type} (read : Value → Except FieldFault α) : Option Value → Except FieldFault α
  | some v => read v
  | none => .error .missing

/-- A field that may be absent, and then has a given value. -/
def withDefault {α : Type} (default_ : α) (read : Value → Except FieldFault α) :
    Option Value → Except FieldFault α
  | some v => read v
  | none => .ok default_

/-- The whole number of a text. -/
def intOfText (text : String) : Except FieldFault Int :=
  match Numeral.readLoose text with
  | .ok n => .ok n
  | .error .malformed => .error .intText
  | .error .tooLong => .error .intTooLong

/-- A whole number: a number, a truth value, a float without fraction that fits into sixty-four
bits, or a numeral. -/
def int : Value → Except FieldFault Int
  | .int n => .ok n
  | .bool b => .ok (if b then 1 else 0)
  | .float x =>
    match x with
    | .finite .. =>
      match x.toInt? with
      | some n => if -(Nat.pow 2 63 : Int) < n ∧ n < Nat.pow 2 63 then .ok n else .error .intTooLong
      | none => .error .intFraction
    | _ => .error .notFinite
  | .text s => intOfText s
  | .bytes octets =>
    match Text.decodeUtf8 octets with
    | .ok s => intOfText s
    | .error _ => .error .intText
  | _ => .error .intKind

/-- A text, also one that comes as octets. -/
def text : Value → Except FieldFault String
  | .text s => .ok s
  | .bytes octets =>
    match Text.decodeUtf8 octets with
    | .ok s => .ok s
    | .error _ => .error .textEncoding
  | _ => .error .textKind

/-- An address. -/
def address (v : Value) : Except FieldFault Address := do
  let s ← text v
  match Address.ofValue (.text s) with
  | .ok a => pure a
  | .error refusal => throw (.refused refusal)

/-- The URL of a text. -/
def urlOfText (text : String) : Except FieldFault Url :=
  match Url.read text with
  | .ok url => .ok url
  | .error fault => .error (.url fault)

/-- A URL, also one that comes as octets. -/
def url : Value → Except FieldFault Url
  | .text s => urlOfText s
  | .bytes octets =>
    match Text.decodeUtf8 octets with
    | .ok s => urlOfText s
    | .error _ => .error .urlKind
  | _ => .error .urlKind

/-- A hash: thirty-two octets or their text. -/
def hash : Value → Except FieldFault Octets
  | .text s =>
    match Bytes32.ofText s with
    | .ok octets => .ok octets
    | .error fault => .error (.refused (.hash fault))
  | .bytes octets =>
    match Bytes32.ofOctets octets with
    | .ok octets => .ok octets
    | .error fault => .error (.refused (.hash fault))
  | _ => .error (.refused .hashKind)

/-- A whole number below a bound. -/
def intBelow (bound : Int) (refusal : Int → Refusal) (v : Value) : Except FieldFault Nat := do
  let n ← int v
  if 0 ≤ n ∧ n < bound then pure n.toNat else throw (.refused (refusal n))

/-- An amount in base units. -/
def amount : Value → Except FieldFault Nat := intBelow (Nat.pow 2 256) .amountRange

end Field

end DepositBridge
