import DepositBridge.Abi.Codec

/-!
# Looking up an interface

The functions and events of a contract's interface. A function is found by its name and by the
arguments that it is called with; exactly one has to fit.
-/

namespace DepositBridge.Abi

/-- Why an interface has no function or event that fits. -/
inductive LookupFault where
  | noFunctions
  | noEvents
  | functionNotFound (name : String)
  | eventNotFound (name : String)
  /-- The arguments fit none of the functions of the name, or more than one. -/
  | mismatch (name : String)
  deriving DecidableEq, Repr

/-- The wording of a fault. -/
def LookupFault.message : LookupFault → String
  | noFunctions => "The interface has no functions"
  | noEvents => "The interface has no events"
  | functionNotFound name => s!"The interface has no function {name}"
  | eventNotFound name => s!"The interface has no event {name}"
  | mismatch name => s!"The arguments do not fit exactly one function {name}"

/-- How deep the tuples of an interface may be nested. -/
def tupleDepth : Nat := 32

/-- Whether an entry is of a kind. -/
def isKind (kind : String) (entry : Value) : Bool :=
  match entry.get? "type" with
  | some (.text s) => s = kind
  | _ => false

/-- Whether an entry has a name. -/
def hasName (name : String) (entry : Value) : Bool :=
  match entry.get? "name" with
  | some (.text s) => s = name
  | _ => false

/-- The parameters of an entry under a field. -/
def parametersOf (field : String) (entry : Value) : List Value :=
  match entry.get? field with
  | some (.list parameters) => parameters
  | _ => []

/-- The types of the parameters of an entry under a field. -/
def typesOf? (field : String) (entry : Value) : Option (List Ty) :=
  (parametersOf field entry).mapM (Ty.ofParameter? tupleDepth)

/-- The four octets that stand for a signature in a call. -/
def selectorOf (signature : String) : Octets := (Keccak.hash (Text.encodeUtf8 signature)).take 4

/-- A function of an interface. -/
structure Function where
  name : String
  inputs : List Ty
  outputs : List Ty
  /-- Whether value may go with a call. -/
  takesValue : Bool

namespace Function

/-- Whether an entry denies that value may go with a call, in either of two fields. -/
def deniesValue (entry : Value) : Bool :=
  (match entry.get? "payable" with
    | some v => !v.isGiven
    | none => false) ||
  (match entry.get? "stateMutability" with
    | some (.text s) => s = "nonpayable"
    | _ => false)

/-- The function of an entry. -/
def ofEntry? (name : String) (entry : Value) : Option Function := do
  let inputs ← typesOf? "inputs" entry
  let outputs ← typesOf? "outputs" entry
  pure ⟨name, inputs, outputs, !deniesValue entry⟩

/-- The text whose hash tells a function from others. -/
def signature (f : Function) : String := f.name ++ (Ty.tuple f.inputs).name

/-- The four octets that name a function in a call. -/
def selector (f : Function) : Octets := selectorOf f.signature

/-- The octets of a call with data. -/
def callData (f : Function) (data : List Datum) : Octets := f.selector ++ encodeAll f.inputs data

end Function

/-- A function with the data of a call. -/
structure Call where
  function : Function
  data : List Datum

/-- The octets of a call. -/
def Call.octets (call : Call) : Octets := call.function.callData call.data

/-- The call of a function of an entry with arguments, if they fit. -/
def callOf? (name : String) (arguments : List Value) (entry : Value) : Option Call := do
  let f ← Function.ofEntry? name entry
  let data ← Ty.allOf? f.inputs arguments
  if isEncodable f.inputs data then pure ⟨f, data⟩ else none

/-- The functions of a name; there has to be one. -/
def functionsNamed (entries : List Value) (name : String) : Except LookupFault (List Value) :=
  let functions := entries.filter (isKind "function")
  if functions.isEmpty then .error .noFunctions
  else
    let named := functions.filter (hasName name)
    if named.isEmpty then .error (.functionNotFound name) else .ok named

/-- The call of the one function of a name that arguments fit. -/
def findCall (entries : List Value) (name : String) (arguments : List Value) :
    Except LookupFault Call := do
  let named ← functionsNamed entries name
  match named.filterMap (callOf? name arguments) with
  | [call] => pure call
  | _ => throw (.mismatch name)

/-- The event of a name. -/
def findEvent (entries : List Value) (name : String) : Except LookupFault Value :=
  let events := entries.filter (isKind "event")
  if events.isEmpty then .error .noEvents
  else
    match events.find? (hasName name) with
    | some entry => .ok entry
    | none => .error (.eventNotFound name)

/-- The names of all entries that have one, in order. -/
def entryNames (entries : List Value) : List String :=
  entries.filterMap fun entry =>
    match entry.get? "name" with
    | some (.text s) => some s
    | _ => none

end DepositBridge.Abi
