import DepositBridge.Abi.Interface

/-!
# Coherent interfaces

An interface that a client can be made of: its entries are objects with a kind, its functions have
selectors of their own, its functions and events have names, and no entry has a name that clients
keep for themselves.
-/

namespace DepositBridge.Abi

/-- Why no client can be made of an interface. -/
inductive CoherenceFault where
  /-- An entry is no object. -/
  | notObjects
  /-- An entry, or a parameter, lacks a field. -/
  | missingField (name : String)
  /-- A field is of the wrong kind. -/
  | malformed
  /-- Functions share a selector: each such selector with the signatures of its functions. -/
  | collision (groups : List (Octets × List String))
  /-- An entry has a name that clients keep for themselves. -/
  | reservedName (name : String)
  deriving DecidableEq, Repr

/-- The wording of a fault. -/
def CoherenceFault.message : CoherenceFault → String
  | notObjects => "'abi' is not a list of dictionaries"
  | missingField name => Text.quote name
  | malformed => "A field of the interface is of the wrong kind"
  | collision groups =>
    "Abi contains functions with colliding selectors. Functions " ++
      String.intercalate " and\n" (groups.map fun (selector, signatures) =>
        String.intercalate ", " signatures ++ " have selector " ++ Hex.encodeMarked selector)
  | reservedName name =>
    "Contract contains a reserved word \x60" ++ name ++ "\x60 and could not be instantiated."

/-! ## Signatures as they are written -/

/-- A field that has to be there. -/
def fieldOf (v : Value) (name : String) : Except CoherenceFault Value :=
  match v with
  | .object members =>
    match Value.member? members name with
    | some field => .ok field
    | none => .error (.missingField name)
  | _ => .error .malformed

/-- The type of a parameter as its signature writes it: a tuple by the types of its items. The first
argument bounds the depth of the parameter. -/
def writtenTypeWithin : Nat → Value → Except CoherenceFault String
  | 0, _ => .error .malformed
  | depth + 1, parameter => do
    match ← fieldOf parameter "type" with
    | .text name =>
      match name.toList with
      | 't' :: 'u' :: 'p' :: 'l' :: 'e' :: dimensions =>
        match ← fieldOf parameter "components" with
        | .list components => do
          let types ← components.mapM (writtenTypeWithin depth)
          pure ("(" ++ String.intercalate "," types ++ ")" ++ String.ofList dimensions)
        | _ => throw .malformed
      | _ => pure name
    | _ => throw .malformed

/-- The type of a parameter as its signature writes it. -/
def writtenType (parameter : Value) : Except CoherenceFault String :=
  writtenTypeWithin parameter.depth parameter

/-- The signature of a function's entry as it is written. -/
def writtenSignature (entry : Value) : Except CoherenceFault String := do
  let name := match entry.get? "name" with
    | some (.text name) => name
    | _ => "function"
  let types ← (parametersOf "inputs" entry).mapM writtenType
  pure (name ++ "(" ++ String.intercalate "," types ++ ")")

/-! ## Checking -/

/-- The selectors that more than one of some signatures have, in the order in which they first
occur, each with its signatures. -/
def collisions (signatures : List String) : List (Octets × List String) :=
  let named := signatures.map fun signature => (selectorOf signature, signature)
  let groups := (named.map (·.1)).eraseDups.map fun selector =>
    (selector, (named.filter (·.1 = selector)).map (·.2))
  groups.filter (·.2.length > 1)

/-- The names that clients keep for themselves, which no entry of any kind may have. -/
def reservedNames : List String := ["abi", "address"]

/-- Checks that an entry has no reserved name. -/
def checkName (entry : Value) : Except CoherenceFault Unit :=
  match entry.get? "name" with
  | some (.text name) => if reservedNames.contains name then .error (.reservedName name) else .ok ()
  | _ => .ok ()

/-- Checks that an entry has a name. -/
def requireName (entry : Value) : Except CoherenceFault Unit := do
  match ← fieldOf entry "name" with
  | .text _ => pure ()
  | _ => throw .malformed

/-- Checks that a client can be made of an interface. Of the names of a client's own attributes only
the reserved ones are known here: an entry with the name of any other attribute is taken like the
rest. -/
def checkEntries (entries : List Value) : Except CoherenceFault Unit := do
  if !entries.all fun | .object _ => true | _ => false then throw .notObjects
  entries.forM fun entry => (fieldOf entry "type").map fun _ => ()
  let functions := entries.filter (isKind "function")
  let signatures ← functions.mapM writtenSignature
  let groups := collisions signatures
  if !groups.isEmpty then throw (.collision groups)
  entries.forM checkName
  (functions ++ entries.filter (isKind "event")).forM requireName

end DepositBridge.Abi
