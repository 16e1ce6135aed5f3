import DepositBridge.EnvFile
import DepositBridge.Field

/-!
# Settings

The endpoints and contract addresses of the two chains, read from an environment. A variable that is
missing hides what is wrong with the others; otherwise every problem is reported, one per variable.
-/

namespace DepositBridge

/-- Checked settings. -/
structure Settings where
  l1Url : Url
  l1ChainId : Int
  liquidityAddress : Address
  l2Url : Url
  l2ChainId : Int
  rollupAddress : Address
  deployedBlock : Int
  abiDirectory : Option Path

namespace Settings

/-- Why an environment gives no settings. -/
inductive Fault where
  /-- Required variables that are absent or empty. -/
  | missing (names : List String)
  /-- Variables whose values are not accepted, each named as its field. -/
  | invalid (problems : List Problem)

/-- The wording of a fault. -/
def Fault.message : Fault → String
  | .missing names => "Missing environment variables: " ++ String.intercalate ", " names
  | .invalid problems =>
    "Invalid configuration: " ++ String.intercalate "; " (problems.map fun problem =>
      problem.field ++ ": " ++ problem.fault.message)

/-- The variables that have to be set. -/
def requiredVariables : List String := [
  "L1_RPC_URL", "L1_CHAIN_ID", "LIQUIDITY_CONTRACT_ADDRESS", "L2_RPC_URL", "L2_CHAIN_ID",
  "ROLLUP_CONTRACT_ADDRESS", "ROLLUP_CONTRACT_DEPLOYED_BLOCK_NUMBER"]

/-- The number of a chain. -/
def chainId (v : Value) : Except FieldFault Int := do
  let n ← Field.int v
  if n ≤ 0 then throw (.refused (.chainId n)) else pure n

/-- The number of a block. -/
def blockNumber (v : Value) : Except FieldFault Int := do
  let n ← Field.int v
  if n < 0 then throw (.refused (.blockNumber n)) else pure n

/-- The directory of the artifacts; none when the variable is absent or empty. -/
def directory : Option Value → Except FieldFault (Option Path)
  | none => .ok none
  | some v =>
    if !v.isGiven then .ok none
    else
      match v with
      | .text s => .ok (some (Path.ofText s))
      | _ => .error .pathKind

/-- The settings of variables and their values. -/
def ofVariables (given : List (String × Value)) : Except Fault Settings :=
  let value := Value.member? given
  let isSet (name : String) : Bool := ((value name).map Value.isGiven).getD false
  match requiredVariables.filter fun name => !isSet name with
  | [] =>
    let input (name : String) : Input :=
      .ofField (given.map fun (name, v) => (name, .raw v)) ((value name).map .raw)
    let read {α β : Type} (record : Checked (α → β)) (name : String)
        (reader : Value → Except FieldFault α) : Checked β :=
      record.field name (input name) (Field.required reader (value name))
    let record := read (.valid Settings.mk) "L1_RPC_URL" Field.url
    let record := read record "L1_CHAIN_ID" chainId
    let record := read record "LIQUIDITY_CONTRACT_ADDRESS" Field.address
    let record := read record "L2_RPC_URL" Field.url
    let record := read record "L2_CHAIN_ID" chainId
    let record := read record "ROLLUP_CONTRACT_ADDRESS" Field.address
    let record := read record "ROLLUP_CONTRACT_DEPLOYED_BLOCK_NUMBER" blockNumber
    (record.field "ABI_DIR" (input "ABI_DIR") (directory (value "ABI_DIR"))).toExcept .invalid
  | missing => .error (.missing missing)

/-! ## Environments -/

/-- The settings of an environment. -/
def ofEnvironment (environment : EnvFile.Environment) : Except Fault Settings :=
  ofVariables (environment.map fun (name, text) => (name, .text text))

/-- Merges a file into an environment. No file, or none that is there, leaves it as it is. -/
def mergeFile (tree : FileTree) (file : Option String) (environment : EnvFile.Environment) :
    EnvFile.Merge :=
  match file with
  | none => ⟨environment, none⟩
  | some "" => ⟨environment, none⟩
  | some name =>
    match tree.read? (Path.ofText name) with
    | none => ⟨environment, none⟩
    | some content => EnvFile.merge environment content

end Settings

end DepositBridge
