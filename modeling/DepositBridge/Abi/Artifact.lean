import DepositBridge.FileTree
import DepositBridge.Json.Reader

/-!
# Contract interfaces

The interface of a contract as the list of its entries, from a compiler's artifact or from the
entries that are built in. An artifact is the list itself or an object that holds it under `abi`.
-/

namespace DepositBridge.Abi

/-! ## Built-in interfaces -/

/-- The name of the contract that takes deposits. -/
def liquidityName : String := "Liquidity"

/-- The name of the contract that learns about deposits. -/
def rollupName : String := "Rollup"

private def parameter (name type internalType : String) : List (String × Value) :=
  [("name", .text name), ("type", .text type), ("internalType", .text internalType)]

private def function (name mutability : String) (inputs outputs : List Value) : Value :=
  .object [("type", .text "function"), ("name", .text name),
    ("stateMutability", .text mutability), ("inputs", .list inputs), ("outputs", .list outputs)]

private def indexed (name type : String) : Value :=
  .object [("name", .text name), ("type", .text type), ("indexed", .bool true),
    ("internalType", .text type)]

/-- The entries of the liquidity contract that are called. -/
def liquidityEntries : List Value := [
  function "depositNativeToken" "payable"
    [.object (parameter "recipientSaltHash" "bytes32" "bytes32")] [],
  function "depositERC20" "nonpayable"
    [.object (parameter "tokenAddress" "address" "address"),
      .object (parameter "recipientSaltHash" "bytes32" "bytes32"),
      .object (parameter "amount" "uint256" "uint256")] [],
  function "getTokenIndex" "view"
    [.object (parameter "tokenType" "uint8" "enum ITokenData.TokenType"),
      .object (parameter "tokenAddress" "address" "address"),
      .object (parameter "tokenId" "uint256" "uint256")]
    [.object (parameter "" "bool" "bool"), .object (parameter "" "uint32" "uint32")]]

/-- The entries of the rollup contract that are called or watched. -/
def rollupEntries : List Value := [
  function "processDeposits" "nonpayable"
    [.object (parameter "lastProcessedDepositId" "uint256" "uint256"),
      .object (parameter "depositHashes" "bytes32[]" "bytes32[]")] [],
  .object [("type", .text "event"), ("name", .text "DepositLeafInserted"),
    ("anonymous", .bool false),
    ("inputs", .list [indexed "depositIndex" "uint32", indexed "depositHash" "bytes32"])]]

/-! ## Loading -/

/-- Why an interface is not loaded. -/
inductive ArtifactFault where
  /-- There is no file at a path. -/
  | notFound (path : Path)
  /-- No interface of a name is built in. -/
  | notBundled (name : String)
  /-- The text of an artifact is no JSON. -/
  | malformed (name : String) (report : String)
  /-- An artifact holds no list of entries. -/
  | noEntries (name : String)
  /-- A file is not text. -/
  | encoding (fault : Text.Utf8Fault)
  /-- A number in an artifact has too many digits. -/
  | numeral (fault : Numeral.Fault)
  deriving DecidableEq, Repr

/-- The wording of a fault. -/
def ArtifactFault.message : ArtifactFault → String
  | notFound path => "ABI artifact not found: " ++ path.text
  | notBundled name => "No bundled ABI named " ++ Text.quote name
  | malformed name report =>
    "ABI artifact " ++ Text.quote name ++ " is not valid JSON: " ++ report
  | noEntries name => "ABI artifact " ++ Text.quote name ++ " has no ABI array"
  | encoding fault => fault.message
  | numeral fault => fault.message

/-- Whether a fault is one of the configuration: all but those of the encoding and of numerals. -/
def ArtifactFault.isConfiguration : ArtifactFault → Bool
  | encoding _ => false
  | numeral _ => false
  | _ => true

/-- The entries of an artifact: a list, or the list under `abi` of an object. -/
def entries? (artifact : Value) : Option (List Value) :=
  match artifact with
  | .list entries => some entries
  | .object members =>
    match Value.member? members "abi" with
    | some (.list entries) => some entries
    | _ => none
  | _ => none

/-- The entries of the artifact that a file holds. -/
def readArtifact (name : String) (content : Octets) : Except ArtifactFault (List Value) :=
  match Text.ofFile content with
  | .error fault => .error (.encoding fault)
  | .ok text =>
    match Json.read text with
    | .error (.numeral fault) => .error (.numeral fault)
    | .error fault => .error (.malformed name (fault.message text))
    | .ok artifact =>
      match entries? artifact with
      | some entries => .ok entries
      | none => .error (.noEntries name)

/-- The entries that are built in under a name. A name may lead through the directory that they
would lie in. -/
def bundled (name : String) : Except ArtifactFault (List Value) :=
  let directory : Path := ⟨[], ["abi".toList]⟩
  let file (name : String) : List (List Char) :=
    (directory.join (Path.ofText (name ++ ".json"))).names
  let tree : FileTree := ⟨[(file liquidityName, .file []), (file rollupName, .file [])], []⟩
  let path := directory.join (Path.ofText (name ++ ".json"))
  match tree.find? path with
  | some (.file _) =>
    if path.names.getLast? = (file liquidityName).getLast? then .ok liquidityEntries
    else .ok rollupEntries
  | _ => .error (.notBundled name)

/-- The entries of the interface of a name: those of the artifact in a directory, or without a
directory the built-in ones. -/
def load (tree : FileTree) (name : String) (directory : Option Path) :
    Except ArtifactFault (List Value) :=
  match directory with
  | none => bundled name
  | some directory =>
    let path := directory.join (Path.ofText (name ++ ".json"))
    match tree.read? path with
    | none => .error (.notFound path)
    | some content => readArtifact name content

end DepositBridge.Abi
