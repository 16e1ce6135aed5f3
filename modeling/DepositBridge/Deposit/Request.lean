import DepositBridge.Deposit.Record
import DepositBridge.Deposit.Token
import DepositBridge.Text.Basic

/-!
# Deposit requests

Everything that is needed to deposit on the first chain and to relay the deposit to the second. A
request is checked when it is built. A kind of token that cannot be deposited wins over all other
problems.
-/

namespace DepositBridge

/-- What is deposited: the native token of the chain, or tokens of a contract. -/
inductive Asset where
  | native
  | erc20 (token : Address)
  deriving DecidableEq

/-- A checked request. The key is kept as the text it was given by. -/
structure Request where
  privateKey : String
  l1Url : Url
  liquidityAddress : Address
  l2Url : Url
  rollupAddress : Address
  amount : Nat
  token : DepositToken
  tokenAddress : Address
  tokenId : TokenId
  salt : Octets

namespace Request

/-! ## Drafts -/

/-- The fields of a request before they are checked. -/
structure Draft where
  privateKey : Option Value
  l1Url : Option Given
  liquidityAddress : Option Value
  l2Url : Option Given
  rollupAddress : Option Value
  amount : Option Value
  tokenType : Option Value
  tokenAddress : Option Value
  tokenId : Option Value
  salt : Option Value

/-- The draft of the members of an object. -/
def Draft.ofMembers (members : List (String × Value)) : Draft :=
  let field := Value.member? members
  { privateKey := field "private_key"
    l1Url := (field "l1_rpc_url").map .raw
    liquidityAddress := field "liquidity_contract_address"
    l2Url := (field "l2_rpc_url").map .raw
    rollupAddress := field "rollup_contract_address"
    amount := field "amount"
    tokenType := field "token_type"
    tokenAddress := field "token_address"
    tokenId := field "token_id"
    salt := field "pubkey_salt_hash" }

/-- What a draft gives, field by field. -/
def Draft.given (draft : Draft) : List (String × Given) :=
  givenFields [
    ("private_key", draft.privateKey.map .raw), ("l1_rpc_url", draft.l1Url),
    ("liquidity_contract_address", draft.liquidityAddress.map .raw), ("l2_rpc_url", draft.l2Url),
    ("rollup_contract_address", draft.rollupAddress.map .raw), ("amount", draft.amount.map .raw),
    ("token_type", draft.tokenType.map .raw), ("token_address", draft.tokenAddress.map .raw),
    ("token_id", draft.tokenId.map .raw), ("pubkey_salt_hash", draft.salt.map .raw)]

/-! ## Fields -/

/-- The key of a request: a value that gives thirty-two octets, as text, which may be hidden. The
reason for which a value is refused says nothing of the value. -/
def keyField (v : Value) : Except FieldFault String :=
  match Bytes32.ofValue v.revealed, v with
  | .ok _, .text s => .ok s
  | .ok _, .hidden s => .ok s
  | .ok _, .bytes octets =>
    match Text.decodeUtf8 octets with
    | .ok s => .ok s
    | .error _ => .error .textKind
  | _, _ => .error (.refused .privateKey)

/-- The URL of a field. -/
def urlField : Option Given → Except FieldFault Url
  | some (.parsed url) => .ok url
  | some (.raw v) => Field.url v
  | none => .error .missing

/-- The identifier of a numeral. -/
def tokenIdOfText (text : String) : Except FieldFault TokenId :=
  match TokenId.readNumber text with
  | .error fault => .error (.refused (.numeral fault))
  | .ok n =>
    if 0 ≤ n ∧ n < Nat.pow 2 256 then .ok ⟨text, n.toNat⟩
    else .error (.refused (.tokenIdRange text))

/-- The token identifier of a request: a number, or a numeral. -/
def tokenIdField : Value → Except FieldFault TokenId
  | .int n =>
    match Numeral.write n with
    | .ok text => tokenIdOfText text
    | .error fault => .error (.refused (.numeral fault))
  | .text text => tokenIdOfText text
  | v => .error (.refused (.tokenIdKind v.kindName))

/-- Why a draft is no request. -/
inductive Fault where
  /-- A kind of token that cannot be deposited. -/
  | unsupportedToken (value : Value) (shown : String)
  /-- Problems of the fields. -/
  | rejected (rejection : Rejection)

/-- The wording of a fault. -/
def Fault.message : Fault → String
  | .unsupportedToken _ shown =>
    s!"Unsupported token type {shown}: not supported for NFT and other token types"
  | .rejected rejection => rejection.message

/-- The kind of token of a draft. A value that cannot even be shown in a message is reported with
the other problems. -/
def tokenField : Option Value → Except Fault (Except FieldFault DepositToken)
  | none => .ok (.error .missing)
  | some v =>
    match DepositToken.ofValue? v with
    | some token => .ok (.ok token)
    | none =>
      match v.shown with
      | .ok shown => .error (.unsupportedToken v shown)
      | .error fault => .ok (.error (.refused (.numeral fault)))

/-- The request of a draft. -/
def ofDraft (draft : Draft) : Except Fault Request := do
  let token ← tokenField draft.tokenType
  let url (url : Option Given) : Input := .ofField draft.given url
  let value (v : Option Value) : Input := .ofField draft.given (v.map .raw)
  ((((((((((((Checked.valid Request.mk).field
    "private_key" (value draft.privateKey) (Field.required keyField draft.privateKey)).field
    "l1_rpc_url" (url draft.l1Url) (urlField draft.l1Url)).field
    "liquidity_contract_address" (value draft.liquidityAddress)
      (Field.required Field.address draft.liquidityAddress)).field
    "l2_rpc_url" (url draft.l2Url) (urlField draft.l2Url)).field
    "rollup_contract_address" (value draft.rollupAddress)
      (Field.required Field.address draft.rollupAddress)).field
    "amount" (value draft.amount) (Field.required Field.amount draft.amount)).field
    "token_type" (value draft.tokenType) token).field
    "token_address" (value draft.tokenAddress)
      (Field.withDefault Address.zero Field.address draft.tokenAddress)).field
    "token_id" (value draft.tokenId)
      (Field.withDefault TokenId.zero tokenIdField draft.tokenId)).field
    "pubkey_salt_hash" (value draft.salt) (Field.required Field.hash draft.salt)).toExcept
      fun problems => .rejected ⟨.request, problems⟩)

/-- The request of the members of an object. -/
def ofMembers (members : List (String × Value)) : Except Fault Request :=
  ofDraft (.ofMembers members)

/-! ## Derived properties -/

/-- What a request deposits. -/
def asset (request : Request) : Asset :=
  match request.token with
  | .native => .native
  | .erc20 => .erc20 request.tokenAddress

/-- The text of a request's commitment. -/
def saltText (request : Request) : String := Hex.encodeMarked request.salt

/-- What comes of assigning a value to a request: no field changes, and a name that is not hidden by
an underscore in front is refused. -/
def assign (request : Request) (name : String) (v : Value) : Except Problem Request :=
  if name.startsWith "_" then .ok request else .error ⟨name, .frozen, .field (.raw v)⟩

/-! ## Showing a request -/

/-- The fields of a request as it is shown, with a mask for its key. -/
def shownFields (request : Request) : List (String × String) := [
  ("private_key", s!"SecretStr({Text.quote (Text.mask request.privateKey)})"),
  ("l1_rpc_url", s!"AnyHttpUrl({Text.quote request.l1Url.text})"),
  ("liquidity_contract_address", Text.quote request.liquidityAddress.text),
  ("l2_rpc_url", s!"AnyHttpUrl({Text.quote request.l2Url.text})"),
  ("rollup_contract_address", Text.quote request.rollupAddress.text),
  ("amount", toString request.amount),
  ("token_type",
    s!"<TokenType.{request.token.toTokenType.name}: {request.token.toTokenType.code}>"),
  ("token_address", Text.quote request.tokenAddress.text),
  ("token_id", Text.quote request.tokenId.text),
  ("pubkey_salt_hash", Text.quote request.saltText)]

/-- The fields of a request with blanks between them. -/
def shown (request : Request) : String :=
  String.intercalate " " (request.shownFields.map fun (name, text) => name ++ "=" ++ text)

/-- A request as a call of its constructor. -/
def quoted (request : Request) : String :=
  "DepositRequest(" ++
    String.intercalate ", " (request.shownFields.map fun (name, text) => name ++ "=" ++ text) ++ ")"

/-- Whether the text of the key occurs where a request is shown. -/
def leaksKey (request : Request) : Bool :=
  Text.occursIn request.privateKey.toList request.quoted.toList ||
    Text.occursIn request.privateKey.toList request.shown.toList

end Request

end DepositBridge
