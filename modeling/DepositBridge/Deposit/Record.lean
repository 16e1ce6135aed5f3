import DepositBridge.Deposit.Hash
import DepositBridge.Field

/-!
# Deposits

A deposit as the rollup sees it, the leaf that the rollup announces, and the outcome of a deposit
and its relay. Each is built from loosely typed fields, or rejected with the problems of all of
them.
-/

namespace DepositBridge

/-! ## Rejections -/

/-- The records that are built from fields. -/
inductive RecordKind where
  | request
  | deposit
  | leaf
  | outcome
  deriving DecidableEq, Repr

/-- The name of a kind of record in a report. -/
def RecordKind.name : RecordKind → String
  | request => "DepositRequest"
  | deposit => "Deposit"
  | leaf => "DepositLeaf"
  | outcome => "DepositResult"

/-- Fields that make no record: the kind of record and the problems, at least one. -/
structure Rejection where
  kind : RecordKind
  problems : List Problem

/-- A problem in a report: the field and the reason, without the input. -/
def Problem.line (problem : Problem) : String :=
  s!"{problem.field}\n  {problem.fault.message} [type={problem.fault.code}]"

/-- The report of a rejection: a headline, and the line of each problem. -/
def Rejection.message (rejection : Rejection) : String :=
  let count := rejection.problems.length
  let noun := if count = 1 then "error" else "errors"
  let headline := s!"{count} validation {noun} for {rejection.kind.name}"
  String.intercalate "\n" (headline :: rejection.problems.map Problem.line)

/-- The input of a field of a record whose fields are given as values. -/
def inputOf (fields : List (String × Option Value)) (v : Option Value) : Input :=
  let given := givenFields (fields.map fun (name, v) => (name, v.map .raw))
  .ofField given (v.map .raw)

/-! ## Deposits -/

/-- A deposit as the rollup sees it: the recipient's commitment, the token index and the amount. -/
structure Deposit where
  salt : Octets
  tokenIndex : Nat
  amount : Nat
  deriving DecidableEq, Repr

namespace Deposit

/-- The deposit of given fields. -/
def ofFields (salt tokenIndex amount : Option Value) : Except Rejection Deposit :=
  let index := Field.intBelow (Nat.pow 2 32) .tokenIndexRange
  let input := inputOf [("pubkey_salt_hash", salt), ("token_index", tokenIndex), ("amount", amount)]
  ((((Checked.valid Deposit.mk).field
    "pubkey_salt_hash" (input salt) (Field.required Field.hash salt)).field
    "token_index" (input tokenIndex) (Field.required index tokenIndex)).field
    "amount" (input amount) (Field.required Field.amount amount)).toExcept (⟨.deposit, ·⟩)

/-- The deposit of the members of an object. -/
def ofMembers (members : List (String × Value)) : Except Rejection Deposit :=
  let field := Value.member? members
  ofFields (field "pubkey_salt_hash") (field "token_index") (field "amount")

/-- The hash that stands for a deposit in the rollup's tree. -/
def hash (deposit : Deposit) : Octets :=
  DepositHash.hash deposit.salt deposit.tokenIndex deposit.amount

end Deposit

/-! ## Leaves -/

/-- A leaf that the rollup has inserted into its deposit tree. -/
structure Leaf where
  index : Int
  hash : String
  block : Int
  deriving DecidableEq, Repr

/-- The leaf of given fields. -/
def Leaf.ofFields (index hash block : Option Value) : Except Rejection Leaf :=
  let input := inputOf [("deposit_index", index), ("deposit_hash", hash), ("block_number", block)]
  ((((Checked.valid Leaf.mk).field
    "deposit_index" (input index) (Field.required Field.int index)).field
    "deposit_hash" (input hash) (Field.required Field.text hash)).field
    "block_number" (input block) (Field.required Field.int block)).toExcept (⟨.leaf, ·⟩)

/-- The leaf of the members of an object. -/
def Leaf.ofMembers (members : List (String × Value)) : Except Rejection Leaf :=
  let field := Value.member? members
  Leaf.ofFields (field "deposit_index") (field "deposit_hash") (field "block_number")

/-! ## Outcomes -/

/-- What came of a deposit: the transaction on the first chain, the token index and the hash of the
deposit, and the transaction on the second chain unless the relay was left out. -/
structure Outcome where
  depositTransaction : String
  tokenIndex : Int
  depositHash : String
  relayTransaction : Option String
  deriving DecidableEq, Repr

namespace Outcome

/-- The outcome of given fields; the relay's transaction may be absent or null. -/
def ofFields (transaction tokenIndex hash relay : Option Value) : Except Rejection Outcome :=
  let relayField : Value → Except FieldFault (Option String)
    | .null => .ok none
    | v => (Field.text v).map some
  let input := inputOf [("deposit_tx_hash", transaction), ("token_index", tokenIndex),
    ("deposit_hash", hash), ("relay_tx_hash", relay)]
  (((((Checked.valid Outcome.mk).field
    "deposit_tx_hash" (input transaction) (Field.required Field.text transaction)).field
    "token_index" (input tokenIndex) (Field.required Field.int tokenIndex)).field
    "deposit_hash" (input hash) (Field.required Field.text hash)).field
    "relay_tx_hash" (input relay) (Field.withDefault none relayField relay)).toExcept
      (⟨.outcome, ·⟩)

/-- The outcome of the members of an object. -/
def ofMembers (members : List (String × Value)) : Except Rejection Outcome :=
  let field := Value.member? members
  ofFields (field "deposit_tx_hash") (field "token_index") (field "deposit_hash")
    (field "relay_tx_hash")

/-- An outcome in one line. -/
def summary (outcome : Outcome) : Except Numeral.Fault String := do
  let index ← Numeral.write outcome.tokenIndex
  let relay := match outcome.relayTransaction with
    | some transaction => if transaction.isEmpty then "skipped" else transaction
    | none => "skipped"
  pure (s!"deposit tx {outcome.depositTransaction}, token index {index}, " ++
    s!"deposit hash {outcome.depositHash}, relay tx {relay}")

end Outcome

end DepositBridge
