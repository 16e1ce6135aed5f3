import DepositBridge.Deposit.Request
import DepositBridge.Proofs.Address
import DepositBridge.Proofs.Results

/-!
# Records that are accepted

A record is accepted when all its fields are, and what its fields are then.
-/

namespace DepositBridge

theorem Input.ofField_some (fields : List (String × Given)) (given : Given) :
    ofField fields (some given) = .field given :=
  rfl

/-! ## Reasons without inputs -/

/-- The problem without its input: the field and the reason. -/
def Problem.withoutInput (problem : Problem) : Problem := { problem with input := .record [] }

/-- The rejection without the inputs of its problems. -/
def Rejection.withoutInputs (rejection : Rejection) : Rejection :=
  { rejection with problems := rejection.problems.map Problem.withoutInput }

/-- The fault without the inputs of its problems. -/
def Request.Fault.withoutInputs : Fault → Fault
  | .unsupportedToken value shown => .unsupportedToken value shown
  | .rejected rejection => .rejected rejection.withoutInputs

theorem Problem.line_withoutInput (problem : Problem) :
    problem.withoutInput.line = problem.line := by
  simp only [line, withoutInput]

/-- A report tells the lines of its problems, and how many they are. -/
theorem Rejection.message_congr {kind : RecordKind} {problems others : List Problem}
    (h : others.map Problem.line = problems.map Problem.line) :
    message ⟨kind, others⟩ = message ⟨kind, problems⟩ := by
  have hlength : others.length = problems.length := by simpa using congrArg List.length h
  simp only [message, hlength, h]

/-- A report leaves the inputs out anyhow. -/
theorem Request.Fault.message_withoutInputs (fault : Fault) :
    fault.withoutInputs.message = fault.message := by
  cases fault with
  | unsupportedToken => rfl
  | rejected rejection =>
    refine Rejection.message_congr ?_
    rw [List.map_map]
    exact List.map_congr_left fun problem _ => problem.line_withoutInput

/-! ## Records -/

namespace Checked

variable {α β ε : Type}

@[simp] theorem field_eq_valid_iff {record : Checked (α → β)} {name : String} {input : Input}
    {value : Except FieldFault α} {b : β} :
    record.field name input value = .valid b ↔
      ∃ make a, record = .valid make ∧ value = .ok a ∧ make a = b := by
  cases record <;> cases value <;> simp [field]

/-- A record with one more field that can be read. -/
def supply : Checked (α → β) → α → Checked β
  | valid make, a => valid (make a)
  | invalid problems, _ => invalid problems

/-- The input of a field that can be read is of no account. -/
theorem field_ok (record : Checked (α → β)) (name : String) (input : Input) (a : α) :
    record.field name input (.ok a) = record.supply a := by
  cases record <;> rfl

@[simp] theorem toExcept_eq_ok_iff {record : Checked α} {wrap : List Problem → ε} {a : α} :
    record.toExcept wrap = .ok a ↔ record = .valid a := by
  cases record <;> simp [toExcept]

/-- What is wrong with a record: nothing if it is valid. -/
def problems : Checked α → List Problem
  | valid _ => []
  | invalid problems => problems

/-- What is wrong with the field of a name, if anything. -/
def problem? (name : String) (input : Input) : Except FieldFault α → Option Problem
  | .ok _ => none
  | .error fault => some ⟨name, fault, input⟩

@[simp] theorem problems_valid (a : α) : (valid a).problems = [] := rfl

/-- The problems of a record stand in the order of its fields, one for each field at most. -/
@[simp] theorem problems_field (record : Checked (α → β)) (name : String) (input : Input)
    (value : Except FieldFault α) :
    (record.field name input value).problems =
      record.problems ++ (problem? name input value).toList := by
  cases record <;> cases value <;> simp [field, problems, problem?]

theorem mem_problems_field {record : Checked (α → β)} {name : String} {input : Input}
    {value : Except FieldFault α} {problem : Problem} (h : problem ∈ record.problems) :
    problem ∈ (record.field name input value).problems := by
  rw [problems_field]
  exact List.mem_append_left _ h

theorem problem?_eq_none_iff {name : String} {input : Input} {value : Except FieldFault α} :
    problem? name input value = none ↔ ∃ a, value = .ok a := by
  cases value <;> simp [problem?]

theorem toExcept_eq_error {record : Checked α} {wrap : List Problem → ε} {e : ε}
    (h : record.toExcept wrap = .error e) : e = wrap record.problems := by
  cases record with
  | valid a => cases h
  | invalid problems =>
    cases h
    rfl

/-- The record with problems that leave their inputs out. -/
def withoutInputs : Checked α → Checked α
  | valid a => valid a
  | invalid problems => invalid (problems.map Problem.withoutInput)

theorem withoutInputs_field (record : Checked (α → β)) (name : String) (input : Input)
    (value : Except FieldFault α) : (record.field name input value).withoutInputs =
      record.withoutInputs.field name (.record []) value := by
  cases record <;> cases value <;> simp [field, withoutInputs, Problem.withoutInput]

theorem mapError_toExcept {record : Checked α} {wrap : List Problem → ε} {f : ε → ε}
    (h : ∀ problems, f (wrap problems) = wrap (problems.map Problem.withoutInput)) :
    (record.toExcept wrap).mapError f = record.withoutInputs.toExcept wrap := by
  cases record with
  | valid a => rfl
  | invalid problems => exact congrArg Except.error (h problems)

/-- A record with a problem is reported with all its problems. -/
theorem toExcept_of_problems {record : Checked α} (h : record.problems ≠ [])
    (wrap : List Problem → ε) : record.toExcept wrap = .error (wrap record.problems) := by
  cases record with
  | valid a => exact absurd rfl h
  | invalid problems => rfl

end Checked

namespace Bytes32

theorem ofOctets_eq_ok_iff {octets content : Octets} :
    ofOctets octets = .ok content ↔ octets.length = 32 ∧ octets = content := by
  by_cases h : octets.length = 32
  · simp [ofOctets, h]
  · simp [ofOctets, h]

theorem ofText_eq_ok_iff {text : String} {content : Octets} :
    ofText text = .ok content ↔
      Hex.decodeSpaced? (Hex.dropMark text.toList) = some content ∧ content.length = 32 := by
  unfold ofText
  cases Hex.decodeSpaced? (Hex.dropMark text.toList) with
  | none => simp
  | some octets =>
    simp only [ofOctets_eq_ok_iff, Option.some.injEq]
    constructor
    · rintro ⟨hlength, rfl⟩
      exact ⟨rfl, hlength⟩
    · rintro ⟨rfl, hlength⟩
      exact ⟨hlength, rfl⟩

end Bytes32

namespace Field

theorem required_eq_ok_iff {α : Type} {read : Value → Except FieldFault α} {v : Value} {a : α} :
    required read (some v) = .ok a ↔ read v = .ok a :=
  Iff.rfl

theorem withDefault_eq_ok_iff {α : Type} {default_ : α} {read : Value → Except FieldFault α}
    {v : Value} {a : α} : withDefault default_ read (some v) = .ok a ↔ read v = .ok a :=
  Iff.rfl

/-- A field that has to be there, and can be read, has a value. -/
theorem exists_of_required {α : Type} {read : Value → Except FieldFault α} {field : Option Value}
    {a : α} (h : required read field = .ok a) : ∃ v, field = some v ∧ read v = .ok a := by
  cases field with
  | none => cases h
  | some v => exact ⟨v, rfl, h⟩

/-- A number below a bound. -/
theorem intBelow_eq_ok_iff {bound n : Int} {refusal : Int → Refusal} {m : Nat} :
    intBelow bound refusal (.int n) = .ok m ↔ n = m ∧ n < bound := by
  simp only [intBelow, int, ok_bind]
  by_cases h : 0 ≤ n ∧ n < bound
  · simp only [h, and_self, if_true, Pure.pure, Except.pure, Except.ok.injEq, and_true]
    omega
  · simp only [h, if_false, throw, throwThe, MonadExceptOf.throw, reduceCtorEq, false_iff]
    omega

theorem amount_eq_ok_iff {n : Int} {m : Nat} :
    amount (.int n) = .ok m ↔ n = m ∧ n < Nat.pow 2 256 :=
  intBelow_eq_ok_iff

/-- Octets are a hash if they are thirty-two. -/
theorem hash_eq_ok_iff {octets content : Octets} :
    hash (.bytes octets) = .ok content ↔ octets.length = 32 ∧ content = octets := by
  by_cases h : octets.length = 32
  · simp [hash, Bytes32.ofOctets, h, eq_comm]
  · simp [hash, Bytes32.ofOctets, h]

@[simp] theorem address_text (a : Address) : address (.text a.text) = .ok a := by
  simp only [address, text, Address.ofValue, Address.ofText?_text, ok_bind]
  rfl

end Field

/-- Octets and two numbers make a deposit if they fit into its fields. -/
theorem Deposit.ofFields_eq_ok_iff {salt : Octets} {index amount : Int} {deposit : Deposit} :
    Deposit.ofFields (some (.bytes salt)) (some (.int index)) (some (.int amount)) = .ok deposit ↔
      salt.length = 32 ∧ (0 ≤ index ∧ index < Nat.pow 2 32) ∧
        (0 ≤ amount ∧ amount < Nat.pow 2 256) ∧ deposit = ⟨salt, index.toNat, amount.toNat⟩ := by
  simp only [ofFields, Checked.toExcept_eq_ok_iff, Checked.field_eq_valid_iff,
    Field.required_eq_ok_iff, Field.amount_eq_ok_iff, Field.intBelow_eq_ok_iff,
    Field.hash_eq_ok_iff]
  constructor
  · rintro ⟨_, amount', ⟨_, index', ⟨_, _, ⟨⟩, ⟨hsalt, rfl⟩, rfl⟩, ⟨rfl, hindex⟩, rfl⟩,
      ⟨rfl, hamount⟩, rfl⟩
    exact ⟨hsalt, ⟨Int.natCast_nonneg _, hindex⟩, ⟨Int.natCast_nonneg _, hamount⟩, rfl⟩
  · rintro ⟨hsalt, ⟨hzero, hindex⟩, ⟨hzero', hamount⟩, rfl⟩
    exact ⟨_, amount.toNat, ⟨_, index.toNat, ⟨_, salt, rfl, ⟨hsalt, rfl⟩, rfl⟩,
      ⟨(Int.toNat_of_nonneg hzero).symm, hindex⟩, rfl⟩,
      ⟨(Int.toNat_of_nonneg hzero').symm, hamount⟩, rfl⟩

/-- An outcome has the texts and the number that its fields give. -/
theorem Outcome.fields_of_ofFields {transaction index hash relay : Value} {outcome : Outcome}
    (h : ofFields (some transaction) (some index) (some hash) (some relay) = .ok outcome) :
    Field.text transaction = .ok outcome.depositTransaction ∧
      Field.int index = .ok outcome.tokenIndex ∧ Field.text hash = .ok outcome.depositHash := by
  simp only [ofFields, Checked.toExcept_eq_ok_iff, Checked.field_eq_valid_iff,
    Field.required_eq_ok_iff] at h
  obtain ⟨_, _, ⟨_, _, ⟨_, _, ⟨_, _, ⟨⟩, htransaction, rfl⟩, hindex, rfl⟩, hhash, rfl⟩, -, rfl⟩ := h
  exact ⟨htransaction, hindex, hhash⟩

namespace Request

/-- Every field of a request is what is read from the draft. -/
structure Accepts (draft : Draft) (request : Request) : Prop where
  privateKey : Field.required keyField draft.privateKey = .ok request.privateKey
  l1Url : urlField draft.l1Url = .ok request.l1Url
  liquidityAddress :
    Field.required Field.address draft.liquidityAddress = .ok request.liquidityAddress
  l2Url : urlField draft.l2Url = .ok request.l2Url
  rollupAddress : Field.required Field.address draft.rollupAddress = .ok request.rollupAddress
  amount : Field.required Field.amount draft.amount = .ok request.amount
  token : tokenField draft.tokenType = .ok (.ok request.token)
  tokenAddress :
    Field.withDefault Address.zero Field.address draft.tokenAddress = .ok request.tokenAddress
  tokenId : Field.withDefault TokenId.zero tokenIdField draft.tokenId = .ok request.tokenId
  salt : Field.required Field.hash draft.salt = .ok request.salt

/-- A draft is a request if all its fields can be read. -/
theorem ofDraft_eq_ok_iff {draft : Draft} {request : Request} :
    ofDraft draft = .ok request ↔ Accepts draft request := by
  simp only [ofDraft, bind_eq_ok_iff, Checked.toExcept_eq_ok_iff, Checked.field_eq_valid_iff]
  constructor
  · rintro ⟨_, htoken, _, _, ⟨_, _, ⟨_, _, ⟨_, _, ⟨_, _, ⟨_, _, ⟨_, _, ⟨_, _, ⟨_, _, ⟨_, _, ⟨⟩,
      hkey, rfl⟩, hl1, rfl⟩, hliquidity, rfl⟩, hl2, rfl⟩, hrollup, rfl⟩, hamount, rfl⟩, rfl, rfl⟩,
      haddress, rfl⟩, hid, rfl⟩, hsalt, rfl⟩
    exact ⟨hkey, hl1, hliquidity, hl2, hrollup, hamount, htoken, haddress, hid, hsalt⟩
  · intro h
    exact ⟨_, h.token, _, _, ⟨_, _, ⟨_, _, ⟨_, _, ⟨_, _, ⟨_, _, ⟨_, _, ⟨_, _, ⟨_, _, ⟨_, _, rfl,
      h.privateKey, rfl⟩, h.l1Url, rfl⟩, h.liquidityAddress, rfl⟩, h.l2Url, rfl⟩,
      h.rollupAddress, rfl⟩, h.amount, rfl⟩, rfl, rfl⟩, h.tokenAddress, rfl⟩, h.tokenId, rfl⟩,
      h.salt, rfl⟩

end Request

end DepositBridge
