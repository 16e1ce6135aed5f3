import DepositBridge.Proofs.Checksum
import DepositBridge.Proofs.Enlargement
import DepositBridge.Proofs.TokenRefusal
import DepositBridge.Proofs.Variables

/-!
# Addresses that are kept

An address is read wherever it is handed on: by a request or by settings, by the client that is made
for the contract, and by the calls of the client. All but the first of them are given the text of an
address that has its checksum already, and leave it as it is. `Address.checksum_canonical` says so,
and which texts have a checksum at all.
-/

namespace DepositBridge

/-- What is made has kept the text of an address, and the address is no reason why nothing is
made. -/
def Address.IsKept {ε α : Type} (text : String) (kept : α → Address) (isBlamed : ε → Prop) :
    Except ε α → Prop
  | .ok a => (kept a).text = text
  | .error fault => ¬ isBlamed fault

variable {address : Address}

/-! ## Wallets and clients -/

theorem Wallet.ofAddress_text (address : Address) :
    ofAddress (.text address.text) = .ok ⟨address, none⟩ := by
  simp only [ofAddress, Address.ofValue, Address.ofText?_text]

namespace Client

variable {connection : Nat} {url : String} {wallet : Option Wallet} {entries : List Value}
  {patience : Patience}

/-- A fault of a contract's address. -/
def OpeningFault.IsAddress : OpeningFault → Prop
  | .address _ => True
  | .interface _ => False

/-- Of the text of an address a client is made as of the address. -/
theorem ofAddress_text (address : Address) :
    ofAddress connection url (.text address.text) wallet entries patience =
      (ofInterface connection url address wallet entries patience).mapError .interface := by
  simp only [ofAddress, Address.ofValue, Address.ofText?_text]
  rfl

theorem isKept_ofAddress (address : Address) :
    Address.IsKept address.text Client.address OpeningFault.IsAddress
      (ofAddress connection url (.text address.text) wallet entries patience) := by
  rw [ofAddress_text, ofInterface]
  cases Abi.checkEntries entries with
  | ok _ => exact rfl
  | error _ => exact id

theorem addressArgument_text (address : Address) :
    addressArgument (.text address.text) = .ok (.text address.text) := by
  simp only [addressArgument, Address.ofValue, Address.ofText?_text]
  rfl

/-- Why a bridge has no client. -/
def OpeningFault.failure : OpeningFault → Failure
  | .address refusal => .client (.refused refusal)
  | .interface fault => .interface fault

end Client

/-- A bridge connects to a contract as if the text of the address were read again. -/
theorem Bridge.connectContract_eq (connection : Nat) (url : Url) (address : Address)
    (wallet : Option Wallet) (entries : List Value) :
    connectContract connection url address wallet entries = (do
      connect connection url.text
      take ((Client.ofAddress connection url.text (.text address.text) wallet entries
        .standard).mapError Client.OpeningFault.failure)) := by
  rw [connectContract, Client.ofAddress_text, Client.ofInterface]
  cases Abi.checkEntries entries <;> rfl

/-! ## Settings -/

namespace Settings

/-- The variable of a contract's address. -/
def addressVariable : Bridge.Contract → String
  | .liquidity => "LIQUIDITY_CONTRACT_ADDRESS"
  | .rollup => "ROLLUP_CONTRACT_ADDRESS"

/-- The address of a contract. -/
def addressOf : Bridge.Contract → Settings → Address
  | .liquidity => liquidityAddress
  | .rollup => rollupAddress

/-- A fault names a variable. -/
def Fault.Names (name : String) : Fault → Prop
  | .missing names => name ∈ names
  | .invalid problems => name ∈ problems.map Problem.field

variable {environment : EnvFile.Environment} {contract : Bridge.Contract}

theorem Reads.addressOf {text : String → String} {settings : Settings} (h : Reads text settings)
    (contract : Bridge.Contract) :
    Field.address (.text (text (addressVariable contract))) = .ok (addressOf contract settings) := by
  cases contract with
  | liquidity => exact h.liquidityAddress
  | rollup => exact h.rollupAddress

theorem problem?_text (contract : Bridge.Contract) (address : Address) :
    problem? (addressVariable contract) address.text = none := by
  cases contract <;> simp [addressVariable, problem?, Checked.problem?]

theorem addressVariable_mem (contract : Bridge.Contract) :
    addressVariable contract ∈ requiredVariables := by
  cases contract <;> decide

/-- Settings keep the text of an address. -/
theorem text_addressOf {settings : Settings} (hnodup : (environment.map Prod.fst).Nodup)
    (h : ofEnvironment environment = .ok settings)
    (htext : textOf environment (addressVariable contract) = address.text) :
    (addressOf contract settings).text = address.text := by
  have hread := (reads_of_ofEnvironment hnodup h).2.2.addressOf contract
  rw [htext, Field.address_text] at hread
  rw [← Except.ok.inj hread]

/-- A fault of an environment names a variable that is unset or has a text with a problem. -/
theorem unset_or_problem_of_names {name : String} {fault : Fault}
    (hnodup : (environment.map Prod.fst).Nodup) (h : ofEnvironment environment = .error fault)
    (hnames : fault.Names name) :
    name ∈ unset environment ∨ (problem? name (textOf environment name)).isSome = true := by
  by_cases hset : unset environment = []
  · by_cases hproblems : problems environment = []
    · obtain ⟨settings, hreads⟩ := exists_reads hproblems
      cases h.symm.trans (ofEnvironment_of_reads hnodup hset hreads)
    · cases h.symm.trans (ofEnvironment_of_problems hnodup hset hproblems)
      rw [Fault.Names, fields_problems, List.mem_filter] at hnames
      exact .inr hnames.2
  · cases h.symm.trans (ofEnvironment_of_unset hnodup hset)
    exact .inl hnames

/-- Settings keep the text of an address, and are never refused for it. -/
theorem isKept_ofEnvironment (hnodup : (environment.map Prod.fst).Nodup)
    (hget : environment.get? (addressVariable contract) = some address.text) :
    Address.IsKept address.text (addressOf contract) (Fault.Names (addressVariable contract))
      (ofEnvironment environment) := by
  have htext : textOf environment (addressVariable contract) = address.text := by
    rw [textOf, hget]
    rfl
  cases hof : ofEnvironment environment with
  | ok settings => exact text_addressOf hnodup hof htext
  | error fault =>
    intro hnames
    rcases unset_or_problem_of_names hnodup hof hnames with hunset | hproblem
    · rcases (mem_unset_iff.mp hunset).2 with habsent | hempty
      · cases hget.symm.trans habsent
      · exact address.text_ne_empty (Option.some.inj (hget.symm.trans hempty))
    · rw [htext, problem?_text] at hproblem
      cases hproblem

/-- Where an environment is accepted, so is any address in it. -/
theorem exists_ofEnvironment_withText (hnodup : (environment.map Prod.fst).Nodup)
    (haccepted : IsAccepted environment) (contract : Bridge.Contract) (address : Address) :
    ∃ settings, ofEnvironment (withText environment (addressVariable contract) address.text) =
      .ok settings ∧ (addressOf contract settings).text = address.text := by
  obtain ⟨settings, hsettings⟩ := (isAccepted_withText_iff hnodup haccepted
    (addressVariable_mem contract) address.text_ne_empty).mpr (problem?_text contract address)
  have hnodup' := nodup_withText hnodup (addressVariable contract) address.text
  exact ⟨settings, hsettings, text_addressOf hnodup' hsettings (textOf_withText _ _ _)⟩

end Settings

/-! ## Requests -/

/-- The problems of a record are about its fields that cannot be read. -/
theorem Checked.mem_fields_field {α β : Type} {record : Checked (α → β)} {field name : String}
    {input : Input} {value : Except FieldFault α} :
    name ∈ (record.field field input value).problems.map Problem.field ↔
      name ∈ record.problems.map Problem.field ∨
        field = name ∧ ∃ reason, value = .error reason := by
  rw [problems_field, List.map_append, List.mem_append]
  cases value <;> simp [problem?, eq_comm]

theorem Field.address_of_text {v : Value} (h : text v = .ok address.text) :
    Field.address v = .ok address :=
  address_eq_ok_iff.mpr ⟨_, h, Address.ofText?_eq_some_iff.mp (Address.ofText?_text address)⟩

namespace Request

/-- The fields of a request that hold addresses. -/
inductive AddressField where
  | liquidity
  | rollup
  | token

namespace AddressField

/-- The name of a field in a report. -/
def name : AddressField → String
  | liquidity => "liquidity_contract_address"
  | rollup => "rollup_contract_address"
  | token => "token_address"

/-- What a draft gives for a field. -/
def given : AddressField → Draft → Option Value
  | liquidity => Draft.liquidityAddress
  | rollup => Draft.rollupAddress
  | token => Draft.tokenAddress

/-- The draft with another value for a field. -/
def put (v : Value) : AddressField → Draft → Draft
  | liquidity, draft => { draft with liquidityAddress := some v }
  | rollup, draft => { draft with rollupAddress := some v }
  | token, draft => { draft with tokenAddress := some v }

/-- What a request keeps of a field. -/
def kept : AddressField → Request → Address
  | liquidity => liquidityAddress
  | rollup => rollupAddress
  | token => tokenAddress

end AddressField

/-- A fault names a field. -/
def Fault.Names (name : String) : Fault → Prop
  | .unsupportedToken .. => False
  | .rejected rejection => name ∈ rejection.problems.map Problem.field

variable {draft : Draft} {request : Request} {field : AddressField} {v : Value}

theorem Accepts.kept (h : Accepts draft request) (hgiven : field.given draft = some v) :
    Field.address v = .ok (field.kept request) := by
  have hliquidity := h.liquidityAddress
  have hrollup := h.rollupAddress
  have htoken := h.tokenAddress
  cases field with
  | liquidity => rwa [show draft.liquidityAddress = some v from hgiven] at hliquidity
  | rollup => rwa [show draft.rollupAddress = some v from hgiven] at hrollup
  | token => rwa [show draft.tokenAddress = some v from hgiven] at htoken

/-- A fault of a draft names the field of an address that cannot be read. -/
theorem exists_reason_of_names {fault : Fault} (h : ofDraft draft = .error fault)
    (hnames : fault.Names field.name) (hgiven : field.given draft = some v) :
    ∃ reason, Field.address v = .error reason := by
  rw [ofDraft, bind_eq_error_iff] at h
  rcases h with htoken | ⟨token, -, hrecord⟩
  · obtain ⟨_, _, -, -, -, rfl⟩ := tokenField_eq_error_iff.mp htoken
    exact hnames.elim
  · cases Checked.toExcept_eq_error hrecord
    simp only [Fault.Names, Checked.mem_fields_field, Checked.problems_valid, List.map_nil,
      List.not_mem_nil, false_or] at hnames
    -- the names of the other fields are different ones
    cases field with
    | liquidity =>
      simp only [AddressField.given] at hgiven
      simpa [AddressField.name, hgiven, Field.required] using hnames
    | rollup =>
      simp only [AddressField.given] at hgiven
      simpa [AddressField.name, hgiven, Field.required] using hnames
    | token =>
      simp only [AddressField.given] at hgiven
      simpa [AddressField.name, hgiven, Field.withDefault] using hnames

/-- A request keeps the text of an address, and is never refused for it. -/
theorem isKept_ofDraft (hgiven : field.given draft = some v)
    (htext : Field.text v = .ok address.text) :
    Address.IsKept address.text field.kept (Fault.Names field.name) (ofDraft draft) := by
  have hread := Field.address_of_text htext
  cases hof : ofDraft draft with
  | ok request =>
    have hkept := (ofDraft_eq_ok_iff.mp hof).kept hgiven
    show (field.kept request).text = address.text
    rw [Except.ok.inj (hkept.symm.trans hread)]
  | error fault =>
    intro hnames
    obtain ⟨reason, hreason⟩ := exists_reason_of_names hof hnames hgiven
    cases hread.symm.trans hreason

/-- Where a draft is accepted, so is any address in it. -/
theorem exists_ofDraft_put (haccepted : ofDraft draft = .ok request)
    (htext : Field.text v = .ok address.text) (field : AddressField) :
    ∃ other, ofDraft (field.put v draft) = .ok other ∧ (field.kept other).text = address.text := by
  have hread := Field.address_of_text htext
  have haccepts := ofDraft_eq_ok_iff.mp haccepted
  cases field with
  | liquidity =>
    exact ⟨{ request with liquidityAddress := address }, ofDraft_eq_ok_iff.mpr
      { haccepts with liquidityAddress := Field.required_eq_ok_iff.mpr hread }, rfl⟩
  | rollup =>
    exact ⟨{ request with rollupAddress := address }, ofDraft_eq_ok_iff.mpr
      { haccepts with rollupAddress := Field.required_eq_ok_iff.mpr hread }, rfl⟩
  | token =>
    exact ⟨{ request with tokenAddress := address }, ofDraft_eq_ok_iff.mpr
      { haccepts with tokenAddress := Field.withDefault_eq_ok_iff.mpr hread }, rfl⟩

end Request

/-! ## The canonical text -/

namespace Address

/-- Whoever is given an address in the form of its checksum keeps it as it is. -/
structure KeptByAll (text : String) : Prop where
  /-- A wallet for reading only is made of it. -/
  wallet : ∃ wallet, Wallet.ofAddress (.text text) = .ok wallet ∧ wallet.address.text = text ∧
    wallet.canSign = false
  /-- A client of either contract is made of it. -/
  client : ∀ (contract : Bridge.Contract) connection url wallet patience, ∃ client,
    Client.ofAddress connection url (.text text) wallet contract.entries patience = .ok client ∧
      client.address.text = text
  /-- With another interface there may be no client, but not because of the address. -/
  interface : ∀ connection url wallet entries patience,
    IsKept text Client.address Client.OpeningFault.IsAddress
      (Client.ofAddress connection url (.text text) wallet entries patience)
  /-- The clients of a bridge are made as if the address were read again. -/
  bridge : ∀ (address : Address) connection url wallet entries, address.text = text →
    Bridge.connectContract connection url address wallet entries = (do
      Bridge.connect connection url.text
      Bridge.take ((Client.ofAddress connection url.text (.text text) wallet entries
        .standard).mapError Client.OpeningFault.failure))
  /-- A call has it as its argument. -/
  argument : Client.addressArgument (.text text) = .ok (.text text)
  settings : ∀ (environment : EnvFile.Environment) contract,
    (environment.map Prod.fst).Nodup →
    environment.get? (Settings.addressVariable contract) = some text →
      IsKept text (Settings.addressOf contract)
        (Settings.Fault.Names (Settings.addressVariable contract))
        (Settings.ofEnvironment environment)
  /-- It may stand in the place of any address that settings accept. -/
  inSettings : ∀ (environment : EnvFile.Environment) contract,
    (environment.map Prod.fst).Nodup → Settings.IsAccepted environment →
      ∃ settings, Settings.ofEnvironment (Settings.withText environment
          (Settings.addressVariable contract) text) = .ok settings ∧
        (Settings.addressOf contract settings).text = text
  request : ∀ (draft : Request.Draft) (field : Request.AddressField) v,
    field.given draft = some v → Field.text v = .ok text →
      IsKept text field.kept (Request.Fault.Names field.name) (Request.ofDraft draft)
  /-- It may stand in the place of any address that a request accepts. -/
  inRequest : ∀ (draft : Request.Draft) request (field : Request.AddressField) v,
    Request.ofDraft draft = .ok request → Field.text v = .ok text →
      ∃ other, Request.ofDraft (field.put v draft) = .ok other ∧ (field.kept other).text = text

theorem keptByAll_text (address : Address) : KeptByAll address.text where
  wallet := ⟨_, Wallet.ofAddress_text address, rfl, rfl⟩
  client contract connection url wallet patience := by
    rw [Client.ofAddress_text, Client.ofInterface_eq_ok (Abi.checkEntries_builtin contract)]
    exact ⟨_, rfl, rfl⟩
  interface _ _ _ _ _ := Client.isKept_ofAddress address
  bridge other connection url wallet entries h := by
    rw [← h]
    exact Bridge.connectContract_eq connection url other wallet entries
  argument := Client.addressArgument_text address
  settings _ _ hnodup hget := Settings.isKept_ofEnvironment hnodup hget
  inSettings _ contract hnodup haccepted :=
    Settings.exists_ofEnvironment_withText hnodup haccepted contract address
  request _ _ _ hgiven htext := Request.isKept_ofDraft hgiven htext
  inRequest _ _ field _ haccepted htext := Request.exists_ofDraft_put haccepted htext field

/-- Whether a text has a checksum, what it is, and what becomes of it. -/
structure Canonical (text : String) : Prop where
  /-- The texts in the form of an address have a checksum. -/
  accepts : (∃ shown, checksum (.text text) = .ok shown) ↔ ∃ digits, HasDigits text digits
  /-- All others are refused, and quoted. -/
  refuses : (∀ digits, ¬ HasDigits text digits) → ∃ refusal,
    checksum (.text text) = .error refusal ∧
      refusal.message = "Invalid address: " ++ Text.quote text
  /-- The checksum is a mark and the same digits in the case that their hash tells. -/
  shows : ∀ digits, HasDigits text digits → ∃ shown,
    checksum (.text text) = .ok (String.ofList ('0' :: 'x' :: shown)) ∧ Shows shown digits
  /-- A text with a checksum denotes twenty octets and no others. -/
  denotes : ∀ shown, checksum (.text text) = .ok shown →
    ∃ octets, octets.length = 20 ∧ ∀ others, Denotes text others ↔ others = octets
  /-- Texts have the same checksum if they denote the same octets, and only then. -/
  same : ∀ other shown shown', checksum (.text text) = .ok shown →
    checksum (.text other) = .ok shown' →
      (shown = shown' ↔ ∃ octets, Denotes text octets ∧ Denotes other octets)
  /-- A checksum is its own checksum. -/
  again : ∀ shown, checksum (.text text) = .ok shown → IsChecksummed shown
  kept : IsChecksummed text → KeptByAll text

/-- Every text is refused or has one canonical form, which everything that takes an address leaves
as it is. -/
theorem checksum_canonical (text : String) : Canonical text where
  accepts := by
    rw [exists_hasDigits_iff]
    constructor
    · intro h
      obtain ⟨shown, hshown⟩ := h
      obtain ⟨address, hread, -⟩ := checksum_eq_ok_iff.mp hshown
      exact ⟨address, hread⟩
    · intro h
      obtain ⟨address, hread⟩ := h
      exact ⟨_, checksum_eq_ok_iff.mpr ⟨address, hread, rfl⟩⟩
  refuses hform := by
    have hnone : ofText? text = none := by
      rw [← not_exists, exists_hasDigits_iff] at hform
      exact Option.eq_none_iff_forall_ne_some.mpr fun address h => hform ⟨address, h⟩
    exact ⟨_, checksum_of_ofText?_none hnone, rfl⟩
  shows digits hdigits := by
    obtain ⟨rfl, address, hwrites⟩ := hasDigits_iff.mp hdigits
    exact ⟨_, checksum_eq_ok_iff.mpr ⟨address, ofText?_eq_some_iff.mpr hwrites, rfl⟩,
      shows_of_writes hwrites⟩
  denotes shown hshown := by
    obtain ⟨address, hread, -⟩ := checksum_eq_ok_iff.mp hshown
    refine ⟨address.octets, address.length_eq, fun others => ?_⟩
    simp only [denotes_iff, hread, Option.some.injEq, exists_eq_left']
    exact eq_comm
  same other shown shown' hshown hshown' := by
    obtain ⟨a, ha, rfl⟩ := checksum_eq_ok_iff.mp hshown
    obtain ⟨b, hb, rfl⟩ := checksum_eq_ok_iff.mp hshown'
    rw [text_inj]
    simp only [denotes_iff, ha, hb, Option.some.injEq, exists_eq_left']
    constructor
    · intro h
      rw [h]
    · intro h
      exact eq_of_octets h.symm
  again shown hshown := by
    obtain ⟨address, -, rfl⟩ := checksum_eq_ok_iff.mp hshown
    exact checksum_text address
  kept h := by
    obtain ⟨address, rfl⟩ := isChecksummed_iff.mp h
    exact keptByAll_text address

/-- An address with letters among its digits. -/
def sample : Address :=
  ⟨[0x5f, 0xbd, 0xb2, 0x31, 0x56, 0x78, 0xaf, 0xec, 0xb3, 0x67, 0xf0, 0x32, 0xd9, 0x3f, 0x64, 0x2f,
    0x64, 0x18, 0x0a, 0xa3], rfl⟩

/-- Another address, as it is shown with its checksum. -/
def otherSample : Address :=
  ⟨[0x71, 0xd5, 0x77, 0x03, 0x91, 0x81, 0x7a, 0xce, 0x9e, 0x55, 0x17, 0xad, 0xb3, 0xd8, 0x96, 0x3e,
    0xd8, 0x72, 0xbb, 0x82], rfl⟩

/-- The sample address in small digits behind a mark and in capitals without one has the same
checksum, which settings and requests keep. So have letters of both cases that are no checksum: they
are no reason to refuse a text, here and for another address. Behind two marks there is none. -/
theorem checksum_canonical_samples :
    checksum (.text "0x5fbdb2315678afecb367f032d93f642f64180aa3") =
      .ok "0x5FbDB2315678afecb367f032d93F642f64180aa3" ∧
    checksum (.text "5FBDB2315678AFECB367F032D93F642F64180AA3") =
      .ok "0x5FbDB2315678afecb367f032d93F642f64180aa3" ∧
    checksum (.text "0x5FbDB2315678afecb367f032d93f642f64180aa3") =
      .ok "0x5FbDB2315678afecb367f032d93F642f64180aa3" ∧
    checksum (.text "0x71d5770391817aCE9E5517adB3D8963ED872bB82") =
      .ok "0x71D5770391817Ace9E5517aDb3d8963ED872bb82" ∧
    (∃ octets, Denotes "0x5fbdb2315678afecb367f032d93f642f64180aa3" octets ∧
      Denotes "5FBDB2315678AFECB367F032D93F642F64180AA3" octets) ∧
    IsChecksummed "0x5FbDB2315678afecb367f032d93F642f64180aa3" ∧
    (∃ settings, Settings.ofEnvironment (Settings.withText CommandLine.sampleEnvironment
        "ROLLUP_CONTRACT_ADDRESS" "0x5FbDB2315678afecb367f032d93F642f64180aa3") = .ok settings ∧
      settings.rollupAddress.text = "0x5FbDB2315678afecb367f032d93F642f64180aa3") ∧
    (∃ request, Request.ofDraft { Bridge.sampleDraft Bridge.sampleRequest.privateKey with
        tokenAddress := some (.text "0x5FbDB2315678afecb367f032d93F642f64180aa3") } = .ok request ∧
      request.tokenAddress.text = "0x5FbDB2315678afecb367f032d93F642f64180aa3") ∧
    ∃ refusal, checksum (.text "0x0x5fbdb2315678afecb367f032d93f642f64180aa3") = .error refusal ∧
      refusal.message = "Invalid address: '0x0x5fbdb2315678afecb367f032d93f642f64180aa3'" := by
  have htext : sample.text = "0x5FbDB2315678afecb367f032d93F642f64180aa3" := by decide +kernel
  have hsmall : checksum (.text "0x5fbdb2315678afecb367f032d93f642f64180aa3") =
      .ok "0x5FbDB2315678afecb367f032d93F642f64180aa3" :=
    checksum_eq_ok_iff.mpr ⟨sample, by decide +kernel, htext⟩
  have hcapital : checksum (.text "5FBDB2315678AFECB367F032D93F642F64180AA3") =
      .ok "0x5FbDB2315678afecb367f032d93F642f64180aa3" :=
    checksum_eq_ok_iff.mpr ⟨sample, by decide +kernel, htext⟩
  have hagain := (checksum_canonical _).again _ hsmall
  have hkept := (checksum_canonical _).kept hagain
  have hmixed : checksum (.text "0x5FbDB2315678afecb367f032d93f642f64180aa3") =
      .ok "0x5FbDB2315678afecb367f032d93F642f64180aa3" :=
    checksum_eq_ok_iff.mpr ⟨sample, by decide +kernel, htext⟩
  have hother : checksum (.text "0x71d5770391817aCE9E5517adB3D8963ED872bB82") =
      .ok "0x71D5770391817Ace9E5517aDb3d8963ED872bb82" :=
    checksum_eq_ok_iff.mpr ⟨otherSample, by decide +kernel, by decide +kernel⟩
  refine ⟨hsmall, hcapital, hmixed, hother, ?_, hagain, ?_, ?_, ?_⟩
  · exact ((checksum_canonical _).same _ _ _ hsmall hcapital).mp rfl
  · obtain ⟨settings, hsettings, -⟩ := exists_ok_of_map CommandLine.l1ChainId_sampleEnvironment
    exact hkept.inSettings CommandLine.sampleEnvironment .rollup (by decide +kernel)
      ⟨settings, hsettings⟩
  · exact hkept.inRequest _ _ .token _ (Bridge.ofDraft_sampleDraft Bridge.ofText_sampleKey) rfl
  · have hform : ∀ digits, ¬ HasDigits "0x0x5fbdb2315678afecb367f032d93f642f64180aa3" digits := by
      have hnone : ofText? "0x0x5fbdb2315678afecb367f032d93f642f64180aa3" = none := by
        decide +kernel
      rw [← not_exists, exists_hasDigits_iff]
      intro hread
      obtain ⟨address, haddress⟩ := hread
      cases hnone.symm.trans haddress
    obtain ⟨refusal, hrefusal, hmessage⟩ := (checksum_canonical _).refuses hform
    exact ⟨refusal, hrefusal, hmessage.trans (by decide +kernel)⟩

end Address

end DepositBridge
