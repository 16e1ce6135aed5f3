import DepositBridge.CommandLine.Run
import DepositBridge.Proofs.Failures
import DepositBridge.Proofs.LeafLogs
import DepositBridge.Proofs.Outcomes

/-!
# Deposits on the command line

The command line reads the endpoints of a deposit when it reads its settings, and builds the request
of what it has read; a deposit from a draft reads the texts of the environment itself. Both are the
same protocol: they ask the nodes the same, and the exit code and the output of the command line
tell what comes of the deposit from the draft (`run_reports_depositDraft`).
-/

namespace DepositBridge

/-! ## Settings -/

namespace Settings

/-- Every setting is what is read from its variable. -/
structure Accepts (given : List (String × Value)) (settings : Settings) : Prop where
  l1Url : Field.required Field.url (Value.member? given "L1_RPC_URL") = .ok settings.l1Url
  l1ChainId : Field.required chainId (Value.member? given "L1_CHAIN_ID") = .ok settings.l1ChainId
  liquidityAddress : Field.required Field.address
    (Value.member? given "LIQUIDITY_CONTRACT_ADDRESS") = .ok settings.liquidityAddress
  l2Url : Field.required Field.url (Value.member? given "L2_RPC_URL") = .ok settings.l2Url
  l2ChainId : Field.required chainId (Value.member? given "L2_CHAIN_ID") = .ok settings.l2ChainId
  rollupAddress : Field.required Field.address
    (Value.member? given "ROLLUP_CONTRACT_ADDRESS") = .ok settings.rollupAddress
  deployedBlock : Field.required blockNumber
    (Value.member? given "ROLLUP_CONTRACT_DEPLOYED_BLOCK_NUMBER") = .ok settings.deployedBlock
  abiDirectory : directory (Value.member? given "ABI_DIR") = .ok settings.abiDirectory

theorem accepts_of_ofVariables {given : List (String × Value)} {settings : Settings}
    (h : ofVariables given = .ok settings) : Accepts given settings := by
  unfold ofVariables at h
  dsimp only at h
  split at h
  · simp only [Checked.toExcept_eq_ok_iff, Checked.field_eq_valid_iff] at h
    obtain ⟨_, _, ⟨_, _, ⟨_, _, ⟨_, _, ⟨_, _, ⟨_, _, ⟨_, _, ⟨_, _, ⟨⟩, hl1, rfl⟩, hchain1, rfl⟩,
      hliquidity, rfl⟩, hl2, rfl⟩, hchain2, rfl⟩, hrollup, rfl⟩, hblock, rfl⟩, habi, rfl⟩ := h
    exact ⟨hl1, hchain1, hliquidity, hl2, hchain2, hrollup, hblock, habi⟩
  · cases h

/-- Without the variable of the artifacts the built-in ones are taken. -/
theorem abiDirectory_eq_none {environment : EnvFile.Environment} {settings : Settings}
    (h : ofEnvironment environment = .ok settings)
    (hbundled : "ABI_DIR" ∉ environment.map Prod.fst) : settings.abiDirectory = none := by
  have hdirectory := (accepts_of_ofVariables h).abiDirectory
  have hnames : "ABI_DIR" ∉ (environment.map fun entry =>
      (entry.1, Value.text entry.2)).map Prod.fst := by
    rw [List.map_map]
    exact hbundled
  rw [Value.member?, Value.foldl_member_of_not_mem hnames] at hdirectory
  exact (Except.ok.inj hdirectory).symm

end Settings

namespace CommandLine

/-! ## Drafts of orders -/

/-- The draft of an order with the endpoints as the texts of an environment give them. -/
def DepositOrder.rawDraft (order : DepositOrder) (environment : EnvFile.Environment) :
    Request.Draft :=
  let field := Value.member? (environment.map fun (name, text) => (name, .text text))
  { privateKey := some (.text order.privateKey)
    l1Url := (field "L1_RPC_URL").map .raw
    liquidityAddress := field "LIQUIDITY_CONTRACT_ADDRESS"
    l2Url := (field "L2_RPC_URL").map .raw
    rollupAddress := field "ROLLUP_CONTRACT_ADDRESS"
    amount := some (.int order.amount)
    tokenType := some (.int order.tokenType.code)
    tokenAddress := some (.text order.tokenAddress)
    tokenId := some (.text order.tokenId)
    salt := some (.text order.saltHash) }

variable {environment : EnvFile.Environment} {settings : Settings} {order : DepositOrder}

theorem urlField_raw (v : Option Value) :
    Request.urlField (v.map .raw) = Field.required Field.url v := by
  cases v <;> rfl

/-- What has been read and written again is read as it was read from the environment. -/
theorem DepositOrder.ofDraft_eq (h : Settings.ofEnvironment environment = .ok settings) :
    Request.ofDraft (order.draft settings) = Request.ofDraft (order.rawDraft environment) := by
  have haccepts := Settings.accepts_of_ofVariables h
  have hparsed : ∀ url, Request.urlField (some (.parsed url)) = .ok url := fun _ => rfl
  have haddress : ∀ a : Address, Field.required Field.address (some (.text a.text)) = .ok a :=
    Field.address_text
  unfold rawDraft
  generalize environment.map (fun (name, text) => (name, Value.text text)) = given at haccepts ⊢
  simp only [Request.ofDraft, draft, urlField_raw, hparsed, haddress, haccepts.l1Url,
    haccepts.l2Url, haccepts.liquidityAddress, haccepts.rollupAddress, Checked.field_ok,
    Option.map_some, Input.ofField_some]

end CommandLine

/-! ## One deposit -/

namespace Bridge

/-- The endpoints of an accepted request and the chains of settings are those of the settings, but
for the block of the rollup. -/
theorem ofRequest_eq {order : CommandLine.DepositOrder} {settings : Settings} {request : Request}
    (h : Request.ofDraft (order.draft settings) = .ok request)
    (hbundled : settings.abiDirectory = none) :
    Endpoints.ofRequest request ⟨some settings.l1ChainId, some settings.l2ChainId, 0, none⟩ =
      { Endpoints.ofSettings settings with deployedBlock := 0 } := by
  have haccepts := Request.ofDraft_eq_ok_iff.mp h
  have hl1 : settings.l1Url = request.l1Url := Except.ok.inj haccepts.l1Url
  have hl2 : settings.l2Url = request.l2Url := Except.ok.inj haccepts.l2Url
  have hliquidity : Except.ok settings.liquidityAddress = Except.ok request.liquidityAddress :=
    (Field.address_text _).symm.trans haccepts.liquidityAddress
  have hrollup : Except.ok settings.rollupAddress = Except.ok request.rollupAddress :=
    (Field.address_text _).symm.trans haccepts.rollupAddress
  simp only [Endpoints.ofRequest, Endpoints.ofSettings, hl1, hl2, Except.ok.inj hliquidity,
    Except.ok.inj hrollup, hbundled]

/-- The block of the rollup makes no difference to a journey. -/
theorem carryOut_deployedBlock {α : Type} (bridge : Bridge) (journey : Journey α) (block : Int) :
    ({ bridge with deployedBlock := block } : Bridge).carryOut journey =
      bridge.carryOut journey := by
  have hanswer : ({ bridge with deployedBlock := block } : Bridge).answer = bridge.answer := by
    funext call
    cases call <;> rfl
  simp only [carryOut, hanswer]

/-- With the built-in interfaces neither the files nor the block of the rollup make a difference to
one deposit. -/
theorem depositOnce_eq {endpoints : Endpoints} (hbundled : endpoints.abiDirectory = none)
    (tree other : FileTree) (relays : Bool) (request : Request) (block : Int) :
    depositOnce tree relays request endpoints =
      depositOnce other relays request { endpoints with deployedBlock := block } := by
  have hliquidity : ∀ tree, loadEntries tree Abi.liquidityName none = .ok Abi.liquidityEntries :=
    fun tree => hbundled ▸ loadEntries_liquidity hbundled
  have hrollup : ∀ tree, loadEntries tree Abi.rollupName none = .ok Abi.rollupEntries :=
    fun tree => hbundled ▸ loadEntries_rollup hbundled
  simp only [depositOnce, build, connectRollup, hbundled, hliquidity, hrollup, bind_assoc,
    pure_bind, take_ok]
  have hblock : ∀ liquidity rollup, carryOut ⟨liquidity, endpoints.l1ChainId, rollup,
      endpoints.l2ChainId, endpoints.deployedBlock⟩ (thenClose (deposit relays request)) =
        carryOut ⟨liquidity, endpoints.l1ChainId, rollup, endpoints.l2ChainId, block⟩
          (thenClose (deposit relays request)) :=
    fun liquidity rollup => (carryOut_deployedBlock ⟨liquidity, _, rollup, _, _⟩ _ block).symm
  simp only [hblock]

end Bridge

namespace CommandLine

/-! ## Running -/

open Bridge (Talk take)

variable {tree : FileTree} {environment : EnvFile.Environment} {settings : Settings}
  {invocation : Invocation} {order : DepositOrder}

/-- What a request leaves open, with the chains of settings and the built-in interfaces. -/
def optionsOf (settings : Settings) : Bridge.Endpoints.Options :=
  ⟨some settings.l1ChainId, some settings.l2ChainId, 0, none⟩

/-- Tells an outcome in one line. -/
def tell (outcome : Outcome) : Talk String := do
  let summary ← take (outcome.summary.mapError .numeral)
  pure (summary ++ "\n")

/-- The command line deposits what the draft of the unread texts asks for, and tells the outcome. -/
theorem deposit_eq (h : Settings.ofEnvironment environment = .ok settings)
    (hbundled : settings.abiDirectory = none) :
    deposit tree settings order = (Bridge.depositDraft (order.rawDraft environment)
      (optionsOf settings) order.relays >>= tell) := by
  simp only [deposit, Bridge.depositDraft, ← DepositOrder.ofDraft_eq h, bind_assoc]
  cases hrequest : Request.ofDraft (order.draft settings) with
  | error fault => rfl
  | ok request =>
    have hendpoints := Bridge.ofRequest_eq hrequest hbundled
    have honce : Bridge.depositOnce tree order.relays request (.ofSettings settings) =
        Bridge.depositOnce .empty order.relays request
          (.ofRequest request (optionsOf settings)) :=
      (Bridge.depositOnce_eq hbundled tree .empty _ request 0).trans (by rw [← hendpoints]; rfl)
    have haccepted : take ((Except.ok request).mapError Failure.request) = pure request := rfl
    unfold tell
    simp only [haccepted, pure_bind, honce]

/-- Without a file the settings are those of the environment. -/
theorem settingsFor_eq (h : Settings.ofEnvironment environment = .ok settings)
    {file : String} (hfile : tree.read? (Path.ofText file) = none) :
    settingsFor tree file environment = .ok settings := by
  have hmerge : Settings.mergeFile tree (some file) environment = ⟨environment, none⟩ := by
    unfold Settings.mergeFile
    split
    · rfl
    · rfl
    · rename_i hname
      cases hname
      rw [hfile]
  simp only [settingsFor, hmerge, h, Except.mapError]

/-- What the command line makes of what comes of a deposit. -/
def conclude : Except Failure Outcome → Node.Talk (Except Failure (Nat × String))
  | .ok outcome => ((⟨·, none⟩) <$> tell outcome : Talk Printout).run.bind report
  | .error failure => report (.error failure)

theorem run_eq (hcommand : invocation.command = .deposit order)
    (h : Settings.ofEnvironment environment = .ok settings)
    (hbundled : settings.abiDirectory = none)
    (hfile : tree.read? (Path.ofText invocation.envFile) = none) :
    (run tree environment invocation).run = (Bridge.depositDraft (order.rawDraft environment)
      (optionsOf settings) order.relays).run.bind conclude := by
  have hperform : perform tree environment invocation = (Bridge.depositDraft
      (order.rawDraft environment) (optionsOf settings) order.relays >>=
        fun outcome => (⟨·, none⟩) <$> tell outcome) := by
    simp only [perform, settingsFor_eq h hfile, Bridge.take_ok, pure_bind, hcommand,
      deposit_eq h hbundled, map_bind]
  rw [run, ExceptT.run_mk, hperform, Program.run_bind, Program.bind_assoc]
  congr 1
  funext result
  cases result <;> rfl

variable {nodes : Program.Behaviour Node.Query Node.Answer}
  {history : List (Node.Query × Node.Answer)}

/-- Nothing is asked any more once a deposit has come to an end. -/
theorem runFrom_conclude_ok {outcome : Outcome} {summary : String}
    (h : outcome.summary = .ok summary) :
    Program.runFrom nodes history (conclude (.ok outcome)) = ([], .ok (0, summary ++ "\n")) := by
  simp only [conclude, tell, h]
  rfl

theorem runFrom_conclude_error (failure : Failure) :
    let last := Program.runFrom nodes history (conclude (.error failure))
    Program.askedOf last.1 = [] ∧ (failure.IsLookedAfter → last.2 = .ok (1, "")) ∧
      (¬ failure.IsLookedAfter → last.2 = .error failure) := by
  rw [← Failure.isReported_iff]
  cases hreported : failure.isReported with
  | true =>
    simp only [conclude, report, hreported]
    exact ⟨rfl, fun _ => rfl, fun h => absurd trivial h⟩
  | false =>
    simp only [conclude, report, hreported]
    exact ⟨rfl, nofun, fun _ => rfl⟩

/-- What happens between a program and the two nodes, and what comes of it. -/
abbrev Happening (α : Type) : Type :=
  List (Program.Event Node.Query Node.Answer) × Except Failure α

/-- What a run of the command line has to do with a run of the deposit that it is meant to make. -/
structure Reports (main : Happening (Nat × String)) (deposit : Happening Outcome) : Prop where
  /-- The nodes are asked the same, in the same order. -/
  asked : Program.askedOf main.1 = Program.askedOf deposit.1
  /-- An outcome is told in one line, which is all of the output, and the exit code is zero. -/
  told : ∀ outcome, deposit.2 = .ok outcome →
    ∃ summary, outcome.summary = .ok summary ∧ main.2 = .ok (0, summary ++ "\n")
  /-- A failure leaves the output empty: the exit code is one if the failure is an error of one of
  the five classes that are looked after, and any other failure ends the program. -/
  failed : ∀ failure, deposit.2 = .error failure →
    (failure.IsLookedAfter → main.2 = .ok (1, "")) ∧
      (¬ failure.IsLookedAfter → main.2 = .error failure)

/-- Concluding a deposit whose outcomes can be told reports what comes of it. -/
theorem reports_conclude {p : Talk Outcome}
    (htold : ∀ asked outcome, Program.Runs p.run asked (.ok outcome) →
      ∃ summary, outcome.summary = .ok summary) :
    Reports (Program.runFrom nodes history (p.run.bind conclude))
      (Program.runFrom nodes history p.run) := by
  have hruns : Program.Runs p.run _ (Program.runFrom nodes history p.run).2 :=
    Program.runs_runFrom history _
  rw [Program.runFrom_bind]
  generalize Program.runFrom nodes history p.run = deposit at hruns ⊢
  obtain ⟨events, result⟩ := deposit
  cases result with
  | ok outcome =>
    obtain ⟨summary, hsummary⟩ := htold _ outcome hruns
    simp only [runFrom_conclude_ok hsummary, List.append_nil]
    refine ⟨rfl, ?_, by simp⟩
    intro other hother
    cases hother
    exact ⟨summary, hsummary, rfl⟩
  | error failure =>
    obtain ⟨hasked, hresult⟩ :=
      @runFrom_conclude_error nodes (Program.historyOf events ++ history) failure
    refine ⟨?_, by simp, ?_⟩
    · rw [Program.askedOf_append, hasked, List.append_nil]
    · intro other hother
      cases hother
      exact hresult

/-- In an environment without artifacts of its own and without a file, the command line makes the
deposit of the draft that has the texts of the environment and the chains of its settings. -/
theorem run_reports_depositDraft (hcommand : invocation.command = .deposit order)
    (hsettings : Settings.ofEnvironment environment = .ok settings)
    (hbundled : "ABI_DIR" ∉ environment.map Prod.fst)
    (hfile : tree.read? (Path.ofText invocation.envFile) = none)
    (nodes : Program.Behaviour Node.Query Node.Answer)
    (history : List (Node.Query × Node.Answer)) :
    Reports (Program.runFrom nodes history (run tree environment invocation).run)
      (Program.runFrom nodes history (Bridge.depositDraft (order.rawDraft environment)
        ⟨some settings.l1ChainId, some settings.l2ChainId, 0, none⟩ order.relays).run) := by
  rw [run_eq hcommand hsettings (Settings.abiDirectory_eq_none hsettings hbundled) hfile]
  refine reports_conclude fun asked outcome hruns => ?_
  rcases Program.runs_attempt_bind_iff.mp hruns with ⟨_, ⟨⟩, -⟩ | ⟨_, request, _, -, -, honce⟩
  exact Bridge.exists_summary_of_runs honce

/-- An environment for two chains on this machine. -/
def sampleEnvironment : EnvFile.Environment := [
  ("L1_RPC_URL", "http://127.0.0.1:8545"), ("L1_CHAIN_ID", "31337"),
  ("LIQUIDITY_CONTRACT_ADDRESS", Hex.encodeMarked Address.zero.octets),
  ("L2_RPC_URL", "http://127.0.0.1:8546"), ("L2_CHAIN_ID", "31338"),
  ("ROLLUP_CONTRACT_ADDRESS", Hex.encodeMarked Address.zero.octets),
  ("ROLLUP_CONTRACT_DEPLOYED_BLOCK_NUMBER", "0")]

/-- The order of the sample request. -/
def sampleOrder : DepositOrder where
  privateKey := Bridge.sampleRequest.privateKey
  amount := 1000
  tokenType := .native
  tokenAddress := "0x0000000000000000000000000000000000000000"
  tokenId := "0"
  saltHash := Bridge.sampleRequest.saltText
  relays := true

/-- The arguments of the order of the sample request. -/
def sampleArguments : List String := ["deposit", "--private-key", Bridge.sampleRequest.privateKey,
  "--amount", "1000", "--token-type", "Native", "--pubkey-salt-hash",
  Bridge.sampleRequest.saltText]

theorem ofArguments_sampleArguments :
    Invocation.ofArguments sampleArguments = .ok ⟨false, ".env", .deposit sampleOrder⟩ := by
  decide +kernel

theorem l1ChainId_sampleEnvironment :
    (Settings.ofEnvironment sampleEnvironment).toOption.map (·.l1ChainId) = some 31337 := by
  decide +kernel

/-- The arguments of the sample order, in an environment that gives settings, make the deposit of
its draft whatever the nodes answer. -/
theorem run_reports_depositDraft_sample :
    ∃ invocation settings, Invocation.ofArguments sampleArguments = .ok invocation ∧
      Settings.ofEnvironment sampleEnvironment = .ok settings ∧
      ∀ nodes, Reports (Program.runFrom nodes [] (run .empty sampleEnvironment invocation).run)
        (Program.runFrom nodes [] (Bridge.depositDraft (sampleOrder.rawDraft sampleEnvironment)
          ⟨some settings.l1ChainId, some settings.l2ChainId, 0, none⟩ sampleOrder.relays).run) := by
  have hbundled : "ABI_DIR" ∉ sampleEnvironment.map Prod.fst := by decide +kernel
  have hfile : FileTree.empty.read? (Path.ofText ".env") = none := by decide +kernel
  obtain ⟨settings, hsettings, -⟩ := exists_ok_of_map l1ChainId_sampleEnvironment
  refine ⟨_, settings, ofArguments_sampleArguments, hsettings, fun nodes => ?_⟩
  exact run_reports_depositDraft rfl hsettings hbundled hfile nodes []

end CommandLine

end DepositBridge
