import DepositBridge.Proofs.Settlement
import DepositBridge.Proofs.SignedCalls

/-!
# The life of a client

A client is told to do one thing after the other, and each may fail. Through all of it the number of
the chain, once it is remembered, stays the same, and every submission is signed for that chain or
left to the node for the account that the client's wallet stands for (`life_faithful`). The proof is
on one step first (`Step.upright`) and then by induction on the steps.
-/

namespace DepositBridge.Client

open Node (Transcript)
open Session (Runs Asks Keeps runs_bind_iff)

variable {client : Client} {chain chain' : Option Int} {asked : Transcript}

/-! ## Steps -/

/-- What a client may be told to do. To leave a context is to close. -/
inductive Step where
  | act (action : Action)
  | tokenIndex (type token id : Value)
  | leaves (deployedBlock : Int) (fromBlock : Option Int)
  | chainId
  | close

/-- What a client does in a step, whatever comes of it. -/
def Step.session (client : Client) : Step → Session Unit
  | .act action => (fun _ => ()) <$> action.session client
  | .tokenIndex type token id => do
    let type ← Session.take (tokenTypeArgument type)
    let _ ← client.tokenIndex type token id
  | .leaves deployedBlock fromBlock => (fun _ => ()) <$> client.leavesFrom deployedBlock fromBlock
  | .chainId => (fun _ => ()) <$> client.chainId
  | .close => client.close

/-- A step of a life: what is remembered before and after it, and what is asked in between. -/
structure Stage where
  step : Step
  before : Option Int
  asked : Transcript
  after : Option Int

/-- The stages of a life, in which a client takes step after step. A step that fails does not end
the life, and the next one goes on with what is remembered. -/
def life (client : Client) (nodes : Program.Behaviour Node.Query Node.Answer) :
    List (Node.Query × Node.Answer) → Option Int → List Step → List Stage
  | _, _, [] => []
  | history, chain, step :: steps =>
    let run := Program.runFrom nodes history ((step.session client).start chain)
    ⟨step, chain, Program.askedOf run.1, run.2.2⟩ ::
      life client nodes (Program.historyOf run.1 ++ history) run.2.2 steps

/-! ## What is remembered -/

/-- The number of the chain becomes known: nothing is remembered, so the client gets the number by
asking for it before anything else, and remembers the answer. -/
def Learns (client : Client) (chain : Option Int) (asked : Transcript) (n : Int) : Prop :=
  chain = none ∧ ∃ v rest, asked = (.request client.connection .chainId, .result v) :: rest ∧
    Read.quantity v = .ok n ∧
    Runs client.chainId chain [(.request client.connection .chainId, .result v)] (.ok n) (some n)

/-- What is remembered stays as it is, or the number of the chain becomes known. -/
def Recalls (client : Client) (chain : Option Int) (asked : Transcript) (chain' : Option Int) :
    Prop :=
  chain' = chain ∨ ∃ n, chain' = some n ∧ client.Learns chain asked n

theorem Recalls.append (h : client.Recalls chain asked chain') (more : Transcript) :
    client.Recalls chain (asked ++ more) chain' := by
  rcases h with hsame | ⟨n, hn, hnone, v, rest, rfl, hv, hrun⟩
  · exact .inl hsame
  · exact .inr ⟨n, hn, hnone, v, rest ++ more, rfl, hv, hrun⟩

theorem Recalls.keeps {n : Int} (h : client.Recalls chain asked chain') (hn : chain = some n) :
    chain' = some n := by
  rcases h with rfl | ⟨_, -, hnone, -⟩
  · exact hn
  · cases hn.symm.trans hnone

theorem Recalls.learns {n : Int} (h : client.Recalls chain asked chain') (hnone : chain = none)
    (hn : chain' = some n) : client.Learns chain asked n := by
  rcases h with rfl | ⟨m, hm, hlearns⟩
  · cases hn.symm.trans hnone
  · cases hn.symm.trans hm
    exact hlearns

theorem recalls_chainId {result : Except Fault Int}
    (h : Runs client.chainId chain asked result chain') : client.Recalls chain asked chain' := by
  cases result with
  | ok n =>
    obtain ⟨rfl, ⟨rfl, -⟩ | ⟨rfl, v, rfl, hv⟩⟩ := runs_chainId_ok h
    · exact .inl rfl
    · exact .inr ⟨n, rfl, rfl, v, [], rfl, hv, h⟩
  | error fault =>
    -- only the question for the number can fail, and then nothing is set
    rcases runs_bind_iff.mp h with ⟨_, -, hget⟩ | ⟨_, _, remembered, _, rfl, hget, hrest⟩
    · simp at hget
    obtain ⟨rfl, ⟨⟩, rfl⟩ := Session.runs_get_iff.mp hget
    cases remembered with
    | some m => simp at hrest
    | none =>
      rcases runs_bind_iff.mp hrest with ⟨_, -, hfails⟩ | ⟨_, m, _, _, rfl, -, hset⟩
      · exact .inl ((reads_sendForQuantity _).keeps hfails)
      · have hnever : Session.Fails (set (some m) >>= fun _ => pure m) fun _ => False :=
          (Session.fails_set _).bind fun _ => Session.fails_pure _
        exact (hnever hset).elim

theorem recalls_prepareSigned {wallet : Wallet} {call : Abi.Call} {amount : Option Value}
    {result : Except Fault Octets}
    (h : Runs (client.prepareSigned wallet call amount) chain asked result chain') :
    client.Recalls chain asked chain' := by
  rcases runs_bind_iff.mp h with ⟨fault, -, hfails⟩ | ⟨first, n, middle, rest, rfl, hchain, hrest⟩
  · exact recalls_chainId hfails
  · -- behind the number of the chain nothing is set
    have hkept : chain' = middle := by
      refine Keeps.bind (reads_sendForQuantity _).keeps (fun nonce => ?_) hrest
      refine (Session.keeps_take _).bind fun _ => ?_
      refine (reads_checkChain _).keeps.bind fun _ => ?_
      refine (reads_sendForQuantity _).keeps.bind fun gas => ?_
      refine (reads_sendForQuantity _).keeps.bind fun tip => ?_
      refine (reads_latestQuantity _).keeps.bind fun baseFee => ?_
      exact (Session.keeps_take _).bind fun value => Session.keeps_take _
    rw [hkept]
    exact (recalls_chainId hchain).append rest

theorem keeps_sender : client.sender.Keeps := by
  cases hwallet : client.wallet with
  | some wallet =>
    rw [sender_of_wallet hwallet]
    exact Session.keeps_pure _
  | none => exact (reads_sender hwallet).keeps

theorem keeps_gasFor (fields : Node.CallFields) : (client.gasFor fields).Keeps := by
  refine (reads_checkChain _).keeps.bind fun _ => ?_
  refine (reads_sendForQuantity _).keeps.bind fun estimate => ?_
  refine (reads_latestQuantity _).keeps.bind fun limit => ?_
  by_cases h : estimate > limit
  · simp only [h, if_true]
    exact (Session.keeps_throw _).bind fun _ => Session.keeps_pure _
  · simp [h]

theorem keeps_prepareUnsigned (call : Abi.Call) (amount : Option Value) :
    (client.prepareUnsigned call amount).Keeps := by
  refine keeps_sender.bind fun account => ?_
  refine (Session.keeps_take _).bind fun _ => ?_
  refine reads_latestBlock.keeps.bind fun _ => ?_
  refine (reads_checkChain _).keeps.bind fun _ => ?_
  exact (keeps_gasFor _).bind fun gas => Session.keeps_pure _

/-! ## What is asked -/

/-- Whether a request neither submits anything nor asks for accounts. -/
def isInquiry : Node.Request → Bool
  | .sendRaw _ | .send _ | .accounts => false
  | _ => true

/-- Whether a query is an inquiry, if it is a request at all. -/
def Inquires (query : Node.Query) : Prop :=
  ∀ connection request, query = .request connection request → isInquiry request = true

theorem inquires_request {connection : Nat} {request : Node.Request}
    (h : isInquiry request = true) : Inquires (.request connection request) := by
  rintro _ _ ⟨⟩
  exact h

theorem Inquires.ne_request {connection : Nat} {request : Node.Request}
    (h : Inquires (.request connection request)) :
    request ≠ .accounts ∧ ∀ fields, request ≠ .send fields := by
  have hinquiry := h _ _ rfl
  constructor
  · rintro rfl
    cases hinquiry
  · rintro fields rfl
    cases hinquiry

theorem Fills.inquires {query : Node.Query} (h : client.Fills query) : Inquires query := by
  obtain ⟨request, rfl, hfills⟩ := h
  refine inquires_request ?_
  cases request <;> simp_all [isFilling, isPreparation, isInquiry]

theorem LooksUp.inquires {query : Node.Query} (h : client.LooksUp query) : Inquires query := by
  obtain ⟨request, rfl, hlookup⟩ := h
  refine inquires_request ?_
  cases request <;> simp_all [isLookup, isInquiry]

/-- A client with a wallet leaves it to the node to sign for the wallet's account. -/
theorem runs_prepareUnsigned_of_wallet {wallet : Wallet} {call : Abi.Call} {amount : Option Value}
    {result : Except Fault Node.CallFields} (hwallet : client.wallet = some wallet)
    (h : Runs (client.prepareUnsigned call amount) chain asked result chain') :
    (∀ entry ∈ asked, client.Fills entry.1) ∧
      ∀ fields, result = .ok fields → fields.sender = some wallet.address := by
  rcases runs_prepareUnsigned h with
    ⟨_, -, hsender⟩ | ⟨_, account, _, _, rfl, hsender, hrest, hfields⟩
  · rw [sender_of_wallet hwallet] at hsender
    obtain ⟨-, ⟨⟩, -⟩ := Session.runs_pure_iff.mp hsender
  · rw [sender_of_wallet hwallet] at hsender
    obtain ⟨rfl, ⟨⟩, -⟩ := Session.runs_pure_iff.mp hsender
    refine ⟨hrest, fun fields hok => ?_⟩
    obtain ⟨gas, rfl⟩ := hfields fields hok
    rfl

theorem asks_prepare_of_wallet {wallet : Wallet} (hwallet : client.wallet = some wallet)
    (call : Abi.Call) (amount : Option Value) : (client.prepare call amount).Asks client.Fills := by
  rcases client.signs_or_leavesSigning with ⟨wallet', hwallet', hsigns⟩ | hleaves
  · rw [prepare_of_canSign hwallet' hsigns]
    exact (asks_prepareSigned _ _ _).map _
  · rw [prepare_of_leavesSigning hleaves]
    exact Asks.map _ fun _ _ _ _ h => (runs_prepareUnsigned_of_wallet hwallet h).1

/-- The node is asked for its accounts once, and an account is the first that it answers. -/
def LeadingAccount (client : Client) (asked : Transcript) (account : Address) : Prop :=
  ∃ v others, asked.sent client.connection "eth_accounts" = [(.accounts, .result v)] ∧
    Read.accounts v = .ok (account :: others)

/-- A client without a wallet leaves it to the node to sign for the first account. -/
theorem leadingAccount_of_prepareUnsigned {call : Abi.Call} {amount : Option Value}
    {fields : Node.CallFields} (hwallet : client.wallet = none)
    (h : Runs (client.prepareUnsigned call amount) chain asked (.ok fields) chain') :
    ∃ account, client.LeadingAccount asked account ∧ fields.sender = some account := by
  obtain ⟨_, ⟨⟩, -⟩ | ⟨_, account, _, rest, rfl, hsender, hrest, hfields⟩ := runs_prepareUnsigned h
  obtain ⟨v, rfl, haccount, -⟩ := (reads_sender hwallet).ok hsender
  obtain ⟨accounts, haccounts, hfirst⟩ := bind_eq_ok_iff.mp haccount
  obtain ⟨gas, rfl⟩ := hfields _ rfl
  have hnone : Transcript.sent client.connection "eth_accounts" rest = [] := by
    refine Transcript.sent_eq_nil fun entry he request hquery hmethod => ?_
    have hrequest := (hrest entry he).inquires _ _ hquery
    cases request <;> simp_all [isInquiry, Node.Request.method]
  cases accounts with
  | nil => cases hfirst
  | cons first others =>
    cases hfirst
    refine ⟨account, ⟨v, others, ?_, haccounts⟩, rfl⟩
    simp [Transcript.sent_cons, hnone, Node.Request.method]

/-! ## One step -/

/-- What becomes of one step of a client, by what it remembers and by its wallet. -/
structure Upright (client : Client) (stage : Stage) : Prop where
  keeps : ∀ n, stage.before = some n → stage.after = some n
  learns : stage.before = none → ∀ n, stage.after = some n →
    client.Learns stage.before stage.asked n ∧ (stage.step = .chainId ∨
      (∃ action, stage.step = .act action) ∧
        ∃ wallet, client.wallet = some wallet ∧ wallet.canSign = true)
  signed : ∀ connection raw answer, (.request connection (.sendRaw raw), answer) ∈ stage.asked →
    ∃ wallet wire, client.wallet = some wallet ∧ wallet.canSign = true ∧
      Wire.ofOctets? raw = some wire ∧ stage.after = some (wire.chainId : Int)
  signer : ∀ wallet, client.wallet = some wallet → wallet.canSign = true →
    ∀ connection request answer, (.request connection request, answer) ∈ stage.asked →
      request ≠ .accounts ∧ ∀ fields, request ≠ .send fields
  viewer : ∀ wallet, client.wallet = some wallet → wallet.canSign = false →
    ∀ connection request answer, (.request connection request, answer) ∈ stage.asked →
      request ≠ .accounts ∧ ∀ fields, request = .send fields → fields.sender = some wallet.address
  guest : client.wallet = none →
    ∀ connection fields answer, (.request connection (.send fields), answer) ∈ stage.asked →
      ∃ account, client.LeadingAccount stage.asked account ∧ fields.sender = some account

/-- A step that submits nothing and does not ask for accounts is upright. -/
theorem upright_of_inquires {step : Step} (hrecalls : client.Recalls chain asked chain')
    (hstep : chain' = chain ∨ step = .chainId) (hasked : ∀ entry ∈ asked, Inquires entry.1) :
    client.Upright ⟨step, chain, asked, chain'⟩ where
  keeps _ hn := hrecalls.keeps hn
  learns := by
    rintro rfl n rfl
    exact ⟨hrecalls.learns rfl rfl, .inl (hstep.resolve_left nofun)⟩
  signed connection raw answer hmem := by
    cases hasked _ hmem _ _ rfl
  signer _ _ _ _ _ _ hmem := (hasked _ hmem).ne_request
  viewer _ _ _ _ _ _ hmem := by
    obtain ⟨haccounts, hsend⟩ := (hasked _ hmem).ne_request
    exact ⟨haccounts, fun fields hrequest => absurd hrequest (hsend fields)⟩
  guest _ connection fields answer hmem := by
    cases hasked _ hmem _ _ rfl

section Transacts

variable {label : String} {call : Abi.Call} {amount : Option Value} {result : Except Fault Octets}

/-- What is asked for a transaction follows on a run of its preparation. -/
theorem Transacts.exists_prepare
    (h : client.Transacts label call amount chain asked result chain') :
    ∃ before prepared more, asked = before ++ more ∧
      Runs (client.prepare call amount) chain before prepared chain' ∧
      ∀ entry ∈ more, Inquires entry.1 ∨
        ∃ request, entry.1 = .request client.connection request ∧ prepared = .ok request := by
  cases h with
  | unprepared hprep => exact ⟨_, _, [], by simp, hprep, by simp⟩
  | unanswered hprep _ => exact ⟨_, _, _, rfl, hprep, by simp⟩
  | submitted hprep _ hawaits =>
    refine ⟨_, _, _, rfl, hprep, fun entry he => ?_⟩
    rcases List.mem_cons.mp he with rfl | he
    · exact .inr ⟨_, rfl, rfl⟩
    · rw [hawaits.query_eq entry he]
      exact .inl (inquires_request rfl)

/-- A client with a wallet asks for no accounts. -/
theorem Transacts.ne_accounts {wallet : Wallet} {connection : Nat} {request : Node.Request}
    {answer : Node.Answer} (hwallet : client.wallet = some wallet)
    (h : client.Transacts label call amount chain asked result chain')
    (hmem : (.request connection request, answer) ∈ asked) : request ≠ .accounts := by
  rintro rfl
  obtain ⟨before, prepared, more, rfl, hprep, hmore⟩ := h.exists_prepare
  rcases List.mem_append.mp hmem with hmem | hmem
  · cases (asks_prepare_of_wallet hwallet _ _ hprep _ hmem).inquires _ _ rfl
  · rcases hmore _ hmem with hinquires | ⟨_, ⟨⟩, rfl⟩
    · cases hinquires _ _ rfl
    · cases isSubmission_of_prepare hprep

/-- A client that leaves the signing to the node does not get to know the number of the chain. -/
theorem Transacts.keeps (hleaves : client.LeavesSigning)
    (h : client.Transacts label call amount chain asked result chain') : chain' = chain := by
  obtain ⟨before, prepared, more, rfl, hprep, -⟩ := h.exists_prepare
  rw [prepare_of_leavesSigning hleaves] at hprep
  obtain ⟨_, -, hrun⟩ := Session.runs_map_iff.mp hprep
  exact keeps_prepareUnsigned _ _ hrun

theorem Transacts.recalls (h : client.Transacts label call amount chain asked result chain') :
    client.Recalls chain asked chain' := by
  rcases client.signs_or_leavesSigning with ⟨wallet, hwallet, hsigns⟩ | hleaves
  · obtain ⟨before, prepared, more, rfl, hprep, -⟩ := h.exists_prepare
    rw [prepare_of_canSign hwallet hsigns] at hprep
    obtain ⟨_, -, hrun⟩ := Session.runs_map_iff.mp hprep
    exact (recalls_prepareSigned hrun).append more
  · exact .inl (h.keeps hleaves)

/-- Octets are submitted only by a client whose wallet can sign, for the chain that is remembered
then. -/
theorem Transacts.wire {connection : Nat} {raw : Octets} {answer : Node.Answer}
    (h : client.Transacts label call amount chain asked result chain')
    (hmem : (.request connection (.sendRaw raw), answer) ∈ asked) :
    ∃ wallet wire, client.wallet = some wallet ∧ wallet.canSign = true ∧
      Wire.ofOctets? raw = some wire ∧ chain' = some (wire.chainId : Int) := by
  rcases client.signs_or_leavesSigning with ⟨wallet, hwallet, hsigns⟩ | hleaves
  · obtain ⟨_, _, _, _, _, _, _, hchain, -, -, -, hraw⟩ := h.signed hwallet hsigns hmem
    obtain ⟨wire, hwire, rfl, -⟩ := wire_of_signDraft hraw
    exact ⟨wallet, wire, hwallet, hsigns, hwire, hchain⟩
  · obtain ⟨_, _, -, hprep, -⟩ := h.prepared hmem rfl
    obtain ⟨_, ⟨⟩, -⟩ := runs_prepare_unsigned hleaves hprep

/-- Fields are submitted only by a client that leaves the signing to the node: for the account of
its wallet, or without a wallet for the first one that the node answers. -/
theorem Transacts.sender {connection : Nat} {fields : Node.CallFields} {answer : Node.Answer}
    (h : client.Transacts label call amount chain asked result chain')
    (hmem : (.request connection (.send fields), answer) ∈ asked) :
    client.LeavesSigning ∧
      (∀ wallet, client.wallet = some wallet → fields.sender = some wallet.address) ∧
      (client.wallet = none →
        ∃ account, client.LeadingAccount asked account ∧ fields.sender = some account) := by
  obtain ⟨before, receipts, rfl, hprep, hreceipts⟩ := h.prepared hmem rfl
  rcases client.signs_or_leavesSigning with ⟨wallet, hwallet, hsigns⟩ | hleaves
  · obtain ⟨_, ⟨⟩, -⟩ := runs_prepare_signed hwallet hsigns hprep
  obtain ⟨_, ⟨⟩, hrun⟩ := runs_prepare_unsigned hleaves hprep
  refine ⟨hleaves, fun wallet hwallet =>
    (runs_prepareUnsigned_of_wallet hwallet hrun).2 fields rfl, fun hwallet => ?_⟩
  obtain ⟨account, ⟨v, others, hsent, haccounts⟩, hsender⟩ :=
    leadingAccount_of_prepareUnsigned hwallet hrun
  refine ⟨account, ⟨v, others, ?_, haccounts⟩, hsender⟩
  rw [Transcript.sent_append, hsent, Transcript.sent_cons,
    sent_eq_nil_of_receipts (by simp) hreceipts]
  simp [Node.Request.method]

theorem Transacts.upright (action : Action)
    (h : client.Transacts label call amount chain asked result chain') :
    client.Upright ⟨.act action, chain, asked, chain'⟩ where
  keeps _ hn := h.recalls.keeps hn
  learns := by
    rintro rfl n rfl
    refine ⟨h.recalls.learns rfl rfl, .inr ⟨⟨action, rfl⟩, ?_⟩⟩
    rcases client.signs_or_leavesSigning with hsigns | hleaves
    · exact hsigns
    · cases h.keeps hleaves
  signed _ _ _ hmem := h.wire hmem
  signer wallet hwallet hsigns connection request answer hmem := by
    refine ⟨h.ne_accounts hwallet hmem, ?_⟩
    rintro fields rfl
    have hleaves := (h.sender hmem).1 wallet hwallet
    rw [hsigns] at hleaves
    cases hleaves
  viewer wallet hwallet _ connection request answer hmem := by
    refine ⟨h.ne_accounts hwallet hmem, ?_⟩
    rintro fields rfl
    exact (h.sender hmem).2.1 wallet hwallet
  guest hwallet _ _ _ hmem := (h.sender hmem).2.2 hwallet

end Transacts

/-! ## Steps that change nothing -/

section Observes

variable {α β : Type}

/-- A session that submits nothing, does not ask for accounts and remembers nothing new. -/
structure Observes (session : Session α) : Prop where
  asks : session.Asks Inquires
  keeps : session.Keeps

theorem Observes.bind {session : Session α} {f : α → Session β} (h : Observes session)
    (hf : ∀ a, Observes (f a)) : Observes (session >>= f) :=
  ⟨h.asks.bind fun a => (hf a).asks, h.keeps.bind fun a => (hf a).keeps⟩

theorem Observes.map {session : Session α} (f : α → β) (h : Observes session) :
    Observes (f <$> session) where
  asks := h.asks.map f
  keeps _ _ _ _ hrun := by
    obtain ⟨_, -, hrun⟩ := Session.runs_map_iff.mp hrun
    exact h.keeps hrun

theorem observes_pure (a : α) : Observes (pure a) := ⟨Session.asks_pure a, Session.keeps_pure a⟩

theorem observes_take (r : Except Fault α) : Observes (Session.take r) :=
  ⟨Session.asks_take r, Session.keeps_take r⟩

theorem observes_note (level : Level) (text : String) : Observes (Session.note level text) :=
  ⟨Session.asks_note level text, Session.keeps_note level text⟩

theorem Reads.observes {request : Node.Request} {read : Value → Except Fault α}
    {session : Session α} (h : client.Reads request read session)
    (hrequest : Inquires (.request client.connection request)) : Observes session := by
  refine ⟨h.asks.mono ?_, h.keeps⟩
  rintro _ rfl
  exact hrequest

end Observes

theorem observes_leavesIn (first last : Int) : Observes (client.leavesIn first last) := by
  refine (observes_note _ _).bind fun _ => (observes_take _).bind fun event => ?_
  exact ((reads_send _).observes (inquires_request rfl)).bind fun _ => observes_take _

theorem observes_scan (head start : Int) (windows : Nat) :
    Observes (client.scan head start windows) := by
  induction windows generalizing start with
  | zero => exact observes_pure _
  | succ windows ih =>
    exact (observes_leavesIn _ _).bind fun leaves => (ih _).bind fun later => observes_pure _

theorem observes_leavesFrom (deployedBlock : Int) (fromBlock : Option Int) :
    Observes (client.leavesFrom deployedBlock fromBlock) := by
  refine ((reads_sendForQuantity _).observes (inquires_request rfl)).bind fun head => ?_
  exact (observes_scan _ _ _).bind fun found => observes_pure _

theorem observes_tokenIndex (type : TokenType) (token id : Value) :
    Observes (client.tokenIndex type token id) where
  asks _ _ _ _ h entry he := ((runs_tokenIndex h).2.1 entry he).inquires
  keeps _ _ _ _ h := (runs_tokenIndex h).1

theorem observes_close : Observes client.close where
  asks chain asked result chain' h := by
    obtain ⟨_, _, rfl, ⟨⟩⟩ := Program.runs_ask_iff.mp h
    rintro entry he _ _ hquery
    rw [List.mem_singleton.mp he] at hquery
    cases hquery
  keeps chain asked result chain' h := by
    obtain ⟨_, _, rfl, ⟨⟩⟩ := Program.runs_ask_iff.mp h
    rfl

/-! ## Lives -/

/-- Every step of a client is upright, whatever comes of it. -/
theorem Step.upright {step : Step} {result : Except Fault Unit}
    (h : Runs (step.session client) chain asked result chain') :
    client.Upright ⟨step, chain, asked, chain'⟩ := by
  have hobserves : ∀ {session : Session Unit}, Observes session →
      Runs session chain asked result chain' → client.Upright ⟨step, chain, asked, chain'⟩ :=
    fun hsession hrun => upright_of_inquires (.inl (hsession.keeps hrun))
      (.inl (hsession.keeps hrun)) (hsession.asks hrun)
  cases step with
  | act action =>
    obtain ⟨_, -, hrun⟩ := Session.runs_map_iff.mp h
    rcases Action.runs hrun with ⟨_, -, -, rfl, rfl⟩ | ⟨_, _, _, _, -, htransacts⟩
    · exact upright_of_inquires (.inl rfl) (.inl rfl) (by simp)
    · exact htransacts.upright action
  | tokenIndex type token id =>
    refine hobserves ((observes_take _).bind fun type => ?_) h
    exact (observes_tokenIndex _ _ _).bind fun index => observes_pure _
  | leaves deployedBlock fromBlock => exact hobserves ((observes_leavesFrom _ _).map _) h
  | chainId =>
    obtain ⟨_, -, hrun⟩ := Session.runs_map_iff.mp h
    refine upright_of_inquires (recalls_chainId hrun) (.inr rfl) fun entry he => ?_
    rintro _ _ hquery
    cases hquery.symm.trans (asks_chainId hrun entry he)
    rfl
  | close => exact hobserves observes_close h

/-- What is remembered after all stages. -/
def remembered : Option Int → List Stage → Option Int
  | chain, [] => chain
  | _, stage :: stages => remembered stage.after stages

/-- What becomes of a client that starts its life with what it is given to remember. -/
structure Faithful (client : Client) (chain : Option Int) (stages : List Stage) : Prop where
  linked : stages.map Stage.before ++ [remembered chain stages] = chain :: stages.map Stage.after
  stable : (chain :: stages.map Stage.after).Pairwise fun earlier later =>
    ∀ n, earlier = some n → later = some n
  upright : ∀ stage ∈ stages, client.Upright stage
  signed : ∀ stage ∈ stages, ∀ connection raw answer,
    (.request connection (.sendRaw raw), answer) ∈ stage.asked →
    ∃ wire, Wire.ofOctets? raw = some wire ∧
      remembered chain stages = some (wire.chainId : Int)

section Life

variable (client : Client) (nodes : Program.Behaviour Node.Query Node.Answer)

/-- The first stage of a life is upright. -/
theorem upright_head (history : List (Node.Query × Node.Answer)) (chain : Option Int)
    (step : Step) :
    let run := Program.runFrom nodes history ((step.session client).start chain)
    client.Upright ⟨step, chain, Program.askedOf run.1, run.2.2⟩ :=
  Step.upright (Program.runs_runFrom history _)

/-- A number that is remembered is remembered after every stage. -/
theorem after_of_mem_life (history : List (Node.Query × Node.Answer)) (n : Int)
    (steps : List Step) :
    ∀ stage ∈ client.life nodes history (some n) steps, stage.after = some n := by
  induction steps generalizing history with
  | nil => simp [life]
  | cons step steps ih =>
    have hkept := (upright_head client nodes history (some n) step).keeps n rfl
    rw [life, List.forall_mem_cons]
    refine ⟨hkept, ?_⟩
    dsimp only at hkept
    rw [hkept]
    exact ih _

theorem remembered_life (history : List (Node.Query × Node.Answer)) (n : Int)
    (steps : List Step) : remembered (some n) (client.life nodes history (some n) steps) =
      some n := by
  induction steps generalizing history with
  | nil => rfl
  | cons step steps ih =>
    have hkept := (upright_head client nodes history (some n) step).keeps n rfl
    dsimp only at hkept
    rw [life, remembered, hkept]
    exact ih _

/-- Whatever a client is told to do and whatever the nodes answer: the number of the chain never
changes once it is remembered, every step is upright, and all that is ever signed is for the chain
that is remembered in the end. -/
theorem life_faithful (history : List (Node.Query × Node.Answer)) (chain : Option Int)
    (steps : List Step) : client.Faithful chain (client.life nodes history chain steps) := by
  induction steps generalizing history chain with
  | nil => exact ⟨rfl, by simp [life], by simp [life], by simp [life]⟩
  | cons step steps ih =>
    have hhead := upright_head client nodes history chain step
    rw [life]
    generalize Program.runFrom nodes history ((step.session client).start chain) = run at hhead ⊢
    obtain ⟨hlinked, hstable, hupright, hsigned⟩ :=
      ih (Program.historyOf run.1 ++ history) run.2.2
    constructor
    case linked =>
      rw [List.map_cons, List.cons_append, remembered, hlinked, List.map_cons]
    case stable =>
      refine List.pairwise_cons.mpr ⟨?_, hstable⟩
      rintro later hlater n rfl
      have hafter := hhead.keeps n rfl
      rcases List.mem_cons.mp hlater with rfl | hlater
      · exact hafter
      · obtain ⟨stage, hstage, rfl⟩ := List.mem_map.mp hlater
        dsimp only at hafter
        rw [hafter] at hstage
        exact after_of_mem_life client nodes _ n steps stage hstage
    case upright =>
      exact List.forall_mem_cons.mpr ⟨hhead, hupright⟩
    case signed =>
      refine List.forall_mem_cons.mpr ⟨fun connection raw answer hmem => ?_, hsigned⟩
      -- what is remembered when the octets are signed stays remembered
      obtain ⟨_, wire, -, -, hwire, hafter⟩ := hhead.signed connection raw answer hmem
      refine ⟨wire, hwire, ?_⟩
      dsimp only at hafter
      rw [remembered, hafter]
      exact remembered_life client nodes _ _ steps

end Life

end DepositBridge.Client
