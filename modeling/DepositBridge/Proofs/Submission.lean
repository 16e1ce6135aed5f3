import DepositBridge.Client.Submission
import DepositBridge.Proofs.Session

/-!
# Runs of submissions

What a client asks when it submits a call: requests that fill up the transaction, at most one
submission, and then only questions for the receipt of the hash that was answered (`Transacts`). A
hash is the result only if its receipt tells of success (`Transacts.ok`).
-/

namespace DepositBridge.Client

open Node (Transcript)
open Session (Runs Asks runs_bind_iff runs_bind_ok_iff)

variable {client : Client} {chain chain' : Option Int} {asked : Transcript}

/-! ## Filling up a transaction -/

/-- Whether a request helps to fill up a transaction. -/
def isPreparation : Node.Request → Bool
  | .chainId | .transactionCount _ | .estimateGas _ | .tip | .latestBlock | .accounts => true
  | _ => false

/-- Whether a request helps to fill up a transaction whose sender is known. -/
def isFilling : Node.Request → Bool
  | .accounts => false
  | request => isPreparation request

/-- Whether a request submits a transaction. -/
def isSubmission : Node.Request → Bool
  | .sendRaw _ | .send _ => true
  | _ => false

/-- The methods of the requests that submit a transaction. -/
def submissionMethods : List String := ["eth_sendRawTransaction", "eth_sendTransaction"]

theorem sendRaw_mem : "eth_sendRawTransaction" ∈ submissionMethods := by decide

theorem send_mem : "eth_sendTransaction" ∈ submissionMethods := by decide

theorem eq_sendRaw_of_method {request : Node.Request}
    (h : request.method = "eth_sendRawTransaction") : ∃ raw, request = .sendRaw raw := by
  cases request <;> simp_all [Node.Request.method]

theorem method_mem_submissionMethods {request : Node.Request} :
    request.method ∈ submissionMethods ↔ isSubmission request = true := by
  cases request <;> simp [isSubmission, submissionMethods, Node.Request.method]

theorem not_submissionMethod_of_isPreparation {request : Node.Request}
    (h : isPreparation request = true) : request.method ∉ submissionMethods := by
  cases request <;> simp_all [isPreparation, submissionMethods, Node.Request.method]

theorem isPreparation_of_isFilling {request : Node.Request} (h : isFilling request = true) :
    isPreparation request = true := by
  cases request <;> simp_all [isFilling]

/-- Whether a query goes over a client's connection and helps to fill up a transaction. -/
def Prepares (client : Client) (query : Node.Query) : Prop :=
  ∃ request, query = .request client.connection request ∧ isPreparation request = true

/-- Whether a query goes over a client's connection and helps to fill up a transaction whose sender
is known. -/
def Fills (client : Client) (query : Node.Query) : Prop :=
  ∃ request, query = .request client.connection request ∧ isFilling request = true

theorem Fills.prepares {query : Node.Query} (h : client.Fills query) : client.Prepares query := by
  obtain ⟨request, rfl, hfills⟩ := h
  exact ⟨request, rfl, isPreparation_of_isFilling hfills⟩

theorem Reads.asks_fills {α : Type} {request : Node.Request} {read : Value → Except Fault α}
    {session : Session α} (h : client.Reads request read session)
    (hrequest : isFilling request = true) : session.Asks client.Fills :=
  h.asks.mono fun _ hquery => ⟨request, hquery, hrequest⟩

theorem asks_prepareSigned (wallet : Wallet) (call : Abi.Call) (amount : Option Value) :
    (client.prepareSigned wallet call amount).Asks client.Fills := by
  refine (asks_chainId.mono fun _ hquery => ⟨_, hquery, rfl⟩).bind fun number => ?_
  refine ((reads_sendForQuantity _).asks_fills rfl).bind fun nonce => ?_
  refine (Session.asks_take _).bind fun _ => ?_
  refine ((reads_checkChain _).asks_fills rfl).bind fun _ => ?_
  refine ((reads_sendForQuantity _).asks_fills rfl).bind fun gas => ?_
  refine ((reads_sendForQuantity _).asks_fills rfl).bind fun tip => ?_
  refine ((reads_latestQuantity _).asks_fills rfl).bind fun baseFee => ?_
  exact (Session.asks_take _).bind fun value => Session.asks_take _

/-- The first of the accounts that a node keeps. -/
def firstAccount (url : String) : List Address → Except Fault Address
  | account :: _ => .ok account
  | [] => .error (.noAccount url)

/-- A client with a wallet sends from its account. -/
theorem sender_of_wallet {wallet : Wallet} (hwallet : client.wallet = some wallet) :
    client.sender = pure wallet.address := by
  simp only [sender, hwallet]

/-- A client without a wallet asks for the node's accounts and takes the first one. -/
theorem reads_sender (hwallet : client.wallet = none) :
    client.Reads .accounts (fun v => Read.accounts v >>= firstAccount client.url)
      client.sender := by
  have hsender : client.sender = client.send .accounts >>= fun v =>
      Session.take (Read.accounts v >>= firstAccount client.url) := by
    simp only [sender, hwallet]
    congr 1
    funext v
    cases Read.accounts v with
    | error fault => rfl
    | ok accounts => cases accounts <;> rfl
  rw [hsender]
  exact (reads_send .accounts).bind fun _ => rfl

theorem asks_sender : client.sender.Asks client.Prepares := by
  cases hwallet : client.wallet with
  | some wallet =>
    rw [sender_of_wallet hwallet]
    exact Session.asks_pure _
  | none => exact (reads_sender hwallet).asks.mono fun _ hquery => ⟨_, hquery, rfl⟩

theorem asks_gasFor (fields : Node.CallFields) : (client.gasFor fields).Asks client.Fills := by
  refine ((reads_checkChain _).asks_fills rfl).bind fun _ => ?_
  refine ((reads_sendForQuantity _).asks_fills rfl).bind fun estimate => ?_
  refine ((reads_latestQuantity _).asks_fills rfl).bind fun limit => ?_
  by_cases h : estimate > limit
  · simp only [h, if_true]
    exact (Session.asks_throw _).bind fun _ => Session.asks_pure _
  · simp [h]

/-- Fields for the node to sign are filled up for an account that is found first, and they are those
of the call. -/
theorem runs_prepareUnsigned {call : Abi.Call} {amount : Option Value}
    {result : Except Fault Node.CallFields}
    (h : Runs (client.prepareUnsigned call amount) chain asked result chain') :
    (∃ fault, result = .error fault ∧ Runs client.sender chain asked (.error fault) chain') ∨
    ∃ first account middle rest, asked = first ++ rest ∧
      Runs client.sender chain first (.ok account) middle ∧
      (∀ entry ∈ rest, client.Fills entry.1) ∧ ∀ fields, result = .ok fields →
        ∃ gas, fields = ⟨amount, some account, none, some gas, client.address, call.octets⟩ := by
  rcases runs_bind_iff.mp h with hfails | ⟨first, account, middle, rest, rfl, hsender, hrest⟩
  · exact .inl hfails
  refine .inr ⟨first, account, middle, rest, rfl, hsender, ?_, ?_⟩
  · refine Asks.bind (Session.asks_take _) (fun _ => ?_) hrest
    refine (reads_latestBlock.asks_fills rfl).bind fun _ => ?_
    refine ((reads_checkChain _).asks_fills rfl).bind fun _ => ?_
    exact (asks_gasFor _).bind fun gas => Session.asks_pure _
  · rintro fields rfl
    obtain ⟨_, -, h₁⟩ := Session.runs_take_bind_ok_iff.mp hrest
    obtain ⟨_, _, _, _, -, -, h₂⟩ := runs_bind_ok_iff.mp h₁
    obtain ⟨_, _, _, _, -, -, h₃⟩ := runs_bind_ok_iff.mp h₂
    obtain ⟨_, gas, _, _, -, -, h₄⟩ := runs_bind_ok_iff.mp h₃
    obtain ⟨-, hfields, -⟩ := Session.runs_pure_iff.mp h₄
    cases hfields
    exact ⟨gas, rfl⟩

theorem asks_prepareUnsigned (call : Abi.Call) (amount : Option Value) :
    (client.prepareUnsigned call amount).Asks client.Prepares := by
  intro chain asked result chain' h entry hentry
  rcases runs_prepareUnsigned h with ⟨_, -, hsender⟩ | ⟨first, _, _, rest, rfl, hsender, hrest, -⟩
  · exact asks_sender hsender entry hentry
  · rcases List.mem_append.mp hentry with hentry | hentry
    · exact asks_sender hsender entry hentry
    · exact (hrest entry hentry).prepares

/-- A client leaves the signing to its node, unless its wallet can sign. -/
def LeavesSigning (client : Client) : Prop :=
  ∀ wallet, client.wallet = some wallet → wallet.canSign = false

theorem leavesSigning_of_none (hwallet : client.wallet = none) : client.LeavesSigning := by
  intro wallet h
  rw [hwallet] at h
  cases h

theorem signs_or_leavesSigning (client : Client) :
    (∃ wallet, client.wallet = some wallet ∧ wallet.canSign = true) ∨ client.LeavesSigning := by
  by_cases h : ∃ wallet, client.wallet = some wallet ∧ wallet.canSign = true
  · exact .inl h
  · exact .inr fun wallet hwallet => by
      simpa using fun hsigns => h ⟨wallet, hwallet, hsigns⟩

theorem prepare_of_canSign {wallet : Wallet} (hwallet : client.wallet = some wallet)
    (hsigns : wallet.canSign = true) (call : Abi.Call) (amount : Option Value) :
    client.prepare call amount = .sendRaw <$> client.prepareSigned wallet call amount := by
  simp only [prepare, hwallet, hsigns, if_true]

theorem prepare_of_leavesSigning (hleaves : client.LeavesSigning) (call : Abi.Call)
    (amount : Option Value) :
    client.prepare call amount = .send <$> client.prepareUnsigned call amount := by
  unfold prepare
  split
  · next wallet hwallet => simp only [hleaves wallet hwallet, Bool.false_eq_true, if_false]
  · rfl

theorem asks_prepare (call : Abi.Call) (amount : Option Value) :
    (client.prepare call amount).Asks client.Prepares := by
  rcases client.signs_or_leavesSigning with ⟨wallet, hwallet, hsigns⟩ | hleaves
  · rw [prepare_of_canSign hwallet hsigns]
    exact ((asks_prepareSigned _ _ _).mono fun _ => Fills.prepares).map _
  · rw [prepare_of_leavesSigning hleaves]
    exact (asks_prepareUnsigned _ _).map _

/-- A client whose wallet can sign submits octets that it has signed. -/
theorem runs_prepare_signed {wallet : Wallet} {call : Abi.Call} {amount : Option Value}
    {request : Node.Request} (hwallet : client.wallet = some wallet)
    (hsigns : wallet.canSign = true)
    (h : Runs (client.prepare call amount) chain asked (.ok request) chain') :
    ∃ raw, request = .sendRaw raw ∧
      Runs (client.prepareSigned wallet call amount) chain asked (.ok raw) chain' := by
  rw [prepare_of_canSign hwallet hsigns] at h
  obtain ⟨r, hr, hrun⟩ := Session.runs_map_iff.mp h
  obtain ⟨raw, rfl, rfl⟩ := map_eq_ok_iff.mp hr.symm
  exact ⟨raw, rfl, hrun⟩

/-- Any other client submits fields for the node to sign. -/
theorem runs_prepare_unsigned {call : Abi.Call} {amount : Option Value} {request : Node.Request}
    (hleaves : client.LeavesSigning)
    (h : Runs (client.prepare call amount) chain asked (.ok request) chain') :
    ∃ fields, request = .send fields ∧
      Runs (client.prepareUnsigned call amount) chain asked (.ok fields) chain' := by
  rw [prepare_of_leavesSigning hleaves] at h
  obtain ⟨r, hr, hrun⟩ := Session.runs_map_iff.mp h
  obtain ⟨fields, rfl, rfl⟩ := map_eq_ok_iff.mp hr.symm
  exact ⟨fields, rfl, hrun⟩

/-- What is prepared is a submission. -/
theorem isSubmission_of_prepare {call : Abi.Call} {amount : Option Value} {request : Node.Request}
    (h : Runs (client.prepare call amount) chain asked (.ok request) chain') :
    isSubmission request = true := by
  rcases client.signs_or_leavesSigning with ⟨wallet, hwallet, hsigns⟩ | hleaves
  · obtain ⟨raw, rfl, -⟩ := runs_prepare_signed hwallet hsigns h
    rfl
  · obtain ⟨fields, rfl, -⟩ := runs_prepare_unsigned hleaves h
    rfl

/-- What a signed transaction is made of: the number of the chain that is remembered from then on,
the count of transactions that the node answers for the wallet, and what else the node answers. -/
theorem runs_prepareSigned_ok {wallet : Wallet} {call : Abi.Call} {amount : Option Value}
    {raw : Octets}
    (h : Runs (client.prepareSigned wallet call amount) chain asked (.ok raw) chain') :
    ∃ number nonce gas tip baseFee value : Int, ∃ count : Value,
      chain' = some number ∧
      asked.sent client.connection "eth_getTransactionCount" =
        [(.transactionCount wallet.address, .result count)] ∧
      Read.quantity count = .ok nonce ∧ amountOf amount = .ok value ∧
      signDraft wallet (client.draftOf number nonce gas tip baseFee call.octets value) =
        .ok raw := by
  obtain ⟨_, number, _, _, rfl, hnumber, h₁⟩ := runs_bind_ok_iff.mp h
  obtain ⟨rfl, hasked⟩ := runs_chainId_ok hnumber
  obtain ⟨_, nonce, _, _, rfl, hnonce, h₂⟩ := runs_bind_ok_iff.mp h₁
  obtain ⟨count, rfl, hcount, rfl⟩ := (reads_sendForQuantity _).ok hnonce
  obtain ⟨_, -, h₃⟩ := Session.runs_take_bind_ok_iff.mp h₂
  obtain ⟨_, _, _, _, rfl, hchain, h₄⟩ := runs_bind_ok_iff.mp h₃
  obtain ⟨_, rfl, -, rfl⟩ := (reads_checkChain _).ok hchain
  obtain ⟨_, gas, _, _, rfl, hgas, h₅⟩ := runs_bind_ok_iff.mp h₄
  obtain ⟨_, rfl, -, rfl⟩ := (reads_sendForQuantity _).ok hgas
  obtain ⟨_, tip, _, _, rfl, htip, h₆⟩ := runs_bind_ok_iff.mp h₅
  obtain ⟨_, rfl, -, rfl⟩ := (reads_sendForQuantity _).ok htip
  obtain ⟨_, baseFee, _, _, rfl, hfee, h₇⟩ := runs_bind_ok_iff.mp h₆
  obtain ⟨_, rfl, -, rfl⟩ := (reads_latestQuantity _).ok hfee
  obtain ⟨value, hamount, h₈⟩ := Session.runs_take_bind_ok_iff.mp h₇
  obtain ⟨rfl, hraw, rfl⟩ := Session.runs_take_iff.mp h₈
  refine ⟨number, nonce, gas, tip, baseFee, value, count, rfl, ?_, hcount, ?_, hraw.symm⟩
  · rcases hasked with ⟨-, rfl⟩ | ⟨-, v, rfl, -⟩ <;>
      simp [Transcript.sent_cons, Node.Request.method]
  · simpa using hamount

/-! ## Receipts -/

/-- Whether an answer says that there is no receipt yet. -/
def isUnmined : Node.Answer → Bool
  | .result receipt => Read.isNothing receipt
  | .error object => isPending object

/-- Waiting for the receipt of a transaction, so many times at most: the questions for it with their
answers, and the receipt or why there is none. -/
inductive Awaits (client : Client) (hash : Octets) :
    Nat → Transcript → Except Fault Value → Prop where
  | exhausted : Awaits client hash 0 [] (.error (.notMined hash client.patience.seconds))
  | again {polls : Nat} {answer : Node.Answer} {rest : Transcript} {result : Except Fault Value} :
      isUnmined answer = true → Awaits client hash polls rest result →
      Awaits client hash (polls + 1)
        ((.request client.connection (.receipt hash), answer) :: rest) result
  | mined {polls : Nat} {receipt : Value} : Read.isNothing receipt = false →
      Awaits client hash (polls + 1)
        [(.request client.connection (.receipt hash), .result receipt)] (.ok receipt)
  | refused {polls : Nat} {object : Value} : isPending object = false →
      Awaits client hash (polls + 1) [(.request client.connection (.receipt hash), .error object)]
        (.error (.node (Node.faultOf false object)))

theorem awaits_of_runs {hash : Octets} {polls : Nat} {result : Except Fault Value}
    (h : Runs (client.awaitReceipt hash polls) chain asked result chain') :
    chain' = chain ∧ client.Awaits hash polls asked result := by
  -- each answer that leaves the receipt open costs one of the polls
  induction polls generalizing asked with
  | zero =>
    obtain ⟨rfl, rfl, rfl⟩ := Session.runs_throw_iff.mp h
    exact ⟨rfl, .exhausted⟩
  | succ polls ih =>
    rcases runs_bind_iff.mp h with ⟨fault, -, hfails⟩ | ⟨_, answer, _, rest, rfl, hasks, hrest⟩
    · simp at hfails
    obtain ⟨_, rfl, ⟨⟩, rfl⟩ := runs_query_iff.mp hasks
    cases answer with
    | result v =>
      by_cases hv : Read.isNothing v
      · simp only [hv, if_true] at hrest
        exact ⟨(ih hrest).1, .again hv (ih hrest).2⟩
      · simp only [hv, Bool.false_eq_true, if_false, Session.runs_pure_iff] at hrest
        obtain ⟨rfl, rfl, rfl⟩ := hrest
        exact ⟨rfl, .mined (by simpa using hv)⟩
    | error object =>
      by_cases hpending : isPending object
      · simp only [hpending, if_true] at hrest
        exact ⟨(ih hrest).1, .again hpending (ih hrest).2⟩
      · simp only [hpending, Bool.false_eq_true, if_false, Session.runs_throw_iff] at hrest
        obtain ⟨rfl, rfl, rfl⟩ := hrest
        exact ⟨rfl, .refused (by simpa using hpending)⟩

/-- Nothing but the receipt is asked for. -/
theorem Awaits.query_eq {hash : Octets} {polls : Nat} {result : Except Fault Value}
    (h : client.Awaits hash polls asked result) :
    ∀ entry ∈ asked, entry.1 = .request client.connection (.receipt hash) := by
  induction h with
  | exhausted => simp
  | again _ _ ih => simpa using ih
  | mined _ => simp
  | refused _ => simp

/-- A receipt that is got is the last answer. -/
theorem Awaits.getLast?_eq {hash : Octets} {polls : Nat} {result : Except Fault Value}
    (h : client.Awaits hash polls asked result) {receipt : Value} (hresult : result = .ok receipt) :
    asked.getLast? = some (.request client.connection (.receipt hash), .result receipt) := by
  induction h with
  | exhausted => cases hresult
  | again _ hrest ih =>
    rw [List.getLast?_cons, ih hresult]
    rfl
  | mined _ =>
    cases hresult
    rfl
  | refused _ => cases hresult

/-- What a receipt says about a transaction. -/
def judge (label : String) (hash : Octets) (receipt : Value) : Except Fault Unit := do
  let members ← Read.record receipt >>= Read.withNumbers ["status", "blockNumber"]
  let status ← Read.field members "status"
  if Read.isSuccess status then
    let block ← Read.field members "blockNumber"
    (block.shown.mapError .numeral).map fun _ => ()
  else throw (.reverted label hash)

/-- A receipt has a status that tells of success. -/
def Succeeds (receipt : Value) : Prop :=
  ∃ members status,
    (Read.record receipt >>= Read.withNumbers ["status", "blockNumber"]) = .ok members ∧
    Read.field members "status" = .ok status ∧ Read.isSuccess status = true

theorem succeeds_of_judge {label : String} {hash : Octets} {receipt : Value}
    (h : judge label hash receipt = .ok ()) : Succeeds receipt := by
  obtain ⟨members, hmembers, hrest⟩ := bind_eq_ok_iff.mp h
  obtain ⟨status, hstatus, hjudged⟩ := bind_eq_ok_iff.mp hrest
  refine ⟨members, status, hmembers, hstatus, ?_⟩
  by_contra hsuccess
  rw [if_neg hsuccess] at hjudged
  cases hjudged

/-- Judging a receipt asks nothing. -/
theorem runs_checkReceipt {label : String} {hash : Octets} {receipt : Value}
    {result : Except Fault Unit}
    (h : Runs (checkReceipt label hash receipt) chain asked result chain') :
    asked = [] ∧ chain' = chain ∧ result = judge label hash receipt := by
  unfold judge
  rcases Session.runs_take_bind_iff.mp h with ⟨fault, hm, rfl, rfl, rfl⟩ | ⟨members, hm, h₁⟩
  · rw [hm]
    exact ⟨rfl, rfl, rfl⟩
  rw [hm, ok_bind]
  rcases Session.runs_take_bind_iff.mp h₁ with ⟨fault, hs, rfl, rfl, rfl⟩ | ⟨status, hs, h₂⟩
  · rw [hs]
    exact ⟨rfl, rfl, rfl⟩
  rw [hs, ok_bind]
  cases hsuccess : Read.isSuccess status with
  | false =>
    simp only [hsuccess, Bool.not_false, if_true, runs_bind_iff, Session.runs_throw_iff] at h₂
    obtain ⟨_, rfl, rfl, ⟨⟩, rfl⟩ | ⟨_, _, _, _, _, ⟨_, ⟨⟩, _⟩, _⟩ := h₂
    exact ⟨rfl, rfl, rfl⟩
  | true =>
    simp only [hsuccess, Bool.not_true, Bool.false_eq_true, if_false] at h₂
    rw [if_pos rfl]
    rcases Session.runs_take_bind_iff.mp h₂ with ⟨fault, hb, rfl, rfl, rfl⟩ | ⟨block, hb, h₃⟩
    · rw [hb]
      exact ⟨rfl, rfl, rfl⟩
    rw [hb, ok_bind]
    rcases Session.runs_take_bind_iff.mp h₃ with ⟨fault, hs, rfl, rfl, rfl⟩ | ⟨shown, hs, h₄⟩
    · rw [hs]
      exact ⟨rfl, rfl, rfl⟩
    · obtain ⟨rfl, rfl, rfl⟩ := Session.runs_note_iff.mp h₄
      rw [hs]
      exact ⟨rfl, rfl, rfl⟩

/-! ## Submitting a call -/

/-- The hash that the answer to a submission gives. -/
def hashOf (request : Node.Request) (answer : Node.Answer) : Except Fault Octets :=
  resultOf request answer >>= Read.octets

/-- The ways in which submitting a call and waiting for it can go: what is asked, what comes of it,
and the number of the chain that is remembered in the end. -/
inductive Transacts (client : Client) (label : String) (call : Abi.Call) (amount : Option Value)
    (chain : Option Int) : Transcript → Except Fault Octets → Option Int → Prop where
  | unprepared {before : Transcript} {fault : Fault} {chain' : Option Int} :
      Runs (client.prepare call amount) chain before (.error fault) chain' →
      Transacts client label call amount chain before (.error fault) chain'
  | unanswered {before : Transcript} {request : Node.Request} {answer : Node.Answer} {fault : Fault}
      {chain' : Option Int} :
      Runs (client.prepare call amount) chain before (.ok request) chain' →
      hashOf request answer = .error fault →
      Transacts client label call amount chain
        (before ++ [(.request client.connection request, answer)]) (.error fault) chain'
  | submitted {before : Transcript} {request : Node.Request} {answer : Node.Answer} {hash : Octets}
      {receipts : Transcript} {awaited : Except Fault Value} {chain' : Option Int} :
      Runs (client.prepare call amount) chain before (.ok request) chain' →
      hashOf request answer = .ok hash →
      client.Awaits hash client.patience.polls receipts awaited →
      Transacts client label call amount chain
        (before ++ (.request client.connection request, answer) :: receipts)
        ((awaited >>= judge label hash).map fun _ => hash) chain'

theorem runs_submit {call : Abi.Call} {amount : Option Value} {result : Except Fault Octets}
    (h : Runs (client.submit call amount) chain asked result chain') :
    (∃ fault, result = .error fault ∧
      Runs (client.prepare call amount) chain asked (.error fault) chain') ∨
    ∃ before request answer, asked = before ++ [(.request client.connection request, answer)] ∧
      Runs (client.prepare call amount) chain before (.ok request) chain' ∧
      result = hashOf request answer := by
  rcases runs_bind_iff.mp h with ⟨fault, rfl, hfails⟩ | ⟨before, request, _, _, rfl, hprep, hsend⟩
  · exact .inl ⟨fault, rfl, hfails⟩
  · obtain ⟨answer, rfl, rfl, rfl⟩ := ((reads_send request).bind fun _ => rfl).mp hsend
    exact .inr ⟨before, request, answer, rfl, hprep, rfl⟩

theorem transacts_of_runs {label : String} {call : Abi.Call} {amount : Option Value}
    {result : Except Fault Octets}
    (h : Runs (client.transact label call amount) chain asked result chain') :
    client.Transacts label call amount chain asked result chain' := by
  rcases runs_bind_iff.mp h with ⟨fault, rfl, hfails⟩ | ⟨first, hash, _, _, rfl, hfirst, h₁⟩
  · -- there is no hash to wait for
    rcases runs_submit hfails with ⟨_, ⟨⟩, hprep⟩ | ⟨before, request, answer, rfl, hprep, hhash⟩
    · exact .unprepared hprep
    · exact .unanswered hprep hhash.symm
  obtain ⟨_, ⟨⟩, -⟩ | ⟨before, request, answer, rfl, hprep, hhash⟩ := runs_submit hfirst
  rcases runs_bind_iff.mp h₁ with ⟨_, -, hnote⟩ | ⟨_, _, _, _, rfl, hnote, h₂⟩
  · simp at hnote
  obtain ⟨rfl, -, rfl⟩ := Session.runs_note_iff.mp hnote
  rw [List.nil_append, List.append_assoc]
  rcases runs_bind_iff.mp h₂ with ⟨fault, rfl, hfails⟩ | ⟨_, receipt, _, _, rfl, hreceipt, h₃⟩
  · obtain ⟨rfl, hawaits⟩ := awaits_of_runs hfails
    exact .submitted hprep hhash.symm hawaits
  obtain ⟨rfl, hawaits⟩ := awaits_of_runs hreceipt
  -- there is a receipt, and what it says decides whether the hash is the result
  have hjudged : client.Transacts label call amount chain _ _ _ :=
    .submitted hprep hhash.symm hawaits
  rcases runs_bind_iff.mp h₃ with ⟨fault, rfl, hfails⟩ | ⟨_, _, _, _, rfl, hcheck, hpure⟩
  · obtain ⟨rfl, rfl, hfault⟩ := runs_checkReceipt hfails
    simpa [← hfault, Except.map] using hjudged
  · obtain ⟨rfl, rfl, hok⟩ := runs_checkReceipt hcheck
    obtain ⟨rfl, rfl, rfl⟩ := Session.runs_pure_iff.mp hpure
    simpa [← hok, Except.map] using hjudged

section Transacts

variable {label : String} {call : Abi.Call} {amount : Option Value}

/-- Either nothing but preparations is asked, or they are followed by one submission and then by
questions for receipts only. -/
theorem Transacts.split {result : Except Fault Octets}
    (h : client.Transacts label call amount chain asked result chain') :
    (∀ entry ∈ asked, client.Prepares entry.1) ∨
    ∃ before request answer receipts,
      asked = before ++ (.request client.connection request, answer) :: receipts ∧
      Runs (client.prepare call amount) chain before (.ok request) chain' ∧
      ∀ entry ∈ receipts, ∃ hash, entry.1 = .request client.connection (.receipt hash) := by
  cases h with
  | unprepared hprep => exact .inl (asks_prepare _ _ hprep)
  | unanswered hprep _ => exact .inr ⟨_, _, _, [], rfl, hprep, by simp⟩
  | submitted hprep _ hawaits =>
    exact .inr ⟨_, _, _, _, rfl, hprep, fun entry he => ⟨_, hawaits.query_eq entry he⟩⟩

/-- The requests after the preparations are one submission and questions for receipts. -/
theorem Transacts.queries {result : Except Fault Octets}
    (h : client.Transacts label call amount chain asked result chain') :
    ∀ entry ∈ asked, ∃ request, entry.1 = .request client.connection request ∧
      (isPreparation request ∨ isSubmission request ∨ ∃ hash, request = .receipt hash) := by
  rcases h.split with hasked | ⟨before, request, answer, receipts, rfl, hprep, hreceipts⟩
  · intro entry he
    obtain ⟨request, hquery, hprepares⟩ := hasked entry he
    exact ⟨request, hquery, .inl hprepares⟩
  intro entry he
  rcases List.mem_append.mp he with he | he
  · obtain ⟨request, hquery, hprepares⟩ := asks_prepare _ _ hprep entry he
    exact ⟨request, hquery, .inl hprepares⟩
  rcases List.mem_cons.mp he with rfl | he
  · exact ⟨request, rfl, .inr (.inl (isSubmission_of_prepare hprep))⟩
  · obtain ⟨hash, hquery⟩ := hreceipts entry he
    exact ⟨_, hquery, .inr (.inr ⟨hash, rfl⟩)⟩

/-- Preparations submit nothing. -/
theorem sent_eq_nil_of_prepares {before : Transcript} {method : String}
    (hmethod : method ∈ submissionMethods) (h : ∀ entry ∈ before, client.Prepares entry.1) :
    Transcript.sent client.connection method before = [] := by
  refine Transcript.sent_eq_nil fun entry he asks hquery hsame => ?_
  obtain ⟨_, hquery', hprepares⟩ := h entry he
  cases hquery.symm.trans hquery'
  exact not_submissionMethod_of_isPreparation hprepares (hsame ▸ hmethod)

/-- Questions for receipts are sent by their own method only. -/
theorem sent_eq_nil_of_receipts {receipts : Transcript} {method : String}
    (hmethod : method ≠ "eth_getTransactionReceipt")
    (h : ∀ entry ∈ receipts, ∃ hash, entry.1 = .request client.connection (.receipt hash)) :
    Transcript.sent client.connection method receipts = [] := by
  refine Transcript.sent_eq_nil fun entry he asks hquery => ?_
  obtain ⟨hash, hquery'⟩ := h entry he
  cases hquery.symm.trans hquery'
  exact hmethod.symm

/-- Of preparations, a request and questions for receipts, the request is all that can be sent by
the method of a submission. -/
theorem sent_eq_of_split {before receipts : Transcript} {request : Node.Request}
    {answer : Node.Answer} {method : String} (hmethod : method ∈ submissionMethods)
    (hbefore : ∀ entry ∈ before, client.Prepares entry.1)
    (hreceipts : ∀ entry ∈ receipts, ∃ hash, entry.1 = .request client.connection (.receipt hash)) :
    Transcript.sent client.connection method
        (before ++ (.request client.connection request, answer) :: receipts) =
      if request.method = method then [(request, answer)] else [] := by
  have hother : method ≠ "eth_getTransactionReceipt" := by
    rintro rfl
    simp [submissionMethods] at hmethod
  rw [Transcript.sent_append, sent_eq_nil_of_prepares hmethod hbefore, Transcript.sent_cons,
    sent_eq_nil_of_receipts hother hreceipts]
  simp

/-- By the method of a submission at most one request is sent: the one that has been prepared. -/
theorem Transacts.sent_eq {result : Except Fault Octets}
    (h : client.Transacts label call amount chain asked result chain') {method : String}
    (hmethod : method ∈ submissionMethods) :
    asked.sent client.connection method = [] ∨
    ∃ before request answer, asked.sent client.connection method = [(request, answer)] ∧
      request.method = method ∧
      Runs (client.prepare call amount) chain before (.ok request) chain' := by
  rcases h.split with hasked | ⟨before, request, answer, receipts, rfl, hprep, hreceipts⟩
  · exact .inl (sent_eq_nil_of_prepares hmethod hasked)
  rw [sent_eq_of_split hmethod (asks_prepare _ _ hprep) hreceipts]
  by_cases hsame : request.method = method
  · exact .inr ⟨before, request, answer, by rw [if_pos hsame], hsame, hprep⟩
  · exact .inl (by rw [if_neg hsame])

/-- A hash is the result only if it is the answer to the submission, and the last thing that is
asked for is its receipt, which tells of success. -/
theorem Transacts.ok {hash : Octets}
    (h : client.Transacts label call amount chain asked (.ok hash) chain') :
    ∃ before request answer receipts receipt,
      asked = before ++ (.request client.connection request, answer) ::
        (receipts ++ [(.request client.connection (.receipt hash), .result receipt)]) ∧
      Runs (client.prepare call amount) chain before (.ok request) chain' ∧
      hashOf request answer = .ok hash ∧ Succeeds receipt ∧
      ∀ entry ∈ receipts, entry.1 = .request client.connection (.receipt hash) := by
  -- the cases are on a variable result, since the one of a submission is not built of constructors
  obtain ⟨result, hr⟩ : ∃ result, result = (.ok hash : Except Fault Octets) := ⟨_, rfl⟩
  rw [← hr] at h
  cases h with
  | unprepared _ => cases hr
  | unanswered _ _ => cases hr
  | submitted hprep hhash hawaits =>
    obtain ⟨⟨⟩, hjudged, hsame⟩ := map_eq_ok_iff.mp hr
    subst hsame
    obtain ⟨receipt, hreceipt, hok⟩ := bind_eq_ok_iff.mp hjudged
    obtain ⟨receipts, rfl⟩ := List.getLast?_eq_some_iff.mp (hawaits.getLast?_eq hreceipt)
    exact ⟨_, _, _, receipts, receipt, rfl, hprep, hhash, succeeds_of_judge hok,
      fun entry he => hawaits.query_eq entry (by simp [he])⟩

/-- A hash is the result only of a submission whose answer gives it. -/
theorem Transacts.sent_of_ok {hash : Octets}
    (h : client.Transacts label call amount chain asked (.ok hash) chain') :
    ∃ before request v, Runs (client.prepare call amount) chain before (.ok request) chain' ∧
      Read.octets v = .ok hash ∧
      asked.sent client.connection request.method = [(request, .result v)] := by
  obtain ⟨before, request, answer, receipts, receipt, rfl, hprep, hhash, -, hreceipts⟩ := h.ok
  obtain ⟨v, hv, hoctets⟩ := bind_eq_ok_iff.mp hhash
  obtain rfl := resultOf_eq_ok.mp hv
  have hmethod : request.method ∈ submissionMethods :=
    method_mem_submissionMethods.mpr (isSubmission_of_prepare hprep)
  refine ⟨before, request, v, hprep, hoctets, ?_⟩
  rw [sent_eq_of_split hmethod (asks_prepare _ _ hprep), if_pos rfl]
  intro entry he
  rcases List.mem_append.mp he with he | he
  · exact ⟨hash, hreceipts entry he⟩
  · exact ⟨hash, by rw [List.mem_singleton.mp he]⟩

/-- A submission among what is asked is the one that has been prepared. -/
theorem Transacts.prepared {result : Except Fault Octets} {connection : Nat}
    {request : Node.Request} {answer : Node.Answer}
    (h : client.Transacts label call amount chain asked result chain')
    (hsent : (.request connection request, answer) ∈ asked)
    (hrequest : isSubmission request = true) :
    ∃ before receipts, asked = before ++ (.request client.connection request, answer) :: receipts ∧
      Runs (client.prepare call amount) chain before (.ok request) chain' ∧
      ∀ entry ∈ receipts, ∃ hash, entry.1 = .request client.connection (.receipt hash) := by
  -- neither preparations nor questions for receipts submit anything
  have hprepares : ∀ before : Transcript, (∀ entry ∈ before, client.Prepares entry.1) →
      (.request connection request, answer) ∉ before := by
    intro before hbefore hmem
    obtain ⟨_, ⟨⟩, hprepares⟩ := hbefore _ hmem
    cases request <;> simp_all [isPreparation, isSubmission]
  rcases h.split with hasked | ⟨before, prepared, _, receipts, rfl, hprep, hreceipts⟩
  · exact absurd hsent (hprepares asked hasked)
  rcases List.mem_append.mp hsent with hmem | hmem
  · exact absurd hmem (hprepares before (asks_prepare _ _ hprep))
  rcases List.mem_cons.mp hmem with heq | hmem
  · cases heq
    exact ⟨before, receipts, rfl, hprep, hreceipts⟩
  · obtain ⟨hash, hquery⟩ := hreceipts _ hmem
    cases hquery
    cases hrequest

/-- Signed octets that are submitted are those that have been prepared, and the count of
transactions was asked for once. -/
theorem Transacts.signed {result : Except Fault Octets} {wallet : Wallet} {raw : Octets}
    {connection : Nat} {answer : Node.Answer} (hwallet : client.wallet = some wallet)
    (hsigns : wallet.canSign = true)
    (h : client.Transacts label call amount chain asked result chain')
    (hsent : (.request connection (.sendRaw raw), answer) ∈ asked) :
    ∃ number nonce gas tip baseFee value : Int, ∃ count : Value,
      chain' = some number ∧
      asked.sent client.connection "eth_getTransactionCount" =
        [(.transactionCount wallet.address, .result count)] ∧
      Read.quantity count = .ok nonce ∧ amountOf amount = .ok value ∧
      signDraft wallet (client.draftOf number nonce gas tip baseFee call.octets value) =
        .ok raw := by
  obtain ⟨before, receipts, rfl, hprep, hreceipts⟩ := h.prepared hsent rfl
  obtain ⟨_, ⟨⟩, hrun⟩ := runs_prepare_signed hwallet hsigns hprep
  obtain ⟨number, nonce, gas, tip, baseFee, value, count, hchain, hcount, hrest⟩ :=
    runs_prepareSigned_ok hrun
  refine ⟨number, nonce, gas, tip, baseFee, value, count, hchain, ?_, hrest⟩
  rw [Transcript.sent_append, hcount, Transcript.sent_cons,
    sent_eq_nil_of_receipts (by simp) hreceipts]
  simp [Node.Request.method]

end Transacts

end DepositBridge.Client
