import DepositBridge.Proofs.Blame
import DepositBridge.Proofs.Commitment
import DepositBridge.Proofs.Outcomes
import DepositBridge.Proofs.PrivateKeys
import DepositBridge.Proofs.Spellings

/-!
# No deposit is stranded by the bridge itself

What a request accepts fits into everything that is made of it later: the arguments of all calls,
the deposit, its hash and the outcome. So once the first chain has told the index of a token, only
the second chain's node can keep the deposit from being relayed (`deposit_notStranded`).
-/

namespace DepositBridge

open Node (Transcript)

/-! ## Requests fit -/

/-- The numbers and the commitment of a request fit into their fields. -/
structure Request.Fits (request : Request) : Prop where
  salt : request.salt.length = 32
  amount : request.amount < Nat.pow 2 256
  tokenId : request.tokenId.number < Nat.pow 2 256

/-- What is accepted fits. -/
theorem Request.fits_of_ofDraft {draft : Draft} {request : Request}
    (haccepted : ofDraft draft = .ok request) : request.Fits := by
  have haccepts := ofDraft_eq_ok_iff.mp haccepted
  refine ⟨?_, ?_, ?_⟩
  · obtain ⟨v, -, hsalt⟩ := Field.exists_of_required haccepts.salt
    exact (Field.hash_eq_ok_iff_writes.mp hsalt).1
  · obtain ⟨v, -, hamount⟩ := Field.exists_of_required haccepts.amount
    exact Int.ofNat_lt.mp (Field.int_of_intBelow hamount).2
  · exact (tokenIdOfText_eq_ok_iff.mp (tokenIdOfText_text haccepts.tokenId)).2.2

namespace Bridge

open Program (Carries)
open Client (Read.octets)

variable {relays : Bool} {request : Request} {endpoints : Endpoints} {wallet : Wallet}

/-! ## Arguments fit -/

/-- The arguments of all calls that a deposit makes fit the interfaces of the two contracts. -/
structure Encodes (request : Request) (bridge : Bridge) : Prop where
  address : Client.addressArgument (.text request.tokenAddress.text) =
    .ok (.text request.tokenAddress.text)
  native : ∃ call, Abi.findCall bridge.liquidity.entries "depositNativeToken"
    [.bytes request.salt] = .ok call
  erc20 : ∃ call, Abi.findCall bridge.liquidity.entries "depositERC20"
    [.text request.tokenAddress.text, .bytes request.salt, .int request.amount] = .ok call
  index : ∃ call, Abi.findCall bridge.liquidity.entries "getTokenIndex"
    [.int request.token.toTokenType.code, .text request.tokenAddress.text,
      .int request.tokenId.number] = .ok call
  relay : ∀ deposit : Deposit, ∃ call, Abi.findCall bridge.rollup.entries "processDeposits"
    [.int 0, .list [.bytes deposit.hash]] = .ok call

/-- What fits into a request fits into the calls. -/
theorem encodes_of_fits (h : request.Fits) : Encodes request (ofWallet endpoints wallet) := by
  have haddress := Address.ofText?_text request.tokenAddress
  have hamount : (request.amount : Int) < Nat.pow 2 256 := Int.ofNat_lt.mpr h.amount
  have hid : (request.tokenId.number : Int) < Nat.pow 2 256 := Int.ofNat_lt.mpr h.tokenId
  have hsalt : Abi.IsWord (.fixedBytes 32) (.octets request.salt) :=
    .fixedBytes (Nat.le_refl 32) h.salt
  have hword : Abi.IsWord (.uint 256) (.number request.amount) := .uint (Nat.le_refl 256) h.amount
  refine ⟨?_, ?_, ?_, ?_, fun deposit => ?_⟩
  · simp only [Client.addressArgument, Address.ofValue, haddress]
    rfl
  · exact ⟨_, Abi.findCall_depositNativeToken.mpr
      ⟨_, Abi.allOf?_depositNativeToken.mpr ⟨h.salt, rfl⟩,
        Abi.isEncodable_of_isWord (.cons hsalt .nil) (by decide), rfl⟩⟩
  · exact ⟨_, Abi.findCall_depositERC20.mpr ⟨_, Abi.allOf?_depositERC20.mpr
      ⟨_, haddress, h.salt, ⟨Int.natCast_nonneg _, hamount⟩, rfl⟩,
        Abi.isEncodable_of_isWord (.cons (.address _) (.cons hsalt (.cons hword .nil)))
          (by decide), rfl⟩⟩
  · exact ⟨_, Abi.findCall_getTokenIndex_of_fits haddress _ ⟨Int.natCast_nonneg _, hid⟩⟩
  · have hlength : deposit.hash.length = 32 := by
      rw [Deposit.hash, DepositHash.hash, Keccak.length_hash]
    generalize deposit.hash = hash at hlength
    have hhashes : ∀ other ∈ [hash], other.length = 32 := by simp [hlength]
    have hencodable : Abi.isEncodable Abi.processDeposits.inputs
        [.number 0, .list ([hash].map .octets)] = true := by
      rw [Abi.isEncodable, Abi.length_encodeAll_processDeposits 0 hhashes, List.length_singleton]
      decide
    exact ⟨_, Abi.findCall_processDeposits.mpr
      ⟨_, Abi.allOf?_processDeposits.mpr ⟨by decide, hhashes, rfl⟩, hencodable, rfl⟩⟩

/-- An index that fits makes a deposit of a request, which has a hash. -/
theorem exists_depositOf {index : Int} (h : request.Fits)
    (hindex : 0 ≤ index ∧ index < Nat.pow 2 32) :
    ∃ deposit, depositOf request (.int index) = .ok deposit ∧
      DepositHash.ofValues (.bytes request.salt) (.int index) (.int request.amount) =
        .ok deposit.hash := by
  have hamount : (0 : Int) ≤ request.amount ∧ (request.amount : Int) < Nat.pow 2 256 :=
    ⟨Int.natCast_nonneg _, Int.ofNat_lt.mpr h.amount⟩
  refine ⟨_, mapError_eq_ok_iff.mpr (Deposit.ofFields_eq_ok_iff.mpr
    ⟨h.salt, hindex, hamount, rfl⟩), ?_⟩
  simp only [DepositHash.ofValues, DepositHash.length?, h.salt, hindex.1, hamount.1, and_self,
    if_true]
  rfl

/-! ## Behind the answer -/

/-- A deposit has ended in an outcome of an index, which can be told in one line. -/
def Told (index : Int) (result : Except Failure Outcome) : Prop :=
  ∃ outcome summary, result = .ok outcome ∧ outcome.tokenIndex = index ∧
    outcome.summary = .ok summary

theorem told_of_index {index : Int} {outcome : Outcome} {result : Except Failure Outcome}
    (hindex : 0 ≤ index ∧ index < Nat.pow 2 32) (hended : result = .ok outcome)
    (htold : outcome.tokenIndex = index) : Told index result := by
  obtain ⟨n, rfl⟩ := Int.eq_ofNat_of_zero_le hindex.1
  obtain ⟨summary, hsummary⟩ := Outcome.exists_summary htold (Int.ofNat_lt.mp hindex.2)
  exact ⟨outcome, summary, hended, htold, hsummary⟩

/-- What comes behind the answer that tells the index of a token: the transaction is mined, the
deposit is made and hashed, and only the second chain is asked. In the end there is an outcome that
can be told in one line, or the relay has failed, for which the second chain's node has answered. -/
structure NotStranded (relays : Bool) (request : Request) (bridge : Bridge) (index : Int)
    (earlier later : Transcript) (result : Except Failure Outcome) : Prop where
  mined : Mined earlier
  deposit : ∃ deposit, depositOf request (.int index) = .ok deposit ∧
    DepositHash.ofValues (.bytes request.salt) (.int index) (.int request.amount) =
      .ok deposit.hash
  second : ∀ entry ∈ later, ∃ asks, entry.1 = .request 1 asks
  ends : Told index result ∨ relays = true ∧ ∃ fault, result = .error (.client fault) ∧
    bridge.rollup.Blames "processDeposits" later fault

/-! ## The answer that tells the index -/

/-- With the built-in interface a lookup whose answer decodes gives the index of the answer. -/
theorem index_of_lookup {chain chain' : Option Int} {asked : Transcript}
    {fields : Node.CallFields} {v : Value} {octets : Octets} {found : Bool} {index : Int}
    {result : Except Client.Fault Int}
    (h : ((ofWallet endpoints wallet).lookup request).Runs chain asked result chain')
    (hmem : (.request 0 (.call fields), .result v) ∈ asked)
    (hoctets : Read.octets v = .ok octets)
    (hdata : Abi.decodeAll? Abi.getTokenIndex.outputs octets = some [.flag found, .number index]) :
    result = .ok index := by
  rcases Client.tokenIndex_cases h with ⟨rfl, -⟩ | ⟨address, call, answer, -, hcall, hask, rfl⟩
  · cases hmem
  · obtain ⟨_, -, -, rfl⟩ := Abi.findCall_getTokenIndex.mp hcall
    rw [Client.runs_ask_of_answer hask hmem hoctets hdata]
    rfl

/-- Submitting calls nothing on the first chain. -/
theorem call_notMem_of_submits {client : Client} {asked : Transcript}
    {result : Except Client.Fault Octets} {fields : Node.CallFields} {answer : Node.Answer}
    (h : client.Submits asked result) :
    (.request client.connection (.call fields), answer) ∉ asked := by
  intro hmem
  have hsent : (.call fields, answer) ∈ Transcript.sent client.connection "eth_call" asked :=
    Node.Transcript.mem_sent.mpr ⟨hmem, rfl⟩
  rw [h.sent_call_eq_nil] at hsent
  cases hsent

/-- With the index that was answered, a deposit makes no call or relays, and what comes of it is
what comes of the relay. -/
theorem Deposits.of_index {rest : Calls} {transaction index : Value} {deposit : Deposit}
    {result : Except Failure Outcome}
    (h : Deposits relays request
      ((depositCall request, .ok transaction) :: (indexCall request, .ok index) :: rest) result)
    (hdeposit : depositOf request index = .ok deposit) :
    (relays = false ∧ rest = [] ∧ result = outcomeOf transaction index deposit .null) ∨
    relays = true ∧ ∃ reply, rest = [(relayCall deposit, reply)] ∧
      result = reply.mapError .client >>= outcomeOf transaction index deposit := by
  cases h with
  | rejected hfails => cases hfails.symm.trans hdeposit
  | kept hrelays hkept =>
    cases hkept.symm.trans hdeposit
    exact .inl ⟨hrelays, rfl, rfl⟩
  | relayFails hrelays hmade =>
    cases hmade.symm.trans hdeposit
    exact .inr ⟨hrelays, _, rfl, rfl⟩
  | relayed hrelays hmade =>
    cases hmade.symm.trans hdeposit
    exact .inr ⟨hrelays, _, rfl, rfl⟩

variable {earlier later : Transcript} {fields : Node.CallFields} {v : Value} {octets : Octets}
  {found : Bool} {index : Int}

/-- Where the answer to a call tells an index, the call is the one of the lookup, which comes behind
the submission and gives the index; behind it comes what the second chain is asked. -/
theorem lookup_of_answer {first second third : Transcript} {chain chain' : Option Int}
    {submitted : Except Client.Fault Octets} {looked : Except Client.Fault Int}
    (hfirst : (ofWallet endpoints wallet).liquidity.Submits first submitted)
    (hlookup : ((ofWallet endpoints wallet).lookup request).Runs chain second looked chain')
    (hthird : ∀ entry ∈ third, ∃ asks, entry.1 = .request 1 asks)
    (hsplit : first ++ (second ++ third) =
      earlier ++ (.request 0 (.call fields), .result v) :: later)
    (hoctets : Read.octets v = .ok octets)
    (hdata : Abi.decodeAll? Abi.getTokenIndex.outputs octets = some [.flag found, .number index]) :
    looked = .ok index ∧ first <+: earlier ∧ later = third := by
  have hnotFirst : (.request 0 (.call fields), .result v) ∉ first :=
    call_notMem_of_submits hfirst
  have hnotThird : (.request 0 (.call fields), .result v) ∉ third := by
    intro hmem
    obtain ⟨asks, hquery⟩ := hthird _ hmem
    cases hquery
  have hmem : (.request 0 (.call fields), .result v) ∈ second := by
    have hall : (.request 0 (.call fields), .result v) ∈ first ++ (second ++ third) := by
      simp [hsplit]
    simpa [hnotFirst, hnotThird] using hall
  obtain rfl := index_of_lookup hlookup hmem hoctets hdata
  obtain ⟨number, fields', v', _, _, rfl, -⟩ := runs_lookup_ok hlookup
  have hcall : first ++ [(.request 0 .chainId, .result number)] ++
      (.request 0 (.call fields'), .result v') :: third =
        earlier ++ (.request 0 (.call fields), .result v) :: later := by
    rw [← hsplit, List.append_assoc]
    rfl
  obtain ⟨rfl, -, rfl⟩ :=
    (List.append_cons_inj_of_notMem (by simpa using hnotFirst) hnotThird).mp hcall
  exact ⟨rfl, List.prefix_append _ _, rfl⟩

/-- Relaying tells the rollup about the one deposit. -/
theorem runs_of_carries_relay {bridge : Bridge} {deposit : Deposit} {reply : Reply}
    {before last : Memory} {asked : Transcript}
    (h : Carries bridge.answer [(relayCall deposit, reply)] before asked last) :
    ∃ r, reply = r.map hashReply ∧ Client.Session.Runs (bridge.rollup.processDeposits (.int 0)
      (.list [.bytes deposit.hash])) before.rollup asked r last.rollup := by
  rw [relayCall] at h
  simpa only [List.map_cons, List.map_nil] using runs_of_carries_processDeposits h

theorem second_of_carries {deposit : Deposit} {reply : Reply} {before last : Memory}
    {asked : Transcript}
    (h : Carries (ofWallet endpoints wallet).answer [(relayCall deposit, reply)] before asked
      last) :
    ∀ entry ∈ asked, ∃ asks, entry.1 = .request 1 asks := by
  obtain ⟨r, -, hrun⟩ := runs_of_carries_relay h
  intro entry hentry
  obtain ⟨asks, hquery, -⟩ := (Client.runs_processDeposits hrun).submits.queries entry hentry
  exact ⟨asks, hquery⟩

/-- The deposit fails, or its token is looked up, and whatever is done then asks the second
chain. -/
theorem Deposits.asks_second {calls : Calls} {result : Except Failure Outcome}
    (h : Deposits relays request calls result) :
    (∃ fault, calls = [(depositCall request, .error fault)]) ∨
    ∃ transaction reply rest,
      calls = (depositCall request, .ok transaction) :: (indexCall request, reply) :: rest ∧
      ∀ before third last, Carries (ofWallet endpoints wallet).answer rest before third last →
        ∀ entry ∈ third, ∃ asks, entry.1 = .request 1 asks := by
  rcases h.calls_eq with hfails | ⟨transaction, reply, rfl⟩ | ⟨transaction, v, d, reply, -, -, rfl⟩
  · exact .inl hfails
  · refine .inr ⟨transaction, reply, [], rfl, fun before third last hcarries => ?_⟩
    obtain ⟨rfl, -⟩ := Program.carries_nil_iff.mp hcarries
    simp
  · exact .inr ⟨transaction, _, _, rfl, fun _ _ _ => second_of_carries⟩

/-- Where the answer to a call tells an index, the deposit is mined and its lookup gives the index;
what comes behind the answer is asked for the calls that are left. -/
theorem carries_of_answer {calls : Calls} {before last : Memory}
    {result : Except Failure Outcome} (hsigns : wallet.canSign = true)
    (h : Deposits relays request calls result)
    (hcarries : Carries (ofWallet endpoints wallet).answer calls before
      (earlier ++ (.request 0 (.call fields), .result v) :: later) last)
    (hoctets : Read.octets v = .ok octets)
    (hdata : Abi.decodeAll? Abi.getTokenIndex.outputs octets = some [.flag found, .number index]) :
    Mined earlier ∧ ∃ hash rest middle, calls = (depositCall request, .ok (hashReply hash)) ::
        (indexCall request, .ok (.int index)) :: rest ∧
      Carries (ofWallet endpoints wallet).answer rest middle later last := by
  rcases @Deposits.asks_second relays request endpoints wallet _ _ h with
    ⟨fault, rfl⟩ | ⟨transaction, reply, rest, rfl, hsecond⟩
  · -- a submission calls nothing, so no call was answered
    obtain ⟨first, _, _, hsplit, hfirst, hnil⟩ := Program.carries_cons_iff.mp hcarries
    obtain ⟨rfl, -⟩ := Program.carries_nil_iff.mp hnil
    obtain ⟨r, -, hsubmits⟩ := runs_answer_depositCall hfirst
    have hmem : (.request 0 (.call fields), .result v) ∈ first := by
      rw [List.append_nil] at hsplit
      simp [← hsplit]
    exact absurd hmem (call_notMem_of_submits hsubmits)
  · obtain ⟨first, _, _, hsplit, hfirst, h₁⟩ := Program.carries_cons_iff.mp hcarries
    obtain ⟨second, middle, third, rfl, hlooked, hrest⟩ := Program.carries_cons_iff.mp h₁
    obtain ⟨r, hr, hsubmits⟩ := runs_answer_depositCall hfirst
    obtain ⟨hash, rfl, rfl⟩ := map_eq_ok_iff.mp hr.symm
    obtain ⟨s, rfl, hlookup, -⟩ := runs_liquidityStep_iff.mp hlooked
    obtain ⟨rfl, hprefix, rfl⟩ := lookup_of_answer hsubmits hlookup (hsecond _ _ _ hrest)
      hsplit.symm hoctets hdata
    have hmined := mined_of_submits rfl rfl hsigns hsubmits
    exact ⟨hmined.mono hprefix.sublist, hash, rest, middle, rfl, hrest⟩

/-! ## Deposits that fit -/

/-- Where the answer to a call tells an index, a request that fits is not stranded. -/
theorem notStranded_of_deposits {calls : Calls} {before last : Memory}
    {result : Except Failure Outcome} (hsigns : wallet.canSign = true) (hfits : request.Fits)
    (h : Deposits relays request calls result)
    (hcarries : Carries (ofWallet endpoints wallet).answer calls before
      (earlier ++ (.request 0 (.call fields), .result v) :: later) last)
    (hoctets : Read.octets v = .ok octets)
    (hdata : Abi.decodeAll? Abi.getTokenIndex.outputs octets = some [.flag found, .number index]) :
    NotStranded relays request (ofWallet endpoints wallet) index earlier later result := by
  have hindex := Abi.index_of_answer hdata
  obtain ⟨hmined, hash, rest, middle, rfl, hrest⟩ :=
    carries_of_answer hsigns h hcarries hoctets hdata
  obtain ⟨deposit, hdeposit, hhash⟩ := exists_depositOf hfits hindex
  rcases h.of_index hdeposit with ⟨-, rfl, rfl⟩ | ⟨hrelays, reply, rfl, rfl⟩
  · -- without a relay nothing is left that could fail
    obtain ⟨rfl, -⟩ := Program.carries_nil_iff.mp hrest
    have htold := told_of_index hindex (outcomeOf_kept hash index deposit) rfl
    exact ⟨hmined, ⟨deposit, hdeposit, hhash⟩, by simp, .inl htold⟩
  · refine ⟨hmined, ⟨deposit, hdeposit, hhash⟩, second_of_carries hrest, ?_⟩
    obtain ⟨r, rfl, hrun⟩ := runs_of_carries_relay hrest
    cases r with
    | ok hash' =>
      exact .inl (told_of_index hindex (outcomeOf_relayed hash hash' index deposit) rfl)
    | error fault =>
      obtain ⟨call, hcall⟩ := (@encodes_of_fits request endpoints wallet hfits).relay deposit
      exact .inr ⟨hrelays, fault, rfl, Client.blames_processDeposits rfl hcall hrun⟩

/-- Whatever the two nodes answer, the arguments of an accepted request fit into the calls of a
bridge that was built with the built-in interfaces, and where the answer to a call of the first
chain tells the index of its token, the deposit is not stranded. -/
theorem deposit_notStranded {draft : Request.Draft} {bridge : Bridge} {tree : FileTree}
    {key : Value} {atOpening : Program.Behaviour Node.Query Node.Answer}
    {opening : List (Node.Query × Node.Answer)} (haccepted : Request.ofDraft draft = .ok request)
    (hbundled : endpoints.abiDirectory = none)
    (hbuilt : (Program.runFrom atOpening opening (build tree endpoints key).run).2 = .ok bridge) :
    Encodes request bridge ∧
      ∀ (relays : Bool) (nodes : Program.Behaviour Node.Query Node.Answer)
        (history : List (Node.Query × Node.Answer)) (earlier later : Transcript)
        (fields : Node.CallFields) (v : Value) (octets : Octets) (found : Bool) (index : Int),
        let run := Program.runFrom nodes history (bridge.carryOut (deposit relays request)).run
        Program.askedOf run.1 = earlier ++ (.request 0 (.call fields), .result v) :: later →
        Read.octets v = .ok octets →
        Abi.decodeAll? [.bool, .uint 32] octets = some [.flag found, .number index] →
        NotStranded relays request bridge index earlier later run.2 := by
  have hfits := Request.fits_of_ofDraft haccepted
  obtain ⟨wallet, hsigns, rfl⟩ := exists_wallet_of_build hbundled hbuilt
  refine ⟨encodes_of_fits hfits, ?_⟩
  intro relays nodes history earlier later fields v octets found index run hasked hoctets hdata
  obtain ⟨calls, last, hcalls, hcarries⟩ := runs_carryOut_iff.mp (Program.runs_runFrom history _)
  have hsplit : Carries (ofWallet endpoints wallet).answer calls (ofWallet endpoints wallet).memory
      (earlier ++ (.request 0 (.call fields), .result v) :: later) last := hasked ▸ hcarries
  exact notStranded_of_deposits hsigns hfits (deposits_of_runs hcalls) hsplit hoctets hdata

/-- On two development chains the index is three, and the deposit is not stranded. -/
theorem deposit_notStranded_sample :
    let bridge := ofWallet (.ofRequest sampleRequest ⟨some 31337, none, 0, none⟩) sampleWallet
    Encodes sampleRequest bridge ∧ ∃ earlier fields v later,
      Program.askedOf sampleRun.1 = earlier ++ (.request 0 (.call fields), .result v) :: later ∧
      NotStranded true sampleRequest bridge 3 earlier later sampleRun.2 := by
  intro bridge
  have haccepted : Request.ofDraft (sampleDraft sampleRequest.privateKey) = .ok sampleRequest :=
    ofDraft_sampleDraft ofText_sampleKey
  have hbuilt := runFrom_build .empty (Node.Script.behaviour []) []
    (show (Endpoints.ofRequest sampleRequest ⟨some 31337, none, 0, none⟩).abiDirectory = none
      from rfl) ofKey_sampleRequest
  obtain ⟨hencodes, hstranded⟩ := deposit_notStranded haccepted rfl hbuilt
  refine ⟨hencodes, ?_⟩
  -- the deposit succeeds, so there is one call, and its answer is the index of the outcome
  obtain ⟨outcome, hresult, hindex⟩ := exists_ok_of_map sampleRun_tokenIndex
  have hrun : Program.Runs (bridge.carryOut (deposit true sampleRequest)).run
      (Program.askedOf sampleRun.1) (.ok outcome) := hresult ▸ Program.runs_runFrom [] _
  obtain ⟨calls, last, hcalls, hcarries⟩ := runs_carryOut_iff.mp hrun
  obtain ⟨fields, v, octets, found, hsent, -, -, -, hoctets, hdata⟩ :=
    (agrees_of_deposits rfl (deposits_of_runs hcalls) hcarries).index
  rw [hindex] at hdata
  have hmem : (.call fields, .result v) ∈
      Transcript.sent 0 "eth_call" (Program.askedOf sampleRun.1) := by
    rw [hsent]
    exact List.mem_singleton_self _
  obtain ⟨earlier, later, hsplit⟩ := List.append_of_mem (Node.Transcript.mem_sent.mp hmem).1
  exact ⟨earlier, fields, v, later, hsplit,
    hstranded true (Node.Script.behaviour []) [] earlier later fields v octets found 3 hsplit
      hoctets hdata⟩

end Bridge

end DepositBridge
