import DepositBridge.Proofs.DepositHash
import DepositBridge.Proofs.Fields
import DepositBridge.Proofs.StepOrder

/-!
# The accounts of a deposit

What a deposit that succeeds tells about itself, and what the two nodes were asked and have
answered, are about the same deposit: the index that the first chain has answered, the hash of the
commitment, the index and the amount, and the hash that the second chain was told.
-/

namespace DepositBridge.Bridge

open Node (Transcript)
open Program (Carries)
open Client (Read.octets)

variable {relays : Bool} {request : Request} {asked : Transcript} {outcome : Outcome}

/-! ## The deposit and its outcome -/

/-- A deposit is made of the request's commitment and amount and of the index, which fit into their
fields. -/
theorem depositOf_eq_ok {index : Int} {deposit : Deposit}
    (h : depositOf request (.int index) = .ok deposit) :
    request.salt.length = 32 ∧ (0 ≤ index ∧ index < Nat.pow 2 32) ∧ request.amount < Nat.pow 2 256 ∧
      deposit = ⟨request.salt, index.toNat, request.amount⟩ := by
  obtain ⟨hsalt, hindex, ⟨-, hamount⟩, rfl⟩ :=
    Deposit.ofFields_eq_ok_iff.mp (mapError_eq_ok_iff.mp h)
  exact ⟨hsalt, hindex, Int.ofNat_lt.mp hamount, rfl⟩

/-- The octets that stand for a deposit of a token with an index. -/
def commitment (request : Request) (index : Int) : Octets :=
  Keccak.hash (request.salt ++ Octets.ofNatWidth 4 index.toNat ++
    Octets.ofNatWidth 32 request.amount)

theorem hash_of_depositOf {index : Int} {deposit : Deposit}
    (h : depositOf request (.int index) = .ok deposit) :
    deposit.hash = commitment request index := by
  obtain ⟨-, ⟨hzero, hindex⟩, hamount, rfl⟩ := depositOf_eq_ok h
  have hindex : index.toNat < 2 ^ 32 := (Int.toNat_lt hzero).mpr hindex
  rw [Deposit.hash, DepositHash.hash, DepositHash.packed_eq hindex hamount, commitment]

/-- The journey of a deposit gives an outcome only if two calls have succeeded, or three with a
relay. -/
theorem Deposits.ok {calls : Calls} (h : Deposits relays request calls (.ok outcome)) :
    ∃ transaction index deposit, depositOf request index = .ok deposit ∧
      (relays = false ∧ outcomeOf transaction index deposit .null = .ok outcome ∧
          calls = [(depositCall request, .ok transaction), (indexCall request, .ok index)] ∨
        ∃ relayed, relays = true ∧ outcomeOf transaction index deposit relayed = .ok outcome ∧
          calls = [(depositCall request, .ok transaction), (indexCall request, .ok index),
            (relayCall deposit, .ok relayed)]) := by
  obtain ⟨result, hr⟩ : ∃ result, result = (.ok outcome : Except Failure Outcome) := ⟨_, rfl⟩
  rw [← hr] at h
  cases h with
  | depositFails => cases hr
  | indexFails => cases hr
  | rejected _ => cases hr
  | kept hrelays hdeposit => exact ⟨_, _, _, hdeposit, .inl ⟨hrelays, hr, rfl⟩⟩
  | relayFails _ _ => cases hr
  | relayed hrelays hdeposit => exact ⟨_, _, _, hdeposit, .inr ⟨_, hrelays, hr, rfl⟩⟩

/-- The outcome of a deposit without a relay, whose replies are a hash and a number. -/
theorem outcomeOf_kept (hash : Octets) (index : Int) (deposit : Deposit) :
    outcomeOf (hashReply hash) (.int index) deposit .null =
      .ok ⟨Hex.encodeMarked hash, index, Hex.encodeMarked deposit.hash, none⟩ := rfl

theorem outcomeOf_relayed (hash hash' : Octets) (index : Int) (deposit : Deposit) :
    outcomeOf (hashReply hash) (.int index) deposit (hashReply hash') =
      .ok ⟨Hex.encodeMarked hash, index, Hex.encodeMarked deposit.hash,
        some (Hex.encodeMarked hash')⟩ := rfl

/-! ## The three accounts -/

/-- What the outcome of a deposit and the conversation with the nodes have to do with each other. -/
structure Agrees (relays : Bool) (request : Request) (bridge : Bridge) (asked : Transcript)
    (outcome : Outcome) : Prop where
  /-- The index is what the first chain has answered to the one call that it was asked for, which
  names the token of the request. -/
  index : ∃ fields v answer found,
    asked.sent 0 "eth_call" = [(.call fields, .result v)] ∧
    fields.receiver = bridge.liquidity.address ∧
    fields.data.take 4 = Abi.selectorOf "getTokenIndex(uint8,address,uint256)" ∧
    Abi.decodeAll? [.uint 8, .address, .uint 256] (fields.data.drop 4) =
      some [.number request.token.toTokenType.code, .address request.tokenAddress,
        .number request.tokenId.number] ∧
    Read.octets v = .ok answer ∧
    Abi.decodeAll? [.bool, .uint 32] answer = some [.flag found, .number outcome.tokenIndex]
  /-- The numbers fit into the fields that are hashed. -/
  fits : request.salt.length = 32 ∧ (0 ≤ outcome.tokenIndex ∧ outcome.tokenIndex < Nat.pow 2 32) ∧
    request.amount < Nat.pow 2 256
  hash : outcome.depositHash = Hex.encodeMarked (commitment request outcome.tokenIndex)
  /-- The first chain has answered the submission by the transaction. -/
  deposited : ∃ raw v hash,
    asked.sent 0 "eth_sendRawTransaction" = [(.sendRaw raw, .result v)] ∧
    Read.octets v = .ok hash ∧ outcome.depositTransaction = Hex.encodeMarked hash
  /-- Without a relay the second chain is not asked. -/
  kept : relays = false → outcome.relayTransaction = none ∧
    ∀ asks answer, (.request 1 asks, answer) ∉ asked
  /-- With a relay the second chain was told the same hash, and has answered by the transaction. -/
  relayed : relays = true → ∃ fields v hash,
    asked.sent 1 "eth_sendTransaction" = [(.send fields, .result v)] ∧
    fields.receiver = bridge.rollup.address ∧
    fields.data.take 4 = Abi.selectorOf "processDeposits(uint256,bytes32[])" ∧
    Abi.decodeAll? [.uint 256, .array (.fixedBytes 32)] (fields.data.drop 4) =
      some [.number 0, .list [.octets (commitment request outcome.tokenIndex)]] ∧
    Read.octets v = .ok hash ∧ outcome.relayTransaction = some (Hex.encodeMarked hash)

section OfWallet

variable {endpoints : Endpoints} {wallet : Wallet} {first second third : Transcript}

/-- The one call that the first chain is asked for is the one of the lookup. -/
theorem sent_call (h : Stretches relays request (ofWallet endpoints wallet) first second third) :
    Transcript.sent 0 "eth_call" (first ++ (second ++ third)) =
      Transcript.sent 0 "eth_call" second := by
  obtain ⟨r, hfirst⟩ := h.submits
  rw [Transcript.sent_append, Transcript.sent_append,
    sent_eq_nil_of_connection Nat.one_ne_zero h.third_connection, List.append_nil]
  have hnone : Transcript.sent 0 "eth_call" first = [] := hfirst.sent_call_eq_nil
  rw [hnone, List.nil_append]

/-- What the first chain is asked and answers when a deposit and the lookup of its index succeed. -/
theorem first_accounts {hash : Octets} {index : Int} {chain chain' : Option Int}
    (hsigns : wallet.canSign = true)
    (h : Stretches relays request (ofWallet endpoints wallet) first second third)
    (hfirst : (ofWallet endpoints wallet).liquidity.Submits first (.ok hash))
    (hlookup : ((ofWallet endpoints wallet).lookup request).Runs chain second (.ok index) chain') :
    (∃ fields v answer found,
      Transcript.sent 0 "eth_call" (first ++ (second ++ third)) = [(.call fields, .result v)] ∧
      fields.receiver = endpoints.liquidityAddress ∧
      fields.data.take 4 = Abi.selectorOf "getTokenIndex(uint8,address,uint256)" ∧
      Abi.decodeAll? [.uint 8, .address, .uint 256] (fields.data.drop 4) =
        some [.number request.token.toTokenType.code, .address request.tokenAddress,
          .number request.tokenId.number] ∧
      Read.octets v = .ok answer ∧
      Abi.decodeAll? [.bool, .uint 32] answer = some [.flag found, .number index]) ∧
    ∃ raw v, Transcript.sent 0 "eth_sendRawTransaction" (first ++ (second ++ third)) =
        [(.sendRaw raw, .result v)] ∧ Read.octets v = .ok hash := by
  constructor
  · obtain ⟨number, fields, v, answer, found, hsecond, hlooked⟩ := runs_lookup_ok hlookup
    refine ⟨fields, v, answer, found, ?_, hlooked⟩
    rw [sent_call h, hsecond]
    simp [Transcript.sent_cons, Node.Request.method]
  · rw [h.sent_first Client.sendRaw_mem]
    exact hfirst.sent_of_ok rfl hsigns

/-- The second chain is told the hash of the deposit. -/
theorem second_accounts {deposit : Deposit} {hash : Octets} {chain chain' : Option Int}
    (h : Stretches relays request (ofWallet endpoints wallet) first second third)
    (hthird : (ofWallet endpoints wallet).rollup.Calls "processDeposits"
      [.int 0, .list ([deposit.hash].map .bytes)] none chain third (.ok hash) chain') :
    ∃ fields v,
      Transcript.sent 1 "eth_sendTransaction" (first ++ (second ++ third)) =
        [(.send fields, .result v)] ∧
      fields.receiver = endpoints.rollupAddress ∧
      fields.data.take 4 = Abi.selectorOf "processDeposits(uint256,bytes32[])" ∧
      Abi.decodeAll? [.uint 256, .array (.fixedBytes 32)] (fields.data.drop 4) =
        some [.number 0, .list [.octets deposit.hash]] ∧
      Read.octets v = .ok hash := by
  obtain ⟨call, fields, v, hcall, hsent, hreceiver, hdata, hoctets⟩ := hthird.sent_of_ok rfl
  obtain ⟨data, hvalues, hencodable, rfl⟩ := Abi.findCall_processDeposits.mp hcall
  obtain ⟨-, -, rfl⟩ := Abi.allOf?_processDeposits.mp hvalues
  obtain ⟨hselector, hargs⟩ := Abi.callData_reads_back rfl hvalues hencodable
  rw [h.sent_third Client.send_mem]
  refine ⟨fields, v, hsent, hreceiver, ?_, ?_, hoctets⟩
  · rw [hdata]
    exact hselector
  · rw [hdata]
    exact hargs

theorem agrees_of_deposits {calls : Calls} {before last : Memory} (hsigns : wallet.canSign = true)
    (h : Deposits relays request calls (.ok outcome))
    (hcarries : Carries (ofWallet endpoints wallet).answer calls before asked last) :
    Agrees relays request (ofWallet endpoints wallet) asked outcome := by
  obtain ⟨transaction, index, deposit, hdeposit, hcalls⟩ := h.ok
  rcases hcalls with ⟨hrelays, houtcome, rfl⟩ | ⟨relayed, hrelays, houtcome, rfl⟩
  · -- without a relay the third stretch is empty
    obtain ⟨first, second, _, hash, number, _, _, _, rfl, rfl, rfl, hfirst, hlookup, hrest⟩ :=
      carries_cons_cons hcarries
    obtain ⟨rfl, rfl⟩ := Program.carries_nil_iff.mp hrest
    have hstretches : Stretches relays request (ofWallet endpoints wallet) first second [] :=
      ⟨⟨_, hfirst⟩, fun _ => ⟨hash, hfirst⟩, (Client.runs_tokenIndex hlookup).2.1, by simp,
        submits_nil _⟩
    obtain ⟨hindex, raw, v, hsent, hoctets⟩ := first_accounts hsigns hstretches hfirst hlookup
    obtain ⟨hsalt, hnumber, hamount, -⟩ := depositOf_eq_ok hdeposit
    rw [outcomeOf_kept, Except.ok.injEq] at houtcome
    subst houtcome
    refine ⟨hindex, ⟨hsalt, hnumber, hamount⟩, by rw [hash_of_depositOf hdeposit],
      ⟨raw, v, hash, hsent, hoctets, rfl⟩, fun _ => ⟨rfl, ?_⟩,
      fun hon => absurd hon (by simp [hrelays])⟩
    -- all requests go to the first chain
    intro asks answer hmem
    rcases List.mem_append.mp hmem with hmem | hmem
    · obtain ⟨_, hquery⟩ := hstretches.first_connection _ hmem
      cases hquery
    · obtain ⟨_, hquery, -⟩ := hstretches.looksUp _ (by simpa using hmem)
      cases hquery
  · obtain ⟨first, second, _, hash, number, _, _, _, rfl, rfl, rfl, hfirst, hlookup, h₁⟩ :=
      carries_cons_cons hcarries
    obtain ⟨third, _, _, rfl, hthird, hrest⟩ := Program.carries_cons_iff.mp h₁
    obtain ⟨rfl, rfl⟩ := Program.carries_nil_iff.mp hrest
    obtain ⟨t, ht, hrelay, -⟩ := runs_rollupStep_iff.mp hthird
    obtain ⟨hash', rfl, rfl⟩ := map_eq_ok_iff.mp ht.symm
    have hcall := Client.runs_processDeposits hrelay
    rw [List.append_nil]
    have hstretches : Stretches relays request (ofWallet endpoints wallet) first second third :=
      ⟨⟨_, hfirst⟩, fun _ => ⟨hash, hfirst⟩, (Client.runs_tokenIndex hlookup).2.1,
        fun _ => ⟨hrelays, number, _, _, hlookup⟩, _, hcall.submits⟩
    obtain ⟨hindex, raw, v, hsent, hoctets⟩ := first_accounts hsigns hstretches hfirst hlookup
    obtain ⟨fields, v', hsecond⟩ := second_accounts hstretches hcall
    obtain ⟨hsalt, hnumber, hamount, -⟩ := depositOf_eq_ok hdeposit
    rw [outcomeOf_relayed, Except.ok.injEq] at houtcome
    subst houtcome
    rw [hash_of_depositOf hdeposit] at hsecond
    obtain ⟨hsent', hreceiver, hselector, hargs, hoctets'⟩ := hsecond
    exact ⟨hindex, ⟨hsalt, hnumber, hamount⟩, by rw [hash_of_depositOf hdeposit],
      ⟨raw, v, hash, hsent, hoctets, rfl⟩, fun hoff => absurd hoff (by simp [hrelays]),
      fun _ => ⟨fields, v', hash', hsent', hreceiver, hselector, hargs, hoctets', rfl⟩⟩

end OfWallet

/-- A deposit that succeeds, over a bridge that was built for a request with the built-in
interfaces, tells of itself what the two nodes were asked and have answered. -/
theorem deposit_agrees {bridge : Bridge} {tree : FileTree} {origin : Request}
    {options : Endpoints.Options} {atOpening nodes : Program.Behaviour Node.Query Node.Answer}
    {opening history : List (Node.Query × Node.Answer)} (hbundled : options.abiDirectory = none)
    (hbuilt : (Program.runFrom atOpening opening
      (build tree (.ofRequest origin options) (.text origin.privateKey)).run).2 = .ok bridge)
    (hok : (Program.runFrom nodes history (bridge.carryOut (deposit relays request)).run).2 =
      .ok outcome) :
    Agrees relays request bridge (Program.askedOf (Program.runFrom nodes history
      (bridge.carryOut (deposit relays request)).run).1) outcome := by
  have hrun : Program.Runs (bridge.carryOut (deposit relays request)).run _ (.ok outcome) :=
    hok ▸ Program.runs_runFrom history _
  obtain ⟨wallet, hsigns, rfl⟩ := exists_wallet_of_build hbundled hbuilt
  obtain ⟨calls, last, hcalls, hcarries⟩ := runs_carryOut_iff.mp hrun
  exact agrees_of_deposits hsigns (deposits_of_runs hcalls) hcarries

/-- What happens when the sample request is carried out on two new development chains. -/
def sampleRun : List (Program.Event Node.Query Node.Answer) × Except Failure Outcome :=
  Program.runFrom (Node.Script.behaviour []) []
    ((ofWallet (.ofRequest sampleRequest ⟨some 31337, none, 0, none⟩) sampleWallet).carryOut
      (deposit true sampleRequest)).run

theorem sampleRun_tokenIndex : sampleRun.2.toOption.map (·.tokenIndex) = some 3 := by
  decide +kernel

/-- On two development chains the deposit succeeds with the index that was answered. -/
theorem deposit_agrees_sample :
    ∃ outcome, sampleRun.2 = .ok outcome ∧ outcome.tokenIndex = 3 ∧
      Agrees true sampleRequest
        (ofWallet (.ofRequest sampleRequest ⟨some 31337, none, 0, none⟩) sampleWallet)
        (Program.askedOf sampleRun.1) outcome := by
  obtain ⟨outcome, hresult, hindex⟩ := exists_ok_of_map sampleRun_tokenIndex
  refine ⟨outcome, hresult, hindex, ?_⟩
  rw [sampleRun] at hresult ⊢
  exact deposit_agrees rfl
    (runFrom_build .empty (Node.Script.behaviour []) [] rfl ofKey_sampleRequest) hresult

end DepositBridge.Bridge
