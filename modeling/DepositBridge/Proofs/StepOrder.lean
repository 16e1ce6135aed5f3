import DepositBridge.Node.Script
import DepositBridge.Proofs.Address
import DepositBridge.Proofs.Bridge

/-!
# The order of a deposit's steps

A deposit's requests come in three stretches: those of the submission on the first chain, those of
the lookup of the token's index, and those of the relay on the second chain. Each stretch is there
only if the one before it has succeeded.
-/

namespace DepositBridge.Bridge

open Node (Transcript)
open Program (Carries)
open Client (Submits Succeeds isPreparation isSubmission)

variable {relays : Bool} {request : Request} {bridge : Bridge} {asked : Transcript}

/-! ## Stretches -/

theorem runs_answer_depositCall {before after : Memory} {reply : Reply}
    (h : Program.Runs (bridge.answer (depositCall request) before) asked (reply, after)) :
    ∃ r, reply = r.map hashReply ∧ bridge.liquidity.Submits asked r := by
  unfold depositCall at h
  cases hasset : request.asset with
  | native =>
    rw [hasset] at h
    obtain ⟨r, rfl, hrun, -⟩ := runs_liquidityStep_iff.mp h
    exact ⟨r, rfl, (Client.runs_depositNative hrun).submits⟩
  | erc20 token =>
    rw [hasset] at h
    obtain ⟨r, rfl, hrun, -⟩ := runs_liquidityStep_iff.mp h
    refine ⟨r, rfl, ?_⟩
    rcases Client.runs_depositErc20 hrun with ⟨fault, rfl, rfl, -⟩ | ⟨address, -, hcalls⟩
    · exact .inl ⟨fault, rfl, rfl⟩
    · exact hcalls.submits

/-- The lookup of the index of a request's token. -/
def lookup (bridge : Bridge) (request : Request) : Client.Session Int :=
  bridge.liquidity.tokenIndex request.token.toTokenType (.text request.tokenAddress.text)
    (.int request.tokenId.number)

/-- One call, or two, or with a relay three are made, and a call is made only if the ones before it
have succeeded. -/
theorem Deposits.calls_eq {calls : Calls} {result : Except Failure Outcome}
    (h : Deposits relays request calls result) :
    (∃ fault, calls = [(depositCall request, .error fault)]) ∨
    (∃ transaction reply,
      calls = [(depositCall request, .ok transaction), (indexCall request, reply)]) ∨
    ∃ transaction index deposit reply, relays = true ∧ depositOf request index = .ok deposit ∧
      calls = [(depositCall request, .ok transaction), (indexCall request, .ok index),
        (relayCall deposit, reply)] := by
  cases h with
  | depositFails => exact .inl ⟨_, rfl⟩
  | indexFails => exact .inr (.inl ⟨_, _, rfl⟩)
  | rejected _ => exact .inr (.inl ⟨_, _, rfl⟩)
  | kept _ _ => exact .inr (.inl ⟨_, _, rfl⟩)
  | relayFails hrelays hdeposit => exact .inr (.inr ⟨_, _, _, _, hrelays, hdeposit, rfl⟩)
  | relayed hrelays hdeposit => exact .inr (.inr ⟨_, _, _, _, hrelays, hdeposit, rfl⟩)

/-- What the three stretches of a deposit's requests are, and when there is more than the first. -/
structure Stretches (relays : Bool) (request : Request) (bridge : Bridge)
    (first second third : Transcript) : Prop where
  submits : ∃ r, bridge.liquidity.Submits first r
  submitted : second ≠ [] ∨ third ≠ [] → ∃ hash, bridge.liquidity.Submits first (.ok hash)
  looksUp : ∀ entry ∈ second, bridge.liquidity.LooksUp entry.1
  lookedUp : third ≠ [] → relays = true ∧
    ∃ index chain chain', (bridge.lookup request).Runs chain second (.ok index) chain'
  relays : ∃ t, bridge.rollup.Submits third t

theorem submits_nil (client : Client) : ∃ t, client.Submits [] t :=
  ⟨.error .malformed, .inl ⟨_, rfl, rfl⟩⟩

/-- A deposit and a lookup that succeed are carried out by a submission and a lookup that do. -/
theorem carries_cons_cons {transaction index : Value} {rest : Calls} {before last : Memory}
    (h : Carries bridge.answer
      ((depositCall request, .ok transaction) :: (indexCall request, .ok index) :: rest)
      before asked last) :
    ∃ first second third hash number chain chain' middle, asked = first ++ (second ++ third) ∧
      transaction = hashReply hash ∧ index = .int number ∧
      bridge.liquidity.Submits first (.ok hash) ∧
      (bridge.lookup request).Runs chain second (.ok number) chain' ∧
      Carries bridge.answer rest middle third last := by
  obtain ⟨first, _, _, rfl, hfirst, h₁⟩ := Program.carries_cons_iff.mp h
  obtain ⟨second, middle, third, rfl, hsecond, hrest⟩ := Program.carries_cons_iff.mp h₁
  obtain ⟨r, hr, hsubmits⟩ := runs_answer_depositCall hfirst
  obtain ⟨hash, rfl, hhash⟩ := map_eq_ok_iff.mp hr.symm
  obtain ⟨s, hs, hlookup, -⟩ := runs_liquidityStep_iff.mp hsecond
  obtain ⟨number, rfl, hnumber⟩ := map_eq_ok_iff.mp hs.symm
  exact ⟨first, second, third, hash, number, _, _, middle, rfl, hhash.symm, hnumber.symm, hsubmits,
    hlookup, hrest⟩

theorem stretches_of_deposits {calls : Calls} {result : Except Failure Outcome}
    {before last : Memory}
    (h : Deposits relays request calls result)
    (hcarries : Carries bridge.answer calls before asked last) :
    ∃ first second third, asked = first ++ (second ++ third) ∧
      Stretches relays request bridge first second third := by
  rcases h.calls_eq with
    ⟨fault, rfl⟩ | ⟨v, reply, rfl⟩ | ⟨v, index, deposit, reply, hrelays, -, rfl⟩
  · obtain ⟨first, m₁, _, rfl, hfirst, hrest⟩ := Program.carries_cons_iff.mp hcarries
    obtain ⟨rfl, rfl⟩ := Program.carries_nil_iff.mp hrest
    obtain ⟨r, -, hsubmits⟩ := runs_answer_depositCall hfirst
    exact ⟨first, [], [], rfl, ⟨r, hsubmits⟩, by simp, by simp, by simp, submits_nil _⟩
  · obtain ⟨first, m₁, _, rfl, hfirst, h₁⟩ := Program.carries_cons_iff.mp hcarries
    obtain ⟨second, m₂, _, rfl, hsecond, hrest⟩ := Program.carries_cons_iff.mp h₁
    obtain ⟨rfl, rfl⟩ := Program.carries_nil_iff.mp hrest
    obtain ⟨r, hr, hsubmits⟩ := runs_answer_depositCall hfirst
    obtain ⟨hash, rfl, -⟩ := map_eq_ok_iff.mp hr.symm
    obtain ⟨s, -, hlookup, -⟩ := runs_liquidityStep_iff.mp hsecond
    exact ⟨first, second, [], rfl, ⟨_, hsubmits⟩, fun _ => ⟨hash, hsubmits⟩,
      (Client.runs_tokenIndex hlookup).2.1, by simp, submits_nil _⟩
  · obtain ⟨first, second, _, hash, number, _, _, _, rfl, -, -, hsubmits, hlookup, h₁⟩ :=
      carries_cons_cons hcarries
    obtain ⟨third, _, _, rfl, hthird, hrest⟩ := Program.carries_cons_iff.mp h₁
    obtain ⟨rfl, rfl⟩ := Program.carries_nil_iff.mp hrest
    obtain ⟨t, -, hrelay, -⟩ := runs_rollupStep_iff.mp hthird
    exact ⟨first, second, third, by simp, ⟨_, hsubmits⟩, fun _ => ⟨hash, hsubmits⟩,
      (Client.runs_tokenIndex hlookup).2.1, fun _ => ⟨hrelays, number, _, _, hlookup⟩,
      t, (Client.runs_processDeposits hrelay).submits⟩

/-! ## What has happened -/

/-- A transaction that the first chain was sent has got a receipt that tells of success. -/
def Mined (asked : Transcript) : Prop :=
  ∃ raw v hash receipt, Client.Read.octets v = .ok hash ∧ Succeeds receipt ∧
    List.Sublist [(.request 0 (.sendRaw raw), .result v),
      (.request 0 (.receipt hash), .result receipt)] asked

/-- A call of the function that tells an index was answered by a flag and an index. -/
def IndexRead (asked : Transcript) : Prop :=
  ∃ fields v octets found index, (.request 0 (.call fields), .result v) ∈ asked ∧
    fields.data.take 4 = Abi.selectorOf "getTokenIndex(uint8,address,uint256)" ∧
    Client.Read.octets v = .ok octets ∧
    Abi.decodeAll? [.bool, .uint 32] octets = some [.flag found, .number index]

theorem Mined.mono {first : Transcript} (h : Mined first) (hsub : first.Sublist asked) :
    Mined asked := by
  obtain ⟨raw, v, hash, receipt, hhash, hreceipt, hboth⟩ := h
  exact ⟨raw, v, hash, receipt, hhash, hreceipt, hboth.trans hsub⟩

theorem IndexRead.mono {second : Transcript} (h : IndexRead second) (hsub : second.Sublist asked) :
    IndexRead asked := by
  obtain ⟨fields, v, octets, found, index, hmem, hread⟩ := h
  exact ⟨fields, v, octets, found, index, hsub.subset hmem, hread⟩

/-- A submission on the first chain succeeds only if its transaction is mined. -/
theorem mined_of_submits {client : Client} {wallet : Wallet} {hash : Octets}
    (hconnection : client.connection = 0) (hwallet : client.wallet = some wallet)
    (hsigns : wallet.canSign = true) (h : client.Submits asked (.ok hash)) : Mined asked := by
  rcases h with ⟨_, ⟨⟩, -⟩ | ⟨_, _, _, _, _, htransacts⟩
  obtain ⟨before, request, answer, receipts, receipt, rfl, hprep, hhash, hreceipt, -⟩ :=
    htransacts.ok
  obtain ⟨raw, rfl, -⟩ := Client.runs_prepare_signed hwallet hsigns hprep
  obtain ⟨v, hv, hoctets⟩ := bind_eq_ok_iff.mp hhash
  obtain rfl := Client.resultOf_eq_ok.mp hv
  refine ⟨raw, v, hash, receipt, hoctets, hreceipt, ?_⟩
  -- between the two stand the questions for the receipt that had no answer yet
  rw [hconnection]
  refine List.Sublist.trans ?_ (List.sublist_append_right _ _)
  exact .cons_cons _ (List.sublist_append_right _ _)

/-- The answer about a token is a flag and an index. -/
theorem eq_of_tokenAnswer {data : List Abi.Datum} {found : Bool} {index : Int}
    (h : Client.tokenAnswer data = .ok (found, index)) : data = [.flag found, .number index] := by
  unfold Client.tokenAnswer at h
  split at h
  · cases h
    rfl
  · cases h

/-- A lookup of an index asks for the number of the chain and then makes one call, of the function
for the request's token, that is answered by a flag and the index. -/
theorem runs_lookup_ok {endpoints : Endpoints} {wallet : Wallet} {chain chain' : Option Int}
    {index : Int}
    (h : ((ofWallet endpoints wallet).lookup request).Runs chain asked (.ok index) chain') :
    ∃ number fields v answer found,
      asked = [(.request 0 .chainId, .result number), (.request 0 (.call fields), .result v)] ∧
      fields.receiver = endpoints.liquidityAddress ∧
      fields.data.take 4 = Abi.getTokenIndex.selector ∧
      Abi.decodeAll? Abi.getTokenIndex.inputs (fields.data.drop 4) =
        some [.number request.token.toTokenType.code, .address request.tokenAddress,
          .number request.tokenId.number] ∧
      Client.Read.octets v = .ok answer ∧
      Abi.decodeAll? [.bool, .uint 32] answer = some [.flag found, .number index] := by
  obtain ⟨-, -, hok⟩ := Client.runs_tokenIndex h
  obtain ⟨_, call, data, found, htoken, hcall, hask, hdata⟩ := hok index rfl
  obtain ⟨address, haddress, rfl⟩ := Client.addressArgument_eq_ok htoken
  rw [Address.ofText?_text] at haddress
  cases haddress
  obtain ⟨arguments, harguments, hencodable, rfl⟩ := Abi.findCall_getTokenIndex.mp hcall
  obtain ⟨number, v, answer, rfl, hanswer, hdecoded⟩ := Client.runs_ask_ok hask
  rw [eq_of_tokenAnswer hdata] at hdecoded
  -- the address was written by the client, so it is the one of the request that is read
  obtain ⟨_, -, hread, -, rfl⟩ := Abi.allOf?_getTokenIndex.mp harguments
  rw [Address.ofText?_text] at hread
  cases hread
  obtain ⟨hselector, hargs⟩ := Abi.callData_reads_back rfl harguments hencodable
  exact ⟨number, _, v, answer, found, rfl, rfl, hselector, hargs, hanswer, hdecoded⟩

/-- A lookup of an index succeeds only if a call is answered by it. -/
theorem indexRead_of_runs {endpoints : Endpoints} {wallet : Wallet} {chain chain' : Option Int}
    {index : Int}
    (h : ((ofWallet endpoints wallet).lookup request).Runs chain asked (.ok index) chain') :
    IndexRead asked := by
  obtain ⟨number, fields, v, answer, found, rfl, -, hselector, -, hanswer, hdecoded⟩ :=
    runs_lookup_ok h
  exact ⟨fields, v, answer, found, index, by simp, hselector, hanswer, hdecoded⟩

/-! ## The order -/

/-- What a deposit asks of the two nodes, and in which order. -/
structure InOrder (relays : Bool) (request : Request) (bridge : Bridge) (asked : Transcript)
    (result : Except Failure Outcome) : Prop where
  /-- The first chain is sent one signed transaction at most, and none to sign. -/
  deposits_once : (asked.sent 0 "eth_sendRawTransaction").length ≤ 1 ∧
    asked.sent 0 "eth_sendTransaction" = []
  /-- The second chain is sent one transaction to sign at most, and no signed one. -/
  relays_once : (asked.sent 1 "eth_sendTransaction").length ≤ 1 ∧
    asked.sent 1 "eth_sendRawTransaction" = []
  /-- A call is made only after the deposit's transaction was mined. -/
  call_after_mined : ∀ earlier connection fields answer later,
    asked = earlier ++ (.request connection (.call fields), answer) :: later → Mined earlier
  /-- The second chain is asked only if the deposit is relayed, and after its transaction was mined
  and its token's index was read. -/
  rollup_after_index : ∀ earlier asks answer later,
    asked = earlier ++ (.request 1 asks, answer) :: later →
      relays = true ∧ Mined earlier ∧ IndexRead earlier
  /-- The requests are those of the calls of the steps, in order. A call that fails is the last one,
  and so is the lookup of an index that makes no deposit; the failure is what comes of it all. -/
  stops_at_failure : ∃ calls last deposit,
    Carries bridge.answer calls bridge.memory asked last ∧
    calls.map Prod.fst <+: [depositCall request, indexCall request, relayCall deposit] ∧
    (∀ call fault, (call, .error fault) ∈ calls →
      calls.getLast? = some (call, .error fault) ∧ result = .error (.client fault)) ∧
    ∀ index failure, (indexCall request, .ok index) ∈ calls →
      depositOf request index = .error failure →
      calls.getLast? = some (indexCall request, .ok index) ∧ result = .error failure

/-- What comes in front of an entry that the first stretch does not have takes in the stretch, and
there is a stretch behind it. -/
theorem prefix_of_append_eq {β : Type} {p : β → Prop} {first rest earlier later : List β} {b : β}
    (hfirst : ∀ a ∈ first, p a) (hb : ¬ p b) (h : first ++ rest = earlier ++ b :: later) :
    first <+: earlier ∧ rest ≠ [] := by
  -- either the first stretch ends in front of the entry, or the entry is in it
  rcases List.append_eq_append_iff.mp h with ⟨more, rfl, rfl⟩ | ⟨more, rfl, hmore⟩
  · exact ⟨List.prefix_append _ _, by simp⟩
  · cases more with
    | nil =>
      rw [List.nil_append] at hmore
      exact ⟨by simp, by simp [← hmore]⟩
    | cons a more =>
      obtain ⟨rfl, -⟩ := List.cons.inj hmore
      exact absurd (hfirst b (by simp)) hb

theorem indexCall_ne_depositCall (request : Request) : indexCall request ≠ depositCall request := by
  unfold depositCall indexCall
  cases request.asset <;> simp

/-- A call that fails is the last one, and so is the lookup of an index that makes no deposit. -/
theorem Deposits.stops {calls : Calls} {result : Except Failure Outcome}
    (h : Deposits relays request calls result) :
    (∃ deposit,
      calls.map Prod.fst <+: [depositCall request, indexCall request, relayCall deposit]) ∧
    (∀ call fault, (call, .error fault) ∈ calls →
      calls.getLast? = some (call, .error fault) ∧ result = .error (.client fault)) ∧
    ∀ index failure, (indexCall request, .ok index) ∈ calls →
      depositOf request index = .error failure →
      calls.getLast? = some (indexCall request, .ok index) ∧ result = .error failure := by
  -- the lookup of the index is told from the other calls, so only its own reply is meant
  have hne := indexCall_ne_depositCall request
  cases h with
  | depositFails => exact ⟨⟨⟨[], 0, 0⟩, by simp⟩, by simp, by simp⟩
  | indexFails => exact ⟨⟨⟨[], 0, 0⟩, by simp⟩, by simp, by simp [hne]⟩
  | rejected hfails =>
    refine ⟨⟨⟨[], 0, 0⟩, by simp⟩, by simp, ?_⟩
    simp only [List.mem_cons, Prod.mk.injEq, hne, false_and, false_or, Except.ok.injEq, true_and,
      List.not_mem_nil, or_false]
    rintro _ failure rfl hfailure
    cases hfails.symm.trans hfailure
    simp
  | @kept _ index deposit _ hdeposit =>
    refine ⟨⟨deposit, by simp⟩, by simp, ?_⟩
    simp only [List.mem_cons, Prod.mk.injEq, hne, false_and, false_or, Except.ok.injEq, true_and,
      List.not_mem_nil, or_false]
    rintro _ failure rfl hfailure
    cases hdeposit.symm.trans hfailure
  | @relayFails _ index deposit _ _ hdeposit =>
    refine ⟨⟨deposit, by simp⟩, by simp, ?_⟩
    simp only [List.mem_cons, Prod.mk.injEq, hne, false_and, false_or, Except.ok.injEq, true_and,
      List.not_mem_nil, or_false, reduceCtorEq, and_false]
    rintro _ failure rfl hfailure
    cases hdeposit.symm.trans hfailure
  | @relayed _ index _ deposit _ hdeposit =>
    have hrelay : indexCall request ≠ relayCall deposit := by simp [indexCall, relayCall]
    refine ⟨⟨deposit, by simp⟩, by simp, ?_⟩
    simp only [List.mem_cons, Prod.mk.injEq, hne, hrelay, false_and, false_or, Except.ok.injEq,
      true_and, List.not_mem_nil, or_false]
    rintro _ failure rfl hfailure
    cases hdeposit.symm.trans hfailure

/-- Nothing is sent over a connection that no query goes over. -/
theorem sent_eq_nil_of_connection {connection other : Nat} {method : String}
    (hne : other ≠ connection)
    (h : ∀ entry ∈ asked, ∃ request, entry.1 = .request other request) :
    asked.sent connection method = [] := by
  refine Transcript.sent_eq_nil fun entry he request hquery => ?_
  obtain ⟨_, hquery'⟩ := h entry he
  cases hquery.symm.trans hquery'
  exact absurd rfl hne

/-- Lookups submit nothing. -/
theorem sent_eq_nil_of_looksUp {client : Client} {connection : Nat} {method : String}
    (hmethod : method ∈ Client.submissionMethods) (h : ∀ entry ∈ asked, client.LooksUp entry.1) :
    asked.sent connection method = [] := by
  refine Transcript.sent_eq_nil fun entry he request hquery hsame => ?_
  obtain ⟨request', hquery', hlooksUp⟩ := h entry he
  cases hquery.symm.trans hquery'
  subst hsame
  cases request <;> simp_all [Client.isLookup, Client.submissionMethods, Node.Request.method]

section OfWallet

variable {endpoints : Endpoints} {wallet : Wallet} {first second third : Transcript}

namespace Stretches

variable (h : Stretches relays request (ofWallet endpoints wallet) first second third)

include h

theorem first_connection : ∀ entry ∈ first, ∃ request, entry.1 = .request 0 request := by
  obtain ⟨r, hfirst⟩ := h.submits
  intro entry he
  obtain ⟨request, hquery, -⟩ := hfirst.queries entry he
  exact ⟨request, hquery⟩

theorem third_connection : ∀ entry ∈ third, ∃ request, entry.1 = .request 1 request := by
  obtain ⟨t, hthird⟩ := h.relays
  intro entry he
  obtain ⟨request, hquery, -⟩ := hthird.queries entry he
  exact ⟨request, hquery⟩

/-- The first chain is sent the submissions of the first stretch. -/
theorem sent_first {method : String} (hmethod : method ∈ Client.submissionMethods) :
    Transcript.sent 0 method (first ++ (second ++ third)) = Transcript.sent 0 method first := by
  rw [Transcript.sent_append, Transcript.sent_append, sent_eq_nil_of_looksUp hmethod h.looksUp,
    sent_eq_nil_of_connection Nat.one_ne_zero h.third_connection, List.append_nil, List.append_nil]

/-- The second chain is sent the submissions of the third stretch. -/
theorem sent_third {method : String} (hmethod : method ∈ Client.submissionMethods) :
    Transcript.sent 1 method (first ++ (second ++ third)) = Transcript.sent 1 method third := by
  rw [Transcript.sent_append, Transcript.sent_append, sent_eq_nil_of_looksUp hmethod h.looksUp,
    sent_eq_nil_of_connection Nat.zero_ne_one h.first_connection, List.nil_append, List.nil_append]

/-- Nothing but submissions comes before the deposit's transaction is mined. -/
theorem mined (hsigns : wallet.canSign = true) {earlier later : Transcript} {query : Node.Query}
    {answer : Node.Answer}
    (hquery : ∀ asks, (isPreparation asks ∨ isSubmission asks ∨ ∃ hash, asks = .receipt hash) →
      query ≠ .request 0 asks)
    (hsplit : first ++ (second ++ third) = earlier ++ (query, answer) :: later) :
    Mined earlier := by
  obtain ⟨r, hfirst⟩ := h.submits
  obtain ⟨hstart, hmore⟩ := prefix_of_append_eq hfirst.queries
    (by rintro ⟨asks, rfl, hasks⟩; exact hquery asks hasks rfl) hsplit
  obtain ⟨hash, hsubmits⟩ := h.submitted (by simpa [or_iff_not_imp_left] using hmore)
  exact (mined_of_submits rfl rfl hsigns hsubmits).mono hstart.sublist

/-- The second chain is asked only after the index was read, and only by a relay. -/
theorem indexed {earlier later : Transcript} {asks : Node.Request} {answer : Node.Answer}
    (hsplit : first ++ (second ++ third) = earlier ++ (.request 1 asks, answer) :: later) :
    relays = true ∧ IndexRead earlier := by
  -- both stretches in front of the relay go to the first chain
  have hzero : ∀ entry ∈ first ++ second, ∃ request, entry.1 = .request 0 request := by
    intro entry he
    rcases List.mem_append.mp he with he | he
    · exact h.first_connection entry he
    · obtain ⟨request, hquery, -⟩ := h.looksUp entry he
      exact ⟨request, hquery⟩
  rw [← List.append_assoc] at hsplit
  obtain ⟨hstart, hmore⟩ := prefix_of_append_eq hzero (by simp) hsplit
  obtain ⟨hrelays, index, chain, chain', hlookup⟩ := h.lookedUp hmore
  have hsub : second.Sublist earlier := (List.sublist_append_right _ _).trans hstart.sublist
  exact ⟨hrelays, (indexRead_of_runs hlookup).mono hsub⟩

end Stretches

theorem inOrder_of_deposits {calls : Calls} {result : Except Failure Outcome} {last : Memory}
    (hsigns : wallet.canSign = true) (h : Deposits relays request calls result)
    (hcarries : Carries (ofWallet endpoints wallet).answer calls (ofWallet endpoints wallet).memory
      asked last) :
    InOrder relays request (ofWallet endpoints wallet) asked result := by
  obtain ⟨first, second, third, rfl, hstretches⟩ := stretches_of_deposits h hcarries
  obtain ⟨r, hfirst⟩ := hstretches.submits
  obtain ⟨t, hthird⟩ := hstretches.relays
  obtain ⟨⟨deposit, hstart⟩, hfails, hrejected⟩ := h.stops
  refine ⟨⟨?_, ?_⟩, ⟨?_, ?_⟩, ?_, ?_, calls, last, deposit, hcarries, hstart, hfails, hrejected⟩
  · rw [hstretches.sent_first Client.sendRaw_mem]
    exact hfirst.length_sent_le Client.sendRaw_mem
  · rw [hstretches.sent_first Client.send_mem]
    exact hfirst.sent_send_eq_nil rfl hsigns
  · rw [hstretches.sent_third Client.send_mem]
    exact hthird.length_sent_le Client.send_mem
  · rw [hstretches.sent_third Client.sendRaw_mem]
    exact hthird.sent_sendRaw_eq_nil rfl
  · intro earlier connection fields answer later hsplit
    refine hstretches.mined hsigns (fun asks hasks hquery => ?_) hsplit
    cases hquery
    simp [isPreparation, isSubmission] at hasks
  · intro earlier asks answer later hsplit
    obtain ⟨hrelays, hindex⟩ := hstretches.indexed hsplit
    exact ⟨hrelays, hstretches.mined hsigns (fun _ _ hquery => by cases hquery) hsplit, hindex⟩

end OfWallet

/-- Whatever the two nodes answer, a bridge that was built for a request with the built-in
interfaces asks them for a deposit in order, and stops at the first failure. -/
theorem deposit_inOrder {tree : FileTree} {origin : Request} {options : Endpoints.Options}
    {atOpening nodes : Program.Behaviour Node.Query Node.Answer}
    {opening history : List (Node.Query × Node.Answer)} (hbundled : options.abiDirectory = none)
    (hbuilt : (Program.runFrom atOpening opening
      (build tree (.ofRequest origin options) (.text origin.privateKey)).run).2 = .ok bridge) :
    let run := Program.runFrom nodes history (bridge.carryOut (deposit relays request)).run
    InOrder relays request bridge (Program.askedOf run.1) run.2 := by
  obtain ⟨wallet, hsigns, rfl⟩ := exists_wallet_of_build hbundled hbuilt
  obtain ⟨calls, last, hcalls, hcarries⟩ := runs_carryOut_iff.mp (Program.runs_runFrom history _)
  exact inOrder_of_deposits hsigns (deposits_of_runs hcalls) hcarries

/-- Two development chains are asked in order. -/
theorem deposit_inOrder_sample :
    let bridge := ofWallet (.ofRequest sampleRequest ⟨some 31337, none, 0, none⟩) sampleWallet
    let run := Program.runFrom (Node.Script.behaviour []) []
      (bridge.carryOut (deposit true sampleRequest)).run
    InOrder true sampleRequest bridge (Program.askedOf run.1) run.2 :=
  deposit_inOrder rfl (runFrom_build .empty (Node.Script.behaviour []) [] rfl ofKey_sampleRequest)

end DepositBridge.Bridge
