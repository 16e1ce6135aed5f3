import DepositBridge.Client.Liquidity
import DepositBridge.Client.Rollup
import DepositBridge.Proofs.Submission

/-!
# Runs of contract calls

What a client asks when it is told to deposit, to relay or to look up a token's index. A call whose
arguments do not fit the interface asks nothing; one that changes the contract is submitted as
`Transacts` says; a lookup submits nothing.
-/

namespace DepositBridge.Client

open Node (Transcript)
open Session (Runs Asks runs_bind_iff runs_bind_ok_iff)

variable {client : Client} {chain chain' : Option Int} {asked : Transcript}

/-! ## Calls that change a contract -/

/-- The ways in which a call of a function by its name can go: its arguments do not fit and nothing
is asked, or it is submitted. -/
def Calls (client : Client) (name : String) (arguments : List Value) (amount : Option Value)
    (chain : Option Int) (asked : Transcript) (result : Except Fault Octets) (chain' : Option Int) :
    Prop :=
  (∃ fault, result = .error fault ∧ asked = [] ∧ chain' = chain) ∨
  ∃ call, Abi.findCall client.entries name arguments = .ok call ∧
    client.Transacts name call amount chain asked result chain'

/-- Looking up a function and submitting the call is all that such a session does. -/
theorem calls_of_runs {name : String} {arguments : List Value} {amount : Option Value}
    {result : Except Fault Octets}
    (h : Runs (Session.take ((Abi.findCall client.entries name arguments).mapError .lookup) >>=
      fun call => client.transact name call amount) chain asked result chain') :
    client.Calls name arguments amount chain asked result chain' := by
  rcases Session.runs_take_bind_iff.mp h with ⟨fault, -, rfl, rfl, rfl⟩ | ⟨call, hcall, hrest⟩
  · exact .inl ⟨fault, rfl, rfl, rfl⟩
  · exact .inr ⟨call, by simpa using hcall, transacts_of_runs hrest⟩

/-- The value that goes with a deposit: none for null. -/
def givenAmount : Value → Option Value
  | .null => none
  | v => some v

theorem runs_depositNative {salt amount : Value} {result : Except Fault Octets}
    (h : Runs (client.depositNative salt amount) chain asked result chain') :
    client.Calls "depositNativeToken" [salt] (givenAmount amount) chain asked result chain' := by
  refine calls_of_runs ?_
  cases amount <;> exact h

/-- The argument of an address is the text of the address that the given text writes. -/
theorem addressArgument_eq_ok {token : String} {v : Value}
    (h : addressArgument (.text token) = .ok v) :
    ∃ address, Address.ofText? token = some address ∧ v = .text address.text := by
  obtain ⟨address, haddress, rfl⟩ := map_eq_ok_iff.mp h
  rw [mapError_eq_ok_iff] at haddress
  simp only [Address.ofValue] at haddress
  cases hread : Address.ofText? token with
  | none => simp [hread] at haddress
  | some a =>
    simp only [hread, Except.ok.injEq] at haddress
    exact ⟨address, by rw [haddress], rfl⟩

theorem runs_depositErc20 {token salt amount : Value} {result : Except Fault Octets}
    (h : Runs (client.depositErc20 token salt amount) chain asked result chain') :
    (∃ fault, result = .error fault ∧ asked = [] ∧ chain' = chain) ∨
    ∃ address, addressArgument token = .ok address ∧
      client.Calls "depositERC20" [address, salt, amount] none chain asked result chain' := by
  rcases Session.runs_take_bind_iff.mp h with ⟨fault, -, rfl, rfl, rfl⟩ | ⟨_, -, h₁⟩
  · exact .inl ⟨fault, rfl, rfl, rfl⟩
  rcases Session.runs_take_bind_iff.mp h₁ with ⟨fault, -, rfl, rfl, rfl⟩ | ⟨address, ha, h₂⟩
  · exact .inl ⟨fault, rfl, rfl, rfl⟩
  · exact .inr ⟨address, ha, calls_of_runs h₂⟩

theorem runs_processDeposits {lastProcessed hashes : Value} {result : Except Fault Octets}
    (h : Runs (client.processDeposits lastProcessed hashes) chain asked result chain') :
    client.Calls "processDeposits" [lastProcessed, hashes] none chain asked result chain' :=
  calls_of_runs h

/-- The ways in which a call that changes a contract can go, whatever it is. -/
def Submits (client : Client) (asked : Transcript) (result : Except Fault Octets) : Prop :=
  (∃ fault, result = .error fault ∧ asked = []) ∨
  ∃ label call amount chain chain', client.Transacts label call amount chain asked result chain'

theorem Calls.submits {name : String} {arguments : List Value} {amount : Option Value}
    {result : Except Fault Octets}
    (h : client.Calls name arguments amount chain asked result chain') :
    client.Submits asked result := by
  rcases h with ⟨fault, rfl, rfl, -⟩ | ⟨call, -, htransacts⟩
  · exact .inl ⟨fault, rfl, rfl⟩
  · exact .inr ⟨name, call, amount, chain, chain', htransacts⟩

namespace Submits

variable {result : Except Fault Octets}

theorem queries (h : client.Submits asked result) : ∀ entry ∈ asked, ∃ request,
    entry.1 = .request client.connection request ∧
      (isPreparation request ∨ isSubmission request ∨ ∃ hash, request = .receipt hash) := by
  rcases h with ⟨_, -, rfl⟩ | ⟨_, _, _, _, _, htransacts⟩
  · simp
  · exact htransacts.queries

theorem sent_call_eq_nil (h : client.Submits asked result) :
    asked.sent client.connection "eth_call" = [] := by
  refine Transcript.sent_eq_nil fun entry he request hquery => ?_
  obtain ⟨_, hquery', hkind⟩ := h.queries entry he
  cases hquery.symm.trans hquery'
  cases request <;> simp_all [isPreparation, isSubmission, Node.Request.method]

/-- Whichever way it goes, it submits at most once by each method. -/
theorem length_sent_le (h : client.Submits asked result) {method : String}
    (hmethod : method ∈ submissionMethods) : (asked.sent client.connection method).length ≤ 1 := by
  rcases h with ⟨_, -, rfl⟩ | ⟨_, _, _, _, _, htransacts⟩
  · simp
  · obtain hnone | ⟨_, _, _, hone, -⟩ := htransacts.sent_eq hmethod
    · simp [hnone]
    · simp [hone]

/-- A client whose wallet can sign does not leave the signing to the node. -/
theorem sent_send_eq_nil {wallet : Wallet} (h : client.Submits asked result)
    (hwallet : client.wallet = some wallet) (hsigns : wallet.canSign = true) :
    asked.sent client.connection "eth_sendTransaction" = [] := by
  rcases h with ⟨_, -, rfl⟩ | ⟨_, _, _, _, _, htransacts⟩
  · simp
  · obtain hnone | ⟨_, _, _, -, hmethod, hprep⟩ := htransacts.sent_eq send_mem
    · exact hnone
    · obtain ⟨raw, rfl, -⟩ := runs_prepare_signed hwallet hsigns hprep
      simp [Node.Request.method] at hmethod

/-- A client without a wallet leaves the signing to the node. -/
theorem sent_sendRaw_eq_nil (h : client.Submits asked result) (hwallet : client.wallet = none) :
    asked.sent client.connection "eth_sendRawTransaction" = [] := by
  rcases h with ⟨_, -, rfl⟩ | ⟨_, _, _, _, _, htransacts⟩
  · simp
  · obtain hnone | ⟨_, _, _, -, hmethod, hprep⟩ := htransacts.sent_eq sendRaw_mem
    · exact hnone
    · obtain ⟨fields, rfl, -⟩ := runs_prepare_unsigned (leavesSigning_of_none hwallet) hprep
      simp [Node.Request.method] at hmethod

/-- Where a client that signs succeeds, the node has answered its submission by the result. -/
theorem sent_of_ok {wallet : Wallet} {hash : Octets} (hwallet : client.wallet = some wallet)
    (hsigns : wallet.canSign = true) (h : client.Submits asked (.ok hash)) :
    ∃ raw v, asked.sent client.connection "eth_sendRawTransaction" = [(.sendRaw raw, .result v)] ∧
      Read.octets v = .ok hash := by
  rcases h with ⟨_, ⟨⟩, -⟩ | ⟨_, _, _, _, _, htransacts⟩
  obtain ⟨before, request, v, hprep, hoctets, hsent⟩ := htransacts.sent_of_ok
  obtain ⟨raw, rfl, -⟩ := runs_prepare_signed hwallet hsigns hprep
  exact ⟨raw, v, hsent, hoctets⟩

end Submits

/-- Where a client without a wallet succeeds, the node has answered the call for it to sign by the
result. -/
theorem Calls.sent_of_ok {name : String} {arguments : List Value} {amount : Option Value}
    {hash : Octets} (hwallet : client.wallet = none)
    (h : client.Calls name arguments amount chain asked (.ok hash) chain') :
    ∃ call fields v, Abi.findCall client.entries name arguments = .ok call ∧
      asked.sent client.connection "eth_sendTransaction" = [(.send fields, .result v)] ∧
      fields.receiver = client.address ∧ fields.data = call.octets ∧ Read.octets v = .ok hash := by
  rcases h with ⟨_, ⟨⟩, -⟩ | ⟨call, hcall, htransacts⟩
  obtain ⟨before, request, v, hprep, hoctets, hsent⟩ := htransacts.sent_of_ok
  obtain ⟨fields, rfl, hrun⟩ := runs_prepare_unsigned (leavesSigning_of_none hwallet) hprep
  obtain ⟨_, ⟨⟩, -⟩ | ⟨_, account, _, _, -, -, -, hfields⟩ := runs_prepareUnsigned hrun
  obtain ⟨gas, rfl⟩ := hfields _ rfl
  exact ⟨call, _, v, hcall, hsent, rfl, rfl, hoctets⟩

/-! ## Lookups -/

/-- Whether a request looks something up without changing anything. -/
def isLookup : Node.Request → Bool
  | .chainId | .call _ | .code _ => true
  | _ => false

/-- Whether a query goes over a client's connection and looks something up. -/
def LooksUp (client : Client) (query : Node.Query) : Prop :=
  ∃ request, query = .request client.connection request ∧ isLookup request = true

/-- The fields of a call that changes nothing. -/
def lookupFields (client : Client) (call : Abi.Call) : Node.CallFields where
  value := none
  sender := none
  nonce := none
  gas := none
  receiver := client.address
  data := call.octets

theorem Reads.asks_looksUp {α : Type} {request : Node.Request} {read : Value → Except Fault α}
    {session : Session α} (h : client.Reads request read session)
    (hrequest : isLookup request = true) : session.Asks client.LooksUp :=
  h.asks.mono fun _ hquery => ⟨request, hquery, hrequest⟩

/-- What is left to ask when a call is answered: without data, whether there is a contract. -/
theorem asks_answered (call : Abi.Call) (v : Value) : Session.Asks (do
    let answer ← Session.take (Read.octets v)
    match Abi.decodeAll? call.function.outputs answer with
    | some data => pure data
    | none =>
      if answer.isEmpty then
        let _ ← Session.take (Read.octets (← client.send (.code client.address)))
      throw .undecodable) (· = .request client.connection (.code client.address)) := by
  refine (Session.asks_take _).bind fun answer => ?_
  split
  · simp
  · by_cases h : answer.isEmpty
    · simp only [h, if_true]
      refine (reads_send _).asks.bind fun v => ?_
      exact (Session.asks_take _).bind fun _ => Session.asks_throw _
    · simp [h]

theorem asks_ask (call : Abi.Call) : (client.ask call).Asks client.LooksUp := by
  refine ((reads_checkChain _).asks_looksUp rfl).bind fun _ => ?_
  refine ((reads_send _).asks_looksUp rfl).bind fun v => ?_
  exact (asks_answered call v).mono fun _ hquery => ⟨_, hquery, rfl⟩

theorem keeps_ask (call : Abi.Call) : (client.ask call).Keeps := by
  refine (reads_checkChain _).keeps.bind fun _ => ?_
  refine (reads_send _).keeps.bind fun v => ?_
  refine (Session.keeps_take _).bind fun answer => ?_
  split
  · simp
  · by_cases h : answer.isEmpty
    · simp only [h, if_true]
      refine (reads_send _).keeps.bind fun v => ?_
      exact (Session.keeps_take _).bind fun _ => Session.keeps_throw _
    · simp [h]

/-- A lookup that succeeds has asked for the number of the chain and then made the call, whose
answer decodes to the data that are got. -/
theorem runs_ask_ok {call : Abi.Call} {data : List Abi.Datum}
    (h : Runs (client.ask call) chain asked (.ok data) chain') :
    ∃ number v answer,
      asked = [(.request client.connection .chainId, .result number),
        (.request client.connection (.call (client.lookupFields call)), .result v)] ∧
      Read.octets v = .ok answer ∧ Abi.decodeAll? call.function.outputs answer = some data := by
  obtain ⟨_, _, _, _, rfl, hcheck, h₁⟩ := runs_bind_ok_iff.mp h
  obtain ⟨number, rfl, -, rfl⟩ := (reads_checkChain none).ok hcheck
  obtain ⟨_, v, _, _, rfl, hsend, h₂⟩ := runs_bind_ok_iff.mp h₁
  obtain ⟨v, rfl, ⟨⟩, rfl⟩ := (reads_send _).ok hsend
  obtain ⟨answer, hanswer, h₃⟩ := Session.runs_take_bind_ok_iff.mp h₂
  cases hdata : Abi.decodeAll? call.function.outputs answer with
  | some data =>
    simp only [hdata, Session.runs_pure_iff] at h₃
    obtain ⟨rfl, ⟨⟩, -⟩ := h₃
    exact ⟨number, v, answer, rfl, hanswer, hdata⟩
  | none =>
    -- an answer that does not decode ends in a fault, whether it is empty or not
    exfalso
    by_cases hempty : answer.isEmpty <;>
      simp [hdata, hempty, runs_bind_iff] at h₃

/-- A call whose answer decodes gives the data of the answer, whatever else was asked. -/
theorem runs_ask_of_answer {call : Abi.Call} {fields : Node.CallFields} {v : Value}
    {octets : Octets} {data : List Abi.Datum} {result : Except Fault (List Abi.Datum)}
    (h : Runs (client.ask call) chain asked result chain')
    (hmem : (.request client.connection (.call fields), .result v) ∈ asked)
    (hoctets : Read.octets v = .ok octets)
    (hdata : Abi.decodeAll? call.function.outputs octets = some data) : result = .ok data := by
  rcases runs_bind_iff.mp h with ⟨_, -, hfails⟩ | ⟨_, _, _, _, rfl, hcheck, h₁⟩
  · cases (reads_checkChain none).asks hfails _ hmem
  replace hmem := (List.mem_append.mp hmem).resolve_left fun hfirst => by
    cases (reads_checkChain none).asks hcheck _ hfirst
  rcases runs_bind_iff.mp h₁ with ⟨_, -, hfails⟩ | ⟨_, w, _, rest, rfl, hsend, h₂⟩
  · obtain ⟨answer, rfl, hresult, -⟩ := (reads_send _).mp hfails
    cases List.mem_singleton.mp hmem
    cases hresult
  obtain ⟨w, rfl, ⟨⟩, rfl⟩ := (reads_send _).ok hsend
  -- behind the call nothing is called any more, so its answer is the one that decodes
  obtain rfl : v = w := by
    rcases List.mem_append.mp hmem with hcall | hlater
    · cases List.mem_singleton.mp hcall
      rfl
    · cases asks_answered call w h₂ _ hlater
  rcases Session.runs_take_bind_iff.mp h₂ with ⟨_, hbad, -⟩ | ⟨octets', hoctets', h₃⟩
  · cases hbad.symm.trans hoctets
  obtain rfl : octets' = octets := Except.ok.inj (hoctets'.symm.trans hoctets)
  simp only [hdata, Session.runs_pure_iff] at h₃
  exact h₃.2.1

/-- The ways in which a lookup of an index can go: the arguments do not fit and nothing is asked, or
the call is made and its data tell the index. -/
theorem tokenIndex_cases {type : TokenType} {token id : Value} {result : Except Fault Int}
    (h : Runs (client.tokenIndex type token id) chain asked result chain') :
    (asked = [] ∧ chain' = chain ∧ (∃ fault, result = .error fault) ∧
      ∀ address call, addressArgument token = .ok address →
        Abi.findCall client.entries "getTokenIndex" [.int type.code, address, id] ≠ .ok call) ∨
    ∃ address call answer, addressArgument token = .ok address ∧
      Abi.findCall client.entries "getTokenIndex" [.int type.code, address, id] = .ok call ∧
      Runs (client.ask call) chain asked answer chain' ∧
      result = (answer >>= tokenAnswer).map Prod.snd := by
  rcases Session.runs_take_bind_iff.mp h with ⟨fault, hnone, rfl, rfl, rfl⟩ | ⟨_, -, h₁⟩
  · refine .inl ⟨rfl, rfl, ⟨fault, rfl⟩, fun address call _ hcall => ?_⟩
    obtain ⟨named, hnamed, -⟩ := bind_eq_ok_iff.mp hcall
    cases (mapError_eq_ok_iff.mpr hnamed).symm.trans hnone
  rcases Session.runs_take_bind_iff.mp h₁ with ⟨fault, hnone, rfl, rfl, rfl⟩ | ⟨address, ha, h₂⟩
  · exact .inl ⟨rfl, rfl, ⟨fault, rfl⟩, fun _ _ hfits => by cases hfits.symm.trans hnone⟩
  rcases Session.runs_take_bind_iff.mp h₂ with ⟨fault, hnone, rfl, rfl, rfl⟩ | ⟨call, hcall, h₃⟩
  · refine .inl ⟨rfl, rfl, ⟨fault, rfl⟩, fun address' call hfits hcall => ?_⟩
    cases ha.symm.trans hfits
    cases (mapError_eq_ok_iff.mpr hcall).symm.trans hnone
  refine .inr ?_
  rcases runs_bind_iff.mp h₃ with ⟨fault, rfl, hfails⟩ | ⟨first, data, _, _, rfl, hask, h₄⟩
  · exact ⟨address, call, .error fault, ha, by simpa using hcall, hfails, rfl⟩
  refine ⟨address, call, .ok data, ha, by simpa using hcall, ?_⟩
  rcases Session.runs_take_bind_iff.mp h₄ with ⟨fault, hd, rfl, rfl, rfl⟩ | ⟨⟨found, index⟩, hd, h₅⟩
  · exact ⟨by rwa [List.append_nil], by simp [hd, Except.map]⟩
  -- what is left takes a note at most
  obtain ⟨rfl, rfl, rfl⟩ : _ = [] ∧ result = .ok index ∧ chain' = _ := by
    cases found with
    | true => simpa using h₅
    | false =>
      rcases runs_bind_iff.mp h₅ with ⟨_, -, hnote⟩ | ⟨_, _, _, _, rfl, hnote, hpure⟩
      · simp at hnote
      · obtain ⟨rfl, -, rfl⟩ := Session.runs_note_iff.mp hnote
        simpa using hpure
  exact ⟨by rwa [List.append_nil], by simp [hd, Except.map]⟩

/-- The index of a token is looked up only if the arguments fit, and submits nothing. -/
theorem runs_tokenIndex {type : TokenType} {token id : Value} {result : Except Fault Int}
    (h : Runs (client.tokenIndex type token id) chain asked result chain') :
    chain' = chain ∧ (∀ entry ∈ asked, client.LooksUp entry.1) ∧
      ∀ index, result = .ok index → ∃ address call data found,
        addressArgument token = .ok address ∧
        Abi.findCall client.entries "getTokenIndex" [.int type.code, address, id] = .ok call ∧
        Runs (client.ask call) chain asked (.ok data) chain' ∧
        tokenAnswer data = .ok (found, index) := by
  rcases tokenIndex_cases h with
    ⟨rfl, rfl, ⟨_, rfl⟩, -⟩ | ⟨address, call, answer, ha, hcall, hask, rfl⟩
  · simp
  · refine ⟨keeps_ask _ hask, asks_ask _ hask, fun index hindex => ?_⟩
    obtain ⟨⟨found, _⟩, htold, rfl⟩ := map_eq_ok_iff.mp hindex
    obtain ⟨data, rfl, hdata⟩ := bind_eq_ok_iff.mp htold
    exact ⟨address, call, data, found, ha, hcall, hask, hdata⟩

end DepositBridge.Client
