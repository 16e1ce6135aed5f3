import DepositBridge.Proofs.Contracts
import DepositBridge.Proofs.Hexadecimal
import DepositBridge.Proofs.RemoteFaults

/-!
# How calls that change a contract end

At most one transaction is submitted. What comes of the call depends on the answer to the submission
and on the receipt that is obtained: a hash is the result only of a transaction that is mined and
has succeeded, and the remote side is at fault only if it has failed, or if there is no account to
send it from (`action_settles`).
-/

namespace DepositBridge

/-! ## Texts of hashes -/

/-- Small hexadecimal digits behind the mark `0x`. -/
def Hex.IsSmallMarked (text : String) : Prop :=
  ∃ digits : List Char, text.toList = '0' :: 'x' :: digits ∧
    ∀ c ∈ digits, c ∈ "0123456789abcdef".toList

theorem Hex.isSmallMarked_encodeMarked (bytes : Octets) : IsSmallMarked (encodeMarked bytes) := by
  have hsmall : ∀ n, n < 16 → digit n ∈ "0123456789abcdef".toList := by decide
  refine ⟨encodeChars bytes, toList_encodeMarked bytes, fun c hc => ?_⟩
  obtain ⟨n, hn, rfl⟩ := exists_digit_of_mem_encodeChars hc
  exact hsmall n hn

/-! ## Submissions -/

/-- The submissions among the requests over any connection, with their answers. -/
def Node.Transcript.submissions (asked : Node.Transcript) : List (Node.Request × Node.Answer) :=
  asked.filterMap fun
    | (.request _ request, answer) =>
      if request.method ∈ Client.submissionMethods then some (request, answer) else none
    | _ => none

namespace Client

open Node (Transcript)
open Session (Runs)

variable {client : Client} {chain chain' : Option Int} {asked : Transcript}

theorem submissions_append (first rest : Transcript) :
    (first ++ rest).submissions = first.submissions ++ rest.submissions :=
  List.filterMap_append

theorem submissions_cons (connection : Nat) (request : Node.Request) (answer : Node.Answer)
    (rest : Transcript) :
    Transcript.submissions ((.request connection request, answer) :: rest) =
      if request.method ∈ submissionMethods then (request, answer) :: rest.submissions
      else rest.submissions := by
  by_cases h : request.method ∈ submissionMethods
  · simp [Transcript.submissions, h]
  · simp [Transcript.submissions, h]

theorem submissions_of_prepares (h : ∀ entry ∈ asked, client.Prepares entry.1) :
    asked.submissions = [] := by
  refine List.filterMap_eq_nil_iff.mpr fun (query, answer) he => ?_
  obtain ⟨request, rfl, hprepares⟩ := h _ he
  exact if_neg (not_submissionMethod_of_isPreparation hprepares)

theorem submissions_of_receipts {hash : Octets}
    (h : ∀ entry ∈ asked, entry.1 = .request client.connection (.receipt hash)) :
    asked.submissions = [] := by
  refine List.filterMap_eq_nil_iff.mpr fun (query, answer) he => ?_
  obtain rfl : query = _ := h _ he
  rfl

/-! ## Receipts -/

/-- A receipt has a status that tells of failure. -/
def Denies (receipt : Value) : Prop :=
  ∃ members status,
    (Read.record receipt >>= Read.withNumbers ["status", "blockNumber"]) = .ok members ∧
    Read.field members "status" = .ok status ∧ Read.isSuccess status = false

theorem judge_of_denies {label : String} {hash : Octets} {receipt : Value} (h : Denies receipt) :
    judge label hash receipt = .error (.reverted label hash) := by
  obtain ⟨members, status, hmembers, hstatus, hdenied⟩ := h
  simp only [judge, hmembers, hstatus, ok_bind, hdenied, Bool.false_eq_true, if_false]
  rfl

theorem isNothing_of_record {receipt : Value} {members : List (String × Value)}
    {read : List (String × Value) → Except Fault (List (String × Value))}
    (h : Read.record receipt >>= read = .ok members) : Read.isNothing receipt = false := by
  cases receipt with
  | object => rfl
  | _ => cases h

theorem Succeeds.isNothing_eq {receipt : Value} (h : Succeeds receipt) :
    Read.isNothing receipt = false := by
  obtain ⟨_, _, hmembers, -⟩ := h
  exact isNothing_of_record hmembers

theorem Denies.isNothing_eq {receipt : Value} (h : Denies receipt) :
    Read.isNothing receipt = false := by
  obtain ⟨_, _, hmembers, -⟩ := h
  exact isNothing_of_record hmembers

/-- Judging a receipt finds the remote side at fault only if the receipt denies. -/
theorem judge_remote {label : String} {hash : Octets} {receipt : Value} {fault : Fault}
    (hremote : fault.isRemote = true) (h : judge label hash receipt = .error fault) :
    Denies receipt ∧ fault = .reverted label hash := by
  unfold judge at h
  cases hmembers : Read.record receipt >>= Read.withNumbers ["status", "blockNumber"] with
  | error other =>
    rw [hmembers] at h
    cases h
    have hlocal := (notRemote_record receipt).bind (notRemote_withNumbers _) fault hmembers
    rw [hlocal] at hremote
    cases hremote
  | ok members =>
    rw [hmembers, ok_bind] at h
    cases hstatus : Read.field members "status" with
    | error other =>
      rw [hstatus] at h
      cases h
      rw [notRemote_field _ _ fault hstatus] at hremote
      cases hremote
    | ok status =>
      rw [hstatus, ok_bind] at h
      cases hsuccess : Read.isSuccess status with
      | false =>
        rw [hsuccess] at h
        cases h
        exact ⟨⟨members, status, hmembers, hstatus, hsuccess⟩, rfl⟩
      | true =>
        -- of a mined transaction only the number of its block is left to be read
        rw [hsuccess, if_pos rfl] at h
        have hlocal : NotRemote (Read.field members "blockNumber" >>= fun block =>
            (block.shown.mapError .numeral).map fun _ => ()) :=
          (notRemote_field _ _).bind fun block => (notRemote_mapError fun _ => rfl).map _
        rw [hlocal fault h] at hremote
        cases hremote

/-- A receipt is obtained if it is the last answer and not nothing. -/
theorem Awaits.eq_ok {hash : Octets} {polls : Nat} {result : Except Fault Value} {receipt : Value}
    (h : client.Awaits hash polls asked result) (hreceipt : Read.isNothing receipt = false)
    (hlast : asked.getLast?.map Prod.snd = some (.result receipt)) : result = .ok receipt := by
  induction h with
  | exhausted => cases hlast
  | @again _ answer rest _ hunmined hrest ih =>
    cases rest with
    | nil =>
      -- the last answer leaves the receipt open, so there is none
      cases hlast
      rw [isUnmined, hreceipt] at hunmined
      cases hunmined
    | cons entry rest => exact ih (by rwa [List.getLast?_cons_cons] at hlast)
  | mined _ =>
    cases hlast
    rfl
  | refused _ => cases hlast

theorem Awaits.notRemote {hash : Octets} {polls : Nat} {result : Except Fault Value}
    (h : client.Awaits hash polls asked result) : NotRemote result := by
  induction h with
  | exhausted => exact notRemote_error_iff.mpr rfl
  | again _ _ ih => exact ih
  | mined _ => exact notRemote_ok _
  | refused _ => exact notRemote_error_iff.mpr rfl

/-- Waiting for a receipt and judging it finds the remote side at fault only if there is a receipt
that denies. -/
theorem Awaits.judge_remote {label : String} {hash : Octets} {polls : Nat}
    {result : Except Fault Value} {fault : Fault} (h : client.Awaits hash polls asked result)
    (hremote : fault.isRemote = true) (hfault : result >>= judge label hash = .error fault) :
    ∃ receipt, result = .ok receipt ∧ Denies receipt ∧ fault = .reverted label hash := by
  cases result with
  | error other =>
    cases hfault
    rw [h.notRemote fault rfl] at hremote
    cases hremote
  | ok receipt =>
    obtain ⟨hdenies, hreverted⟩ := Client.judge_remote hremote hfault
    exact ⟨receipt, rfl, hdenies, hreverted⟩

/-- Questions for one receipt are all that is sent by their method. -/
theorem sent_receipts {hash : Octets}
    (h : ∀ entry ∈ asked, entry.1 = .request client.connection (.receipt hash)) :
    asked.sent client.connection "eth_getTransactionReceipt" =
      asked.map fun entry => (.receipt hash, entry.2) := by
  induction asked with
  | nil => rfl
  | cons entry rest ih =>
    obtain ⟨query, answer⟩ := entry
    obtain rfl : query = _ := h _ List.mem_cons_self
    rw [Transcript.sent_cons, if_pos ⟨rfl, rfl⟩, ih fun entry he => h entry (by simp [he]),
      List.map_cons]

/-! ## What is obtained -/

/-- A receipt is obtained for a hash: one transaction is submitted, the answer gives the hash, and
the last receipt that is asked for is the one of this hash. -/
def Obtains (client : Client) (asked : Transcript) (hash : Octets) (receipt : Value) : Prop :=
  ∃ request v, asked.submissions = [(request, .result v)] ∧ Read.octets v = .ok hash ∧
    (asked.sent client.connection "eth_getTransactionReceipt").getLast? =
      some (.receipt hash, .result receipt)

/-- How a call that changes a contract ends, told by what it has asked. -/
structure Settles (client : Client) (asked : Transcript) (result : Except Fault String) :
    Prop where
  once : asked.submissions.length ≤ 1
  mined : ∀ text, result = .ok text → ∃ hash receipt, text = Hex.encodeMarked hash ∧
    Hex.IsSmallMarked text ∧ client.Obtains asked hash receipt ∧ Succeeds receipt
  reverted : ∀ text,
    (∃ fault, result = .error fault ∧ fault.isRemote = true ∧ fault.transaction? = some text) ↔
    ∃ hash receipt, text = Hex.encodeMarked hash ∧ client.Obtains asked hash receipt ∧
      Denies receipt
  noAccount : ∀ fault, result = .error fault → fault.isRemote = true → fault.transaction? = none →
    client.wallet = none ∧ asked.submissions = [] ∧ ∃ v,
      asked.sent client.connection "eth_accounts" = [(.accounts, .result v)] ∧
      Read.accounts v = .ok []

/-- A session that ends in a fault which is not the remote side's, and obtains nothing. -/
theorem settles_of_notRemote {fault : Fault} (honce : asked.submissions.length ≤ 1)
    (hlocal : fault.isRemote = false) (hnone : ∀ hash receipt, client.Obtains asked hash receipt →
      ¬ Denies receipt) : client.Settles asked (.error fault) where
  once := honce
  mined := by rintro _ ⟨⟩
  reverted text := by
    constructor
    · rintro ⟨_, ⟨⟩, hremote, -⟩
      rw [hlocal] at hremote
      cases hremote
    · rintro ⟨hash, receipt, -, hobtains, hdenies⟩
      exact absurd hdenies (hnone hash receipt hobtains)
  noAccount := by
    rintro _ ⟨⟩ hremote -
    rw [hlocal] at hremote
    cases hremote

theorem NoAccount.settled {fault : Fault} (h : client.NoAccount asked fault) :
    client.Settles asked (.error fault) := by
  obtain ⟨rfl, hwallet, v, rfl, haccounts⟩ := h
  have hnone :
      Transcript.submissions [(.request client.connection .accounts, .result v)] = [] := rfl
  exact {
    once := by simp [hnone]
    mined := by rintro _ ⟨⟩
    reverted := fun text => by
      constructor
      · rintro ⟨_, ⟨⟩, -, ⟨⟩⟩
      · rintro ⟨_, _, -, ⟨_, _, hone, -⟩, -⟩
        rw [hnone] at hone
        cases hone
    noAccount := by
      rintro _ ⟨⟩ - -
      exact ⟨hwallet, hnone, v, by simp [Transcript.sent_cons, Node.Request.method], haccounts⟩ }

/-! ## Transactions -/

section Transacts

variable {label : String} {call : Abi.Call} {amount : Option Value} {before receipts : Transcript}
  {request : Node.Request} {hash : Octets}

/-- Of preparations, a submission and questions for one receipt, the submission is the only one. -/
theorem submissions_of_split (answer : Node.Answer)
    (hbefore : ∀ entry ∈ before, client.Prepares entry.1)
    (hrequest : isSubmission request = true)
    (hreceipts : ∀ entry ∈ receipts, entry.1 = .request client.connection (.receipt hash)) :
    Transcript.submissions (before ++ (.request client.connection request, answer) :: receipts) =
      [(request, answer)] := by
  rw [submissions_append, submissions_of_prepares hbefore, submissions_cons,
    if_pos (method_mem_submissionMethods.mpr hrequest), submissions_of_receipts hreceipts]
  rfl

/-- The questions for the receipt are the only ones for any. -/
theorem sent_receipts_of_split (answer : Node.Answer)
    (hbefore : ∀ entry ∈ before, client.Prepares entry.1)
    (hrequest : isSubmission request = true)
    (hreceipts : ∀ entry ∈ receipts, entry.1 = .request client.connection (.receipt hash)) :
    Transcript.sent client.connection "eth_getTransactionReceipt"
        (before ++ (.request client.connection request, answer) :: receipts) =
      receipts.map fun entry => (.receipt hash, entry.2) := by
  have hnone : Transcript.sent client.connection "eth_getTransactionReceipt" before = [] := by
    refine Transcript.sent_eq_nil fun entry he other hquery => ?_
    obtain ⟨_, hquery', hprepares⟩ := hbefore entry he
    cases hquery.symm.trans hquery'
    cases other <;> simp_all [isPreparation, Node.Request.method]
  have hother : request.method ≠ "eth_getTransactionReceipt" := by
    cases request <;> simp_all [isSubmission, Node.Request.method]
  rw [Transcript.sent_append, hnone, Transcript.sent_cons, if_neg fun h => hother h.2,
    sent_receipts hreceipts, List.nil_append]

/-- Behind a submission a receipt that is not nothing is obtained exactly if waiting for it gives
it. -/
theorem obtains_iff {polls : Nat} {answer : Node.Answer} {awaited : Except Fault Value}
    {receipt : Value} (other : Octets) (hbefore : ∀ entry ∈ before, client.Prepares entry.1)
    (hrequest : isSubmission request = true)
    (hhash : hashOf request answer = .ok hash) (hawaits : client.Awaits hash polls receipts awaited)
    (hreceipt : Read.isNothing receipt = false) :
    client.Obtains (before ++ (.request client.connection request, answer) :: receipts) other
        receipt ↔ other = hash ∧ awaited = .ok receipt := by
  have hone := submissions_of_split answer hbefore hrequest hawaits.query_eq
  have hsent := sent_receipts_of_split answer hbefore hrequest hawaits.query_eq
  obtain ⟨v, hv, hoctets⟩ := bind_eq_ok_iff.mp hhash
  obtain rfl := resultOf_eq_ok.mp hv
  unfold Obtains
  rw [hone, hsent, List.getLast?_map]
  constructor
  · rintro ⟨_, _, hsame, hother, hlast⟩
    cases hsame
    obtain rfl : hash = other := Except.ok.inj (hoctets.symm.trans hother)
    refine ⟨rfl, hawaits.eq_ok hreceipt ?_⟩
    cases hanswer : receipts.getLast? with
    | none => simp [hanswer] at hlast
    | some entry => simpa [hanswer] using hlast
  · rintro ⟨rfl, hok⟩
    refine ⟨request, v, rfl, hoctets, ?_⟩
    rw [hawaits.getLast?_eq hok]
    rfl

theorem Transacts.settled {result : Except Fault Octets}
    (h : client.Transacts label call amount chain asked result chain') :
    client.Settles asked (result.map Hex.encodeMarked) := by
  cases h with
  | @unprepared before fault chain' hprep =>
    have hnone := submissions_of_prepares (asks_prepare _ _ hprep)
    by_cases hremote : fault.isRemote = true
    · exact (runs_prepare_remote hremote hprep).settled
    · refine settles_of_notRemote (by simp [hnone]) (by simpa using hremote) ?_
      rintro hash receipt ⟨_, _, hone, -⟩ -
      rw [hnone] at hone
      cases hone
  | @unanswered before request answer fault chain' hprep hfault =>
    have hone : Transcript.submissions (before ++ [(.request client.connection request, answer)]) =
        [(request, answer)] := by
      rw [submissions_append, submissions_of_prepares (asks_prepare _ _ hprep), submissions_cons,
        if_pos (method_mem_submissionMethods.mpr (isSubmission_of_prepare hprep))]
      rfl
    refine settles_of_notRemote (by simp [hone]) (notRemote_hashOf _ _ fault hfault) ?_
    rintro hash receipt ⟨_, v, hsame, hhash, -⟩ -
    rw [hone] at hsame
    cases hsame
    cases hfault.symm.trans hhash
  | @submitted before request answer hash receipts awaited chain' hprep hhash hawaits =>
    have hbefore := asks_prepare _ _ hprep
    have hrequest := isSubmission_of_prepare hprep
    have hobtains := fun (other : Octets) {receipt : Value}
        (hreceipt : Read.isNothing receipt = false) =>
      obtains_iff other hbefore hrequest hhash hawaits hreceipt
    constructor
    case once => simp [submissions_of_split _ hbefore hrequest hawaits.query_eq]
    case mined =>
      intro text hok
      obtain ⟨_, hmapped, rfl⟩ := map_eq_ok_iff.mp hok
      obtain ⟨⟨⟩, hjudged, rfl⟩ := map_eq_ok_iff.mp hmapped
      obtain ⟨receipt, hreceipt, hok⟩ := bind_eq_ok_iff.mp hjudged
      have hsucceeds := succeeds_of_judge hok
      exact ⟨hash, receipt, rfl, Hex.isSmallMarked_encodeMarked hash,
        (hobtains hash hsucceeds.isNothing_eq).mpr ⟨rfl, hreceipt⟩, hsucceeds⟩
    case reverted =>
      intro text
      constructor
      · rintro ⟨fault, herror, hremote, htext⟩
        rw [map_eq_error_iff, map_eq_error_iff] at herror
        obtain ⟨receipt, hreceipt, hdenies, rfl⟩ := hawaits.judge_remote hremote herror
        exact ⟨hash, receipt, (Option.some.inj htext).symm,
          (hobtains hash hdenies.isNothing_eq).mpr ⟨rfl, hreceipt⟩, hdenies⟩
      · rintro ⟨other, receipt, rfl, hother, hdenies⟩
        obtain ⟨rfl, rfl⟩ := (hobtains other hdenies.isNothing_eq).mp hother
        rw [ok_bind, judge_of_denies hdenies]
        exact ⟨_, rfl, rfl, rfl⟩
    case noAccount =>
      intro fault herror hremote hnone
      rw [map_eq_error_iff, map_eq_error_iff] at herror
      obtain ⟨_, -, -, rfl⟩ := hawaits.judge_remote hremote herror
      cases hnone

end Transacts

/-! ## Actions -/

/-- A call that changes a contract, with its arguments. -/
inductive Action where
  | depositNative (salt amount : Value)
  | depositErc20 (token salt amount : Value)
  | processDeposits (lastProcessed hashes : Value)

/-- What a client does; the hash of the transaction is the result as a text. -/
def Action.session (client : Client) : Action → Session String
  | .depositNative salt amount => Hex.encodeMarked <$> client.depositNative salt amount
  | .depositErc20 token salt amount => Hex.encodeMarked <$> client.depositErc20 token salt amount
  | .processDeposits lastProcessed hashes =>
    Hex.encodeMarked <$> client.processDeposits lastProcessed hashes

/-- The ways in which an action can go: it ends before anything is asked, by no fault of the remote
side, or some call is submitted. -/
def Acts (client : Client) (session : Session Octets) : Prop :=
  ∀ ⦃chain asked result chain'⦄, Runs session chain asked result chain' →
    (∃ fault, result = .error fault ∧ fault.isRemote = false ∧ asked = [] ∧ chain' = chain) ∨
    ∃ label call amount, client.Transacts label call amount chain asked result chain'

theorem acts_transact (label : String) (call : Abi.Call) (amount : Option Value) :
    client.Acts (client.transact label call amount) :=
  fun _ _ _ _ h => .inr ⟨label, call, amount, transacts_of_runs h⟩

theorem acts_take_bind {α : Type} {r : Except Fault α} {f : α → Session Octets} (hr : NotRemote r)
    (hf : ∀ a, client.Acts (f a)) : client.Acts (Session.take r >>= f) := by
  intro chain asked result chain' h
  rcases Session.runs_take_bind_iff.mp h with ⟨fault, hfault, rfl, rfl, rfl⟩ | ⟨a, -, hrest⟩
  · exact .inl ⟨fault, rfl, hr fault hfault, rfl, rfl⟩
  · exact hf a hrest

theorem notRemote_addressArgument (v : Value) : NotRemote (addressArgument v) :=
  (notRemote_mapError fun _ => rfl).map _

theorem acts_depositNative (salt amount : Value) :
    client.Acts (client.depositNative salt amount) :=
  acts_take_bind (notRemote_mapError fun _ => rfl) fun _ => acts_transact _ _ _

theorem acts_depositErc20 (token salt amount : Value) :
    client.Acts (client.depositErc20 token salt amount) :=
  acts_take_bind (notRemote_mapError fun _ => rfl) fun _ =>
    acts_take_bind (notRemote_addressArgument token) fun _ =>
      acts_take_bind (notRemote_mapError fun _ => rfl) fun _ => acts_transact _ _ _

theorem acts_processDeposits (lastProcessed hashes : Value) :
    client.Acts (client.processDeposits lastProcessed hashes) :=
  acts_take_bind (notRemote_mapError fun _ => rfl) fun _ => acts_transact _ _ _

/-- Every action ends before anything is asked, or a call is submitted. -/
theorem Action.runs {action : Action} {result : Except Fault String}
    (h : Runs (action.session client) chain asked result chain') :
    (∃ fault, result = .error fault ∧ fault.isRemote = false ∧ asked = [] ∧ chain' = chain) ∨
    ∃ label call amount hash, result = hash.map Hex.encodeMarked ∧
      client.Transacts label call amount chain asked hash chain' := by
  obtain ⟨session, hacts, hsession⟩ : ∃ session, client.Acts session ∧
      action.session client = Hex.encodeMarked <$> session := by
    cases action with
    | depositNative salt amount => exact ⟨_, acts_depositNative salt amount, rfl⟩
    | depositErc20 token salt amount => exact ⟨_, acts_depositErc20 token salt amount, rfl⟩
    | processDeposits last hashes => exact ⟨_, acts_processDeposits last hashes, rfl⟩
  rw [hsession] at h
  obtain ⟨hash, rfl, hrun⟩ := Session.runs_map_iff.mp h
  rcases hacts hrun with ⟨fault, rfl, hlocal⟩ | ⟨label, call, amount, htransacts⟩
  · exact .inl ⟨fault, rfl, hlocal⟩
  · exact .inr ⟨label, call, amount, hash, rfl, htransacts⟩

/-- Whatever the nodes answer, an action submits at most one transaction, and its result or fault
says what has become of it. -/
theorem action_settles (client : Client) (action : Action)
    (nodes : Program.Behaviour Node.Query Node.Answer)
    (history : List (Node.Query × Node.Answer)) (chain : Option Int) :
    let run := Program.runFrom nodes history ((action.session client).start chain)
    client.Settles (Program.askedOf run.1) run.2.1 := by
  intro run
  have hrun : Runs (action.session client) chain (Program.askedOf run.1) run.2.1 run.2.2 :=
    Program.runs_runFrom history _
  rcases Action.runs hrun with ⟨fault, hresult, hlocal, hasked, -⟩ | ⟨_, _, _, hash, hresult, h⟩
  · rw [hresult, hasked]
    exact settles_of_notRemote (by simp [Transcript.submissions]) hlocal fun _ _ ⟨_, _, hone, _⟩ =>
      nomatch hone
  · rw [hresult]
    exact h.settled

end Client

end DepositBridge
