import DepositBridge.Node.Script
import DepositBridge.Proofs.Bridge
import DepositBridge.Proofs.Fields

/-!
# Separate nodes

Two nodes are separate if the first one answers by what it has been asked itself. A program that
asks the first node only runs as if it were alone (`Program.runFrom_beside`). A deposit asks the
first node in its first two steps and the second one in the relay, so neither the relay nor the
second node makes a difference to what happens on the first chain (`Bridge.deposit_sameFirstLeg`).
-/

namespace DepositBridge

/-! ## Two behaviours side by side -/

namespace Program

variable {Query Reply α β : Type} (own : Query → Bool)

/-- The own part of what has been asked. -/
def part (asked : List (Query × Reply)) : List (Query × Reply) :=
  asked.filter fun entry => own entry.1

theorem part_append (asked more : List (Query × Reply)) :
    part own (asked ++ more) = part own asked ++ part own more :=
  List.filter_append asked more

theorem part_cons {query : Query} (h : own query = true) (reply : Reply)
    (asked : List (Query × Reply)) :
    part own ((query, reply) :: asked) = (query, reply) :: part own asked :=
  List.filter_cons_of_pos h

/-- The own queries are answered by a behaviour that is told of no others, and the others by one
that is told of all. -/
def beside (first second : Behaviour Query Reply) : Behaviour Query Reply :=
  fun history query =>
    if own query then first (part own history) query else second history query

variable {own} {p : Program Query Reply α} {first second : Behaviour Query Reply}

/-- A program that asks own queries only runs as if there were no other behaviour. -/
theorem runFrom_beside (h : p.Asks (own · = true)) (history : List (Query × Reply)) :
    runFrom (beside own first second) history p = runFrom first (part own history) p := by
  induction p generalizing history with
  | done a => rfl
  | note n next ih => simp only [runFrom, ih (fun _ _ hrun => h (.note hrun))]
  | ask query next ih =>
    -- there is a run, and the query is the first one that it asks
    have hrun := @runs_runFrom _ _ _ (beside own first second) history (ask query next)
    have hown : own query = true := by
      simp only [runFrom, askedOf_asked] at hrun
      exact h hrun _ List.mem_cons_self
    have hreply : beside own first second history query = first (part own history) query := by
      simp only [beside, hown, if_true]
    simp only [runFrom, hreply, ih _ (h.next _), part_cons own hown]

/-- What becomes of a result makes no difference to what happens before. -/
theorem runFrom_bind_done {behaviour : Behaviour Query Reply} (history : List (Query × Reply))
    (f : α → β) :
    runFrom behaviour history (p.bind fun a => .done (f a)) =
      ((runFrom behaviour history p).1, f (runFrom behaviour history p).2) := by
  rw [runFrom_bind]
  simp only [runFrom, List.append_nil]

/-- Where a program that asks own queries only goes on with one that asks none of them, the own
part of what is asked is what the first one asks alone, and the second one goes on from the result
that the first one has alone. -/
theorem runFrom_bind_beside (first second : Behaviour Query Reply)
    {f : α → Program Query Reply β} (hp : p.Asks (own · = true))
    (hf : ∀ a, (f a).Asks (own · = false)) (history : List (Query × Reply)) :
    let alone := runFrom first (part own history) p
    let whole := runFrom (beside own first second) history (p.bind f)
    part own (askedOf whole.1) = askedOf alone.1 ∧
      ∃ earlier, whole.2 = (runFrom (beside own first second) earlier (f alone.2)).2 := by
  intro alone whole
  have hwhole : whole = _ := (runFrom_bind history p f).trans (by rw [runFrom_beside hp])
  have hown : part own (askedOf alone.1) = askedOf alone.1 :=
    List.filter_eq_self.mpr (hp (runs_runFrom _ p))
  have hother : ∀ earlier, part own
      (askedOf (runFrom (beside own first second) earlier (f alone.2)).1) = [] := by
    intro earlier
    refine List.filter_eq_nil_iff.mpr fun entry hentry => ?_
    rw [hf _ (runs_runFrom _ _) entry hentry]
    exact Bool.false_ne_true
  rw [hwhole]
  refine ⟨?_, _, rfl⟩
  rw [askedOf_append, part_append, hother, List.append_nil]
  exact hown

end Program

/-! ## Connections -/

namespace Node.Query

/-- The connection that a query is about. -/
def connection : Query → Nat
  | connect connection _ => connection
  | request connection _ => connection
  | disconnect connection => connection

/-- Whether a query is about a connection. -/
def isAbout (connection : Nat) (query : Query) : Bool := query.connection = connection

end Node.Query

namespace Bridge

open Program (Asks Behaviour askedOf beside part runFrom)

/-- The client of a contract. -/
def client (bridge : Bridge) : Contract → Client
  | .liquidity => bridge.liquidity
  | .rollup => bridge.rollup

variable {bridge : Bridge} {α β : Type}

theorem connection_of_submits {client : Client} {asked : Node.Transcript}
    {result : Except Client.Fault Octets} (h : client.Submits asked result) :
    ∀ entry ∈ asked, entry.1.connection = client.connection := by
  intro entry hentry
  obtain ⟨request, hquery, -⟩ := h.queries entry hentry
  rw [hquery, Node.Query.connection]

theorem connection_of_close {client : Client} {asked : Node.Transcript} {chain chain' : Option Int}
    {result : Except Client.Fault Unit} (h : client.close.Runs chain asked result chain') :
    ∀ entry ∈ asked, entry.1.connection = client.connection := by
  have hrun : Program.Runs (.ask (.disconnect client.connection) fun _ => .done (.ok (), chain))
    asked (result, chain') := h
  obtain ⟨answer, rest, rfl, hrest⟩ := Program.runs_ask_iff.mp hrun
  obtain ⟨rfl, -⟩ := Program.runs_done_iff.mp hrest
  simp [Node.Query.connection]

/-- A call is carried out over the connection of its contract's client. -/
theorem asks_answer (call : Call) (memory : Memory) : (bridge.answer call memory).Asks
    (·.connection = (bridge.client call.method.contract).connection) := by
  rintro asked ⟨reply, after⟩ hrun
  cases call with
  | depositNative salt amount =>
    obtain ⟨r, -, hstep, -⟩ := runs_liquidityStep_iff.mp hrun
    exact connection_of_submits (Client.runs_depositNative hstep).submits
  | depositErc20 token salt amount =>
    obtain ⟨r, -, hstep, -⟩ := runs_liquidityStep_iff.mp hrun
    rcases Client.runs_depositErc20 hstep with ⟨fault, -, rfl, -⟩ | ⟨address, -, hcalls⟩
    · simp
    · exact connection_of_submits hcalls.submits
  | tokenIndex type token id =>
    obtain ⟨r, -, hstep, -⟩ := runs_liquidityStep_iff.mp hrun
    intro entry hentry
    obtain ⟨request, hquery, -⟩ := (Client.runs_tokenIndex hstep).2.1 entry hentry
    rw [hquery, Node.Query.connection]
    rfl
  | processDeposits lastProcessed hashes =>
    obtain ⟨r, -, hstep, -⟩ := runs_rollupStep_iff.mp hrun
    exact connection_of_submits (Client.runs_processDeposits hstep).submits
  | closeLiquidity =>
    obtain ⟨r, -, hstep, -⟩ := runs_liquidityStep_iff.mp hrun
    exact connection_of_close hstep
  | closeRollup =>
    obtain ⟨r, -, hstep, -⟩ := runs_rollupStep_iff.mp hrun
    exact connection_of_close hstep

/-! ## Journeys that stay on a chain -/

namespace Journey

/-- A journey that calls one contract only. -/
def Stays (journey : Journey α) (contract : Contract) : Prop :=
  journey.run.Asks (·.method.contract = contract)

variable {contract : Contract}

theorem Stays.bind {journey : Journey α} {f : α → Journey β} (h : journey.Stays contract)
    (hf : ∀ a, (f a).Stays contract) : (journey >>= f).Stays contract :=
  Asks.attempt_bind h hf

theorem stays_pure (a : α) : (pure a : Journey α).Stays contract := Program.asks_done _

theorem stays_note (level : Level) (source : Source) (text : String) :
    (note level source text).Stays contract :=
  Program.asks_of_asked_nil fun _ _ h => (runs_note_iff.mp h).1

theorem stays_take (r : Except Failure α) : (take r).Stays contract :=
  Program.asks_of_asked_nil fun _ _ h => (runs_take_iff.mp h).1

theorem stays_call (c : Call) : (call c).Stays c.method.contract := by
  intro calls result hrun
  obtain ⟨reply, rfl, -⟩ := runs_call_iff.mp hrun
  simp

end Journey

open Journey (Stays)

/-- What is carried out after the first leg of a journey, which may have failed. -/
def carryOn (bridge : Bridge) (rest : α → Journey β) :
    Except Failure α × Memory → Node.Talk (Except Failure β)
  | (.ok a, memory) =>
    (Program.carryOut bridge.answer (rest a).run memory).bind fun last => .done last.1
  | (.error failure, _) => .done (.error failure)

theorem run_carryOut_bind (leg : Journey α) (rest : α → Journey β) :
    (bridge.carryOut (leg >>= rest)).run =
      (Program.carryOut bridge.answer leg.run bridge.memory).bind (bridge.carryOn rest) := by
  show Program.bind (Program.carryOut bridge.answer (leg >>= rest).run bridge.memory) _ = _
  rw [Program.run_bind, Program.carryOut_bind, Program.bind_assoc]
  congr 1
  funext ⟨result, memory⟩
  cases result with
  | ok a => rfl
  | error failure => rfl

theorem runs_carryOn_ok {rest : α → Journey β} {a : α} {memory : Memory}
    {asked : Node.Transcript} {result : Except Failure β}
    (h : Program.Runs (bridge.carryOn rest (.ok a, memory)) asked result) :
    ∃ calls, Program.Runs (rest a).run calls result := by
  obtain ⟨first, ⟨r, last⟩, _, rfl, hcarried, hdone⟩ := Program.runs_bind_iff.mp h
  obtain ⟨-, rfl⟩ := Program.runs_done_iff.mp hdone
  obtain ⟨calls, hcalls, -⟩ := Program.runs_carryOut_iff.mp hcarried
  exact ⟨calls, hcalls⟩

/-- A journey that stays on a chain is carried out over the connection of its contract's client. -/
theorem asks_carryOut {journey : Journey α} {contract : Contract} (h : journey.Stays contract)
    (memory : Memory) : (Program.carryOut bridge.answer journey.run memory).Asks
      (·.connection = (bridge.client contract).connection) := by
  refine h.carryOut (fun call s hcall => ?_) memory
  rw [← hcall]
  exact asks_answer call s

/-- A journey that stays on the first chain and then on the second one asks the first node what its
first leg alone asks it. If the leg fails, the journey fails likewise; otherwise it goes on from
what the leg gives. -/
theorem carryOut_of_stays (hseparate : bridge.liquidity.connection ≠ bridge.rollup.connection)
    {leg : Journey α} {rest : α → Journey β} (hleg : leg.Stays .liquidity)
    (hrest : ∀ a, (rest a).Stays .rollup) (first second : Behaviour Node.Query Node.Answer)
    (history : List (Node.Query × Node.Answer)) :
    let own := Node.Query.isAbout bridge.liquidity.connection
    let alone := runFrom first (part own history) (bridge.carryOut leg).run
    let whole := runFrom (beside own first second) history (bridge.carryOut (leg >>= rest)).run
    part own (askedOf whole.1) = askedOf alone.1 ∧
      (∀ failure, alone.2 = .error failure → whole.2 = .error failure) ∧
      ∀ a, alone.2 = .ok a → ∃ calls, Program.Runs (rest a).run calls whole.2 := by
  intro own alone whole
  have hfirst : (Program.carryOut bridge.answer leg.run bridge.memory).Asks (own · = true) :=
    (asks_carryOut hleg _).mono fun _ hconnection => decide_eq_true hconnection
  have hsecond : ∀ r, (bridge.carryOn rest r).Asks (own · = false) := by
    intro r
    match r with
    | (.error failure, _) => exact Program.asks_done _
    | (.ok a, memory) =>
      refine .bind ((asks_carryOut (hrest a) memory).mono fun query hconnection => ?_)
        fun _ => Program.asks_done _
      exact decide_eq_false (hconnection.trans_ne hseparate.symm)
  obtain ⟨hasked, earlier, hresult⟩ :=
    Program.runFrom_bind_beside first second hfirst hsecond history
  rw [← run_carryOut_bind] at hasked hresult
  -- alone, the first leg is what the whole begins with, but for what the clients remember
  let begun := runFrom first (part own history)
    (Program.carryOut bridge.answer leg.run bridge.memory)
  have halone : alone = (begun.1, begun.2.1) := Program.runFrom_bind_done _ Prod.fst
  rw [halone]
  refine ⟨hasked, ?_, ?_⟩
  · intro failure hfails
    have hbegun : begun.2 = (.error failure, begun.2.2) := Prod.ext hfails rfl
    rw [show whole.2 = _ from hresult, hbegun]
    rfl
  · intro a hgives
    have hbegun : begun.2 = (.ok a, begun.2.2) := Prod.ext hgives rfl
    rw [show whole.2 = _ from hresult, hbegun]
    exact runs_carryOn_ok (Program.runs_runFrom earlier _)

/-! ## The two legs of a deposit -/

/-- What the first leg of a deposit gives: the replies of its two calls, and the deposit that is
made of them. -/
structure Landing where
  transaction : Value
  index : Value
  deposit : Deposit

/-- The steps of a deposit on the first chain. -/
def firstLeg (request : Request) : Journey Landing := do
  Journey.note .debug .invoker (s!"Depositing {request.amount} of token type " ++
    s!"{request.token.toTokenType.name} for {request.saltText}")
  let transaction ← Journey.call (depositCall request)
  let index ← Journey.call (indexCall request)
  noteIndex index
  let deposit ← Journey.take (depositOf request index)
  pure ⟨transaction, index, deposit⟩

/-- The step of a deposit on the second chain, unless the relay is left out. -/
def relayLeg (relays : Bool) (deposit : Deposit) : Journey Value :=
  if relays then relay 0 [deposit]
  else do
    Journey.note .info .invoker
      s!"Relay disabled; deposit hash {Hex.encodeMarked deposit.hash} not sent to the rollup"
    pure .null

/-- What follows the first leg of a deposit. -/
def secondLeg (relays : Bool) (landing : Landing) : Journey Outcome := do
  let relayed ← relayLeg relays landing.deposit
  Journey.take (outcomeOf landing.transaction landing.index landing.deposit relayed)

variable {relays : Bool} {request : Request}

theorem deposit_eq_legs : deposit relays request = firstLeg request >>= secondLeg relays := by
  cases relays <;> simp only [deposit, firstLeg, secondLeg, relayLeg, outcomeOf, bind_assoc,
    pure_bind, Bool.false_eq_true, if_false, if_true]

theorem stays_noteIndex (index : Value) (contract : Contract) :
    (noteIndex index).Stays contract := by
  unfold noteIndex
  split
  · exact Journey.stays_note _ _ _
  · exact Journey.stays_pure _

theorem stays_firstLeg (request : Request) : (firstLeg request).Stays .liquidity := by
  have hdeposit : (depositCall request).method.contract = .liquidity := by
    unfold depositCall
    cases request.asset <;> rfl
  refine (Journey.stays_note _ _ _).bind fun _ => ?_
  refine Stays.bind (hdeposit ▸ Journey.stays_call _) fun transaction => ?_
  refine Stays.bind (Journey.stays_call (indexCall request)) fun index => ?_
  refine (stays_noteIndex index _).bind fun _ => ?_
  exact (Journey.stays_take _).bind fun deposit => Journey.stays_pure _

theorem stays_secondLeg (relays : Bool) (landing : Landing) :
    (secondLeg relays landing).Stays .rollup := by
  refine Stays.bind ?_ fun relayed => Journey.stays_take _
  cases relays with
  | false => exact (Journey.stays_note _ _ _).bind fun _ => Journey.stays_pure _
  | true =>
    exact (Journey.stays_note _ _ _).bind fun _ => Journey.stays_call (relayCall landing.deposit)

/-- The outcome of a deposit has what its first leg gives. -/
theorem outcome_of_secondLeg {landing : Landing} {calls : Calls} {outcome : Outcome}
    (h : Program.Runs (secondLeg relays landing).run calls (.ok outcome)) :
    Field.text landing.transaction = .ok outcome.depositTransaction ∧
      Field.int landing.index = .ok outcome.tokenIndex ∧
      outcome.depositHash = Hex.encodeMarked landing.deposit.hash := by
  rcases Program.runs_attempt_bind_iff.mp h with ⟨_, ⟨⟩, -⟩ | ⟨_, relayed, _, -, -, htake⟩
  obtain ⟨-, houtcome⟩ := Journey.runs_take_iff.mp htake
  obtain ⟨htransaction, hindex, hhash⟩ :=
    Outcome.fields_of_ofFields (mapError_eq_ok_iff.mp houtcome.symm)
  exact ⟨htransaction, hindex, (Except.ok.inj hhash).symm⟩

/-- The first leg of a deposit depends on the first node only. With another choice of whether to
relay, or with another second node, the first node is asked the same and answers the same; if the
first leg fails, both deposits fail likewise; and if both have an outcome, its transaction, index
and hash are the same. -/
theorem deposit_sameFirstLeg (bridge : Bridge)
    (hseparate : bridge.liquidity.connection ≠ bridge.rollup.connection) (request : Request)
    (first second second' : Behaviour Node.Query Node.Answer) (relays relays' : Bool)
    (history : List (Node.Query × Node.Answer)) :
    let own := Node.Query.isAbout bridge.liquidity.connection
    let alone := runFrom first (part own history) (bridge.carryOut (firstLeg request)).run
    let run := runFrom (beside own first second) history
      (bridge.carryOut (deposit relays request)).run
    let run' := runFrom (beside own first second') history
      (bridge.carryOut (deposit relays' request)).run
    part own (askedOf run.1) = part own (askedOf run'.1) ∧
      (∀ failure, alone.2 = .error failure → run.2 = .error failure ∧ run'.2 = .error failure) ∧
      ∀ outcome outcome', run.2 = .ok outcome → run'.2 = .ok outcome' →
        outcome.depositTransaction = outcome'.depositTransaction ∧
        outcome.tokenIndex = outcome'.tokenIndex ∧ outcome.depositHash = outcome'.depositHash := by
  intro own alone run run'
  obtain ⟨hasked, hfails, hgoes⟩ := carryOut_of_stays hseparate (stays_firstLeg request)
    (stays_secondLeg relays) first second history
  obtain ⟨hasked', hfails', hgoes'⟩ := carryOut_of_stays hseparate (stays_firstLeg request)
    (stays_secondLeg relays') first second' history
  rw [← deposit_eq_legs] at hasked hfails hgoes hasked' hfails' hgoes'
  refine ⟨hasked.trans hasked'.symm, fun failure h => ⟨hfails _ h, hfails' _ h⟩, ?_⟩
  intro outcome outcome' houtcome houtcome'
  cases hleg : alone.2 with
  | error failure => cases houtcome.symm.trans (hfails _ hleg)
  | ok landing =>
    -- both outcomes are made of what the first leg gives
    obtain ⟨calls, hcalls⟩ := hgoes _ hleg
    obtain ⟨calls', hcalls'⟩ := hgoes' _ hleg
    obtain ⟨htransaction, hindex, hhash⟩ := outcome_of_secondLeg (houtcome ▸ hcalls)
    obtain ⟨htransaction', hindex', hhash'⟩ := outcome_of_secondLeg (houtcome' ▸ hcalls')
    exact ⟨Except.ok.inj (htransaction.symm.trans htransaction'),
      Except.ok.inj (hindex.symm.trans hindex'), hhash.trans hhash'.symm⟩

/-- A development chain is asked the same for the sample request whether the second chain refuses
the relay or the deposit is not relayed. -/
theorem deposit_sameFirstLeg_sample :
    let bridge := ofWallet (.ofRequest sampleRequest ⟨some 31337, none, 0, none⟩) sampleWallet
    let own := Node.Query.isAbout 0
    let first := Node.Script.behaviour []
    let refusing : Behaviour Node.Query Node.Answer := fun _ _ => .error .null
    part own (askedOf (runFrom (beside own first refusing) []
        (bridge.carryOut (deposit true sampleRequest)).run).1) =
      part own (askedOf (runFrom (beside own first first) []
        (bridge.carryOut (deposit false sampleRequest)).run).1) :=
  (deposit_sameFirstLeg (ofWallet (.ofRequest sampleRequest ⟨some 31337, none, 0, none⟩)
    sampleWallet) Nat.zero_ne_one sampleRequest _ _ _ true false []).1

end Bridge

end DepositBridge
