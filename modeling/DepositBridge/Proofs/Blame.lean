import DepositBridge.Proofs.Contracts

/-!
# Faults and the answers that they are made of

A client without a wallet adds nothing of its own to a call that fits the interface: if the call
fails, the node has answered with an error, or with something that cannot be used, or has told no
receipt however often it was asked (`Transacts.blames`).
-/

namespace DepositBridge.Client

open Node (Transcript)
open Session (Runs runs_bind_iff)

/-! ## Causes of faults -/

namespace Session

variable {α β : Type} {cause : Transcript → Fault → Prop}

/-- Every fault of a session has a cause in what was asked and answered. -/
def FailsBy (session : Session α) (cause : Transcript → Fault → Prop) : Prop :=
  ∀ ⦃chain asked fault chain'⦄, Runs session chain asked (.error fault) chain' → cause asked fault

theorem failsBy_pure (a : α) : FailsBy (pure a) cause := by
  intro chain asked fault chain' hrun
  cases (runs_pure_iff.mp hrun).2.1

theorem failsBy_take {r : Except Fault α} (h : ∃ a, r = .ok a) : (take r).FailsBy cause := by
  obtain ⟨a, rfl⟩ := h
  exact failsBy_pure a

/-- Causes that count whatever was asked before them go through a session step by step. -/
theorem FailsBy.bind {session : Session α} {f : α → Session β}
    (hlast : ∀ before asked fault, cause asked fault → cause (before ++ asked) fault)
    (h : session.FailsBy cause) (hf : ∀ a, (f a).FailsBy cause) :
    (session >>= f).FailsBy cause := by
  intro chain asked fault chain' hrun
  rcases runs_bind_iff.mp hrun with ⟨_, ⟨⟩, hfails⟩ | ⟨first, a, middle, rest, rfl, -, hrest⟩
  · exact h hfails
  · exact hlast first rest fault (hf a hrest)

end Session

variable {client : Client} {chain chain' : Option Int} {asked : Transcript} {label : String}

/-! ## What a client demands -/

/-- The room for gas in the latest block. -/
def gasLimitOf (block : Value) : Except Fault Int :=
  blockOf block >>= fun members => Read.field members "gasLimit" >>= Read.quantity

/-- What has to be read from the result of a request, when a call is submitted for the node to
sign. -/
def demand (client : Client) (label : String) : Node.Request → Value → Except Fault Unit
  | .accounts, v => (Read.accounts v >>= firstAccount client.url).map fun _ => ()
  | .chainId, v => (Read.quantity v).map fun _ => ()
  | .estimateGas _, v => (Read.quantity v).map fun _ => ()
  | .latestBlock, v => (gasLimitOf v).map fun _ => ()
  | .send _, v => (Read.octets v).map fun _ => ()
  | .receipt hash, v => judge label hash v
  | _, _ => .ok ()

/-- The answers of a client's node tell a fault. -/
inductive Blames (client : Client) (label : String) : Transcript → Fault → Prop where
  /-- The last answer is an error, or what is demanded cannot be read from its result. -/
  | answer {before : Transcript} {request : Node.Request} {answer : Node.Answer} {fault : Fault} :
      (resultOf request answer >>= client.demand label request) = .error fault →
      Blames client label (before ++ [(.request client.connection request, answer)]) fault
  /-- The latest block has no room for the gas that the node has estimated. -/
  | gas {before : Transcript} {fields : Node.CallFields} {estimated block : Value}
      {estimate limit : Int} :
      Read.quantity estimated = .ok estimate → gasLimitOf block = .ok limit → limit < estimate →
      Blames client label (before ++ [(.request client.connection (.estimateGas fields),
        .result estimated), (.request client.connection .latestBlock, .result block)])
        (.gasLimit estimate limit)
  /-- The node has answered the submission by a hash, and tells no receipt of it as often as the
  client asks. -/
  | unmined {before receipts : Transcript} {fields : Node.CallFields} {answer : Node.Answer}
      {hash : Octets} :
      hashOf (.send fields) answer = .ok hash →
      (∀ entry ∈ receipts, entry.1 = .request client.connection (.receipt hash) ∧
        isUnmined entry.2 = true) → receipts.length = client.patience.polls →
      Blames client label
        (before ++ (.request client.connection (.send fields), answer) :: receipts)
        (.notMined hash client.patience.seconds)

theorem Blames.append {fault : Fault} (before : Transcript) (h : client.Blames label asked fault) :
    client.Blames label (before ++ asked) fault := by
  cases h with
  | answer hdemand =>
    rw [← List.append_assoc]
    exact .answer hdemand
  | gas hestimate hlimit hroom =>
    rw [← List.append_assoc]
    exact .gas hestimate hlimit hroom
  | unmined hhash hreceipts hpolls =>
    rw [← List.append_assoc]
    exact .unmined hhash hreceipts hpolls

/-- What a session that reads one result cannot read is demanded. -/
theorem Reads.blames {α : Type} {request : Node.Request} {read : Value → Except Fault α}
    {session : Session α} (h : client.Reads request read session)
    (hdemand : ∀ v fault, read v = .error fault → client.demand label request v = .error fault) :
    session.FailsBy (client.Blames label) := by
  intro chain asked fault chain' hrun
  obtain ⟨answer, rfl, hresult, -⟩ := h.mp hrun
  refine @Blames.answer client label [] request answer fault ?_
  cases answer with
  | error object =>
    cases hresult
    rfl
  | result v => exact hdemand v fault hresult.symm

theorem failsBy_bind {α β : Type} {session : Session α} {f : α → Session β}
    (h : session.FailsBy (client.Blames label)) (hf : ∀ a, (f a).FailsBy (client.Blames label)) :
    (session >>= f).FailsBy (client.Blames label) :=
  h.bind (fun before _ _ => Blames.append before) hf

/-! ## Filling up -/

theorem blames_quantity {request : Node.Request}
    (h : ∀ v, client.demand label request v = (Read.quantity v).map fun _ => ()) :
    (client.sendForQuantity request).FailsBy (client.Blames label) :=
  (reads_sendForQuantity request).blames fun v fault hv => by rw [h, hv]; rfl

theorem blames_checkChain : (client.checkChain none).FailsBy (client.Blames label) := by
  refine (reads_checkChain none).blames fun v fault hv => ?_
  cases hread : Read.quantity v with
  | ok n =>
    rw [hread] at hv
    cases hv
  | error other =>
    rw [hread] at hv
    cases hv
    simp only [demand, hread, Except.map]

theorem blames_latestBlock : client.latestBlock.FailsBy (client.Blames label) := by
  refine reads_latestBlock.blames fun v fault hv => ?_
  simp only [demand, gasLimitOf, hv]
  rfl

/-- The gas for a call is not found only because of the answers, or because they do not go
together. -/
theorem blames_gasFor (fields : Node.CallFields) :
    (client.gasFor fields).FailsBy (client.Blames label) := by
  refine failsBy_bind blames_checkChain fun _ => ?_
  intro chain asked fault chain' hrun
  rcases runs_bind_iff.mp hrun with ⟨_, ⟨⟩, hfails⟩ | ⟨_, estimate, _, _, rfl, hestimate, h₁⟩
  · exact blames_quantity (fun _ => rfl) hfails
  obtain ⟨estimated, rfl, hestimated, rfl⟩ := (reads_sendForQuantity _).ok hestimate
  rcases runs_bind_iff.mp h₁ with ⟨_, ⟨⟩, hfails⟩ | ⟨_, limit, _, _, rfl, hlimit, h₂⟩
  · refine Blames.append _ ((reads_latestQuantity "gasLimit").blames ?_ hfails)
    intro v fault hv
    simp only [demand, gasLimitOf, hv]
    rfl
  obtain ⟨block, rfl, hblock, rfl⟩ := (reads_latestQuantity "gasLimit").ok hlimit
  by_cases hroom : estimate > limit
  · -- both numbers of this fault are in the last two answers
    simp only [hroom, if_true, runs_bind_iff, Session.runs_throw_iff] at h₂
    obtain ⟨_, ⟨⟩, rfl, ⟨⟩, -⟩ | ⟨_, _, _, _, -, ⟨-, ⟨⟩, -⟩, -⟩ := h₂
    exact @Blames.gas client label [] fields estimated block estimate limit hestimated hblock hroom
  · simp [hroom] at h₂

theorem blames_prepareUnsigned (hwallet : client.wallet = none) (call : Abi.Call) :
    (client.prepareUnsigned call none).FailsBy (client.Blames label) := by
  have hsender : client.sender.FailsBy (client.Blames label) := by
    refine (reads_sender hwallet).blames fun v fault hv => ?_
    simp only [demand, hv]
    rfl
  refine failsBy_bind hsender fun account => ?_
  refine failsBy_bind (Session.failsBy_take ⟨(), rfl⟩) fun _ => ?_
  refine failsBy_bind blames_latestBlock fun _ => ?_
  refine failsBy_bind blames_checkChain fun _ => ?_
  exact failsBy_bind (blames_gasFor _) fun gas => Session.failsBy_pure _

/-! ## Submitting -/

/-- Waiting for a receipt fails when all answers leave it open, or with the first error. -/
theorem Awaits.error {hash : Octets} {polls : Nat} {result : Except Fault Value} {fault : Fault}
    (h : client.Awaits hash polls asked result) (hresult : result = .error fault) :
    (fault = .notMined hash client.patience.seconds ∧ asked.length = polls ∧
      ∀ entry ∈ asked, entry.1 = .request client.connection (.receipt hash) ∧
        isUnmined entry.2 = true) ∨
    ∃ before object, asked = before ++ [(.request client.connection (.receipt hash), .error object)]
      ∧ fault = .node (Node.faultOf false object) := by
  induction h with
  | exhausted =>
    cases hresult
    exact .inl ⟨rfl, rfl, by simp⟩
  | again hunmined _ ih =>
    rcases ih hresult with ⟨hfault, hlength, hall⟩ | ⟨before, object, rfl, hfault⟩
    · refine .inl ⟨hfault, by simp [hlength], ?_⟩
      exact List.forall_mem_cons.mpr ⟨⟨rfl, hunmined⟩, hall⟩
    · exact .inr ⟨_ :: before, object, rfl, hfault⟩
  | mined _ => cases hresult
  | refused _ =>
    cases hresult
    exact .inr ⟨[], _, rfl, rfl⟩

/-- What cannot be read from the last answer is told by it, whatever comes in front. -/
theorem blames_last {before receipts : Transcript} {request last : Node.Request}
    {answer answer' : Node.Answer} {fault : Fault}
    (h : (resultOf last answer' >>= client.demand label last) = .error fault) :
    client.Blames label (before ++ (.request client.connection request, answer) ::
      (receipts ++ [(.request client.connection last, answer')])) fault := by
  have hsplit : before ++ (.request client.connection request, answer) ::
      (receipts ++ [(.request client.connection last, answer')]) =
        (before ++ (.request client.connection request, answer) :: receipts) ++
          [(.request client.connection last, answer')] := by simp
  rw [hsplit]
  exact .answer h

/-- A call that is submitted for the node to sign fails only because of the node's answers. -/
theorem Transacts.blames {call : Abi.Call} {result : Except Fault Octets} {fault : Fault}
    (hwallet : client.wallet = none)
    (h : client.Transacts label call none chain asked result chain')
    (hresult : result = .error fault) : client.Blames label asked fault := by
  have hleaves := leavesSigning_of_none hwallet
  cases h with
  | unprepared hprep =>
    cases hresult
    rw [prepare_of_leavesSigning hleaves] at hprep
    obtain ⟨r, hr, hrun⟩ := Session.runs_map_iff.mp hprep
    cases r with
    | ok fields => cases hr
    | error other =>
      cases hr
      exact blames_prepareUnsigned hwallet call hrun
  | @unanswered _ _ answer _ _ hprep hhash =>
    cases hresult
    obtain ⟨fields, rfl, -⟩ := runs_prepare_unsigned hleaves hprep
    refine .answer ?_
    cases answer with
    | error object =>
      cases hhash
      rfl
    | result v =>
      have hread : Read.octets v = .error fault := hhash
      show client.demand label (.send fields) v = .error fault
      simp only [demand, hread, Except.map]
  | @submitted _ _ _ hash _ awaited _ hprep hhash hawaits =>
    obtain ⟨fields, rfl, -⟩ := runs_prepare_unsigned hleaves hprep
    have hjudged := map_eq_error_iff.mp hresult
    cases awaited with
    | error other =>
      cases hjudged
      rcases hawaits.error rfl with ⟨rfl, hlength, hall⟩ | ⟨receipts, object, rfl, rfl⟩
      · exact .unmined hhash hall hlength
      · exact blames_last rfl
    | ok receipt =>
      obtain ⟨receipts, rfl⟩ := List.getLast?_eq_some_iff.mp (hawaits.getLast?_eq rfl)
      exact blames_last hjudged

/-- A call of a function that fits the interface fails only because of the node's answers. -/
theorem blames_processDeposits {lastProcessed hashes : Value} {call : Abi.Call} {fault : Fault}
    (hwallet : client.wallet = none)
    (hfits : Abi.findCall client.entries "processDeposits" [lastProcessed, hashes] = .ok call)
    (h : Runs (client.processDeposits lastProcessed hashes) chain asked (.error fault) chain') :
    client.Blames "processDeposits" asked fault := by
  rcases Session.runs_take_bind_iff.mp h with ⟨_, hnone, -⟩ | ⟨found, hfound, hrest⟩
  · rw [hfits] at hnone
    cases hnone
  · exact (transacts_of_runs hrest).blames hwallet rfl

end DepositBridge.Client
