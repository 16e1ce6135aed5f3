import DepositBridge.Proofs.Bridge
import DepositBridge.Proofs.DepositHash
import DepositBridge.Proofs.Settlement
import DepositBridge.Proofs.SignedCalls
import DepositBridge.Proofs.Stranding

/-!
# Batches

A batch of deposits reaches the rollup unchanged, whoever signs the transaction: the data of the one
call that is submitted read back as the hashes of the deposits, in their order and as often as they
are there (`relay_delivers`). Without deposits nothing is asked.
-/

namespace DepositBridge

/-! ## Deposits -/

namespace Deposit

/-- A deposit that some fields make. -/
def IsAccepted (deposit : Deposit) : Prop :=
  ∃ salt tokenIndex amount, ofFields salt tokenIndex amount = .ok deposit

/-- The commitment, four octets of the token index and thirty-two of the amount. -/
def octets (deposit : Deposit) : Octets :=
  deposit.salt ++ Octets.ofNatWidth 4 deposit.tokenIndex ++ Octets.ofNatWidth 32 deposit.amount

variable {deposit : Deposit}

theorem IsAccepted.fits (h : deposit.IsAccepted) :
    deposit.salt.length = 32 ∧ deposit.tokenIndex < 2 ^ 32 ∧ deposit.amount < 2 ^ 256 := by
  obtain ⟨salt, tokenIndex, amount, h⟩ := h
  simp only [ofFields, Checked.toExcept_eq_ok_iff, Checked.field_eq_valid_iff] at h
  obtain ⟨_, _, ⟨_, _, ⟨_, _, ⟨⟩, hsalt, rfl⟩, hindex, rfl⟩, hamount, rfl⟩ := h
  obtain ⟨_, -, hsalt⟩ := Field.exists_of_required hsalt
  obtain ⟨_, -, hindex⟩ := Field.exists_of_required hindex
  obtain ⟨_, -, hamount⟩ := Field.exists_of_required hamount
  exact ⟨(Field.hash_eq_ok_iff_writes.mp hsalt).1, Int.ofNat_lt.mp (Field.int_of_intBelow hindex).2,
    Int.ofNat_lt.mp (Field.int_of_intBelow hamount).2⟩

theorem IsAccepted.length_octets (h : deposit.IsAccepted) : deposit.octets.length = 68 := by
  simp [octets, h.fits.1]

theorem IsAccepted.hash_eq (h : deposit.IsAccepted) :
    deposit.hash = Keccak.hash deposit.octets := by
  rw [hash, DepositHash.hash, DepositHash.packed_eq h.fits.2.1 h.fits.2.2, octets]

end Deposit

/-! ## Submissions -/

/-- The data of the call that a request submits, whoever signs it. -/
def Node.Request.callData? : Node.Request → Option Octets
  | .sendRaw raw => (Wire.ofOctets? raw).map (·.data)
  | .send fields => some fields.data
  | _ => none

namespace Client

open Node (Transcript)
open Session (Runs)

variable {client : Client} {chain chain' : Option Int} {asked : Transcript}

theorem mem_submissions {request : Node.Request} {answer : Node.Answer} :
    (request, answer) ∈ asked.submissions ↔
      ∃ connection, (.request connection request, answer) ∈ asked ∧
        isSubmission request = true := by
  simp only [Transcript.submissions, List.mem_filterMap]
  constructor
  · rintro ⟨⟨query, answer'⟩, hmem, hsome⟩
    cases query with
    | request connection request' =>
      simp only [Option.ite_none_right_eq_some, Option.some.injEq, Prod.mk.injEq] at hsome
      obtain ⟨hmethod, rfl, rfl⟩ := hsome
      exact ⟨connection, hmem, method_mem_submissionMethods.mp hmethod⟩
    | _ => simp at hsome
  · rintro ⟨connection, hmem, hrequest⟩
    exact ⟨_, hmem, by simp [method_mem_submissionMethods.mpr hrequest]⟩

/-- Whether the client signs or leaves it to the node, what it submits are the data of the call. -/
theorem Transacts.callData?_eq {label : String} {call : Abi.Call} {amount : Option Value}
    {result : Except Fault Octets} {connection : Nat} {request : Node.Request}
    {answer : Node.Answer} (h : client.Transacts label call amount chain asked result chain')
    (hmem : (.request connection request, answer) ∈ asked)
    (hrequest : isSubmission request = true) : request.callData? = some call.octets := by
  obtain ⟨before, _, -, hprep, -⟩ := h.prepared hmem hrequest
  rcases client.signs_or_leavesSigning with ⟨wallet, hwallet, hsigns⟩ | hleaves
  · obtain ⟨raw, rfl, hrun⟩ := runs_prepare_signed hwallet hsigns hprep
    obtain ⟨_, _, _, _, _, _, _, -, -, -, -, hraw⟩ := runs_prepareSigned_ok hrun
    obtain ⟨wire, hwire, -, -, -, -, -, hdata⟩ := wire_of_signDraft hraw
    rw [Node.Request.callData?, hwire, Option.map_some, hdata]
  · obtain ⟨fields, rfl, hrun⟩ := runs_prepare_unsigned hleaves hprep
    obtain ⟨_, ⟨⟩, -⟩ | ⟨_, _, _, _, -, -, -, hfields⟩ := runs_prepareUnsigned hrun
    obtain ⟨_, rfl⟩ := hfields fields rfl
    rfl

/-- What a client of the rollup submits when it tells about hashes reads back as these hashes. -/
theorem processDeposits_delivers {last : Int} {hashes : List Octets}
    {result : Except Fault Octets} (hentries : client.entries = Abi.rollupEntries)
    (h : Runs (client.processDeposits (.int last) (.list (hashes.map .bytes))) chain asked result
      chain') {request : Node.Request} {answer : Node.Answer}
    (hmem : (request, answer) ∈ asked.submissions) :
    ∃ data, request.callData? = some data ∧
      data.take 4 = Abi.selectorOf "processDeposits(uint256,bytes32[])" ∧
      Abi.decodeAll? [.uint 256, .array (.fixedBytes 32)] (data.drop 4) =
        some [.number last, .list (hashes.map .octets)] := by
  obtain ⟨connection, hmem, hrequest⟩ := mem_submissions.mp hmem
  rcases runs_processDeposits h with ⟨_, -, rfl, -⟩ | ⟨call, hcall, htransacts⟩
  · cases hmem
  rw [hentries, Abi.findCall_processDeposits] at hcall
  obtain ⟨data, hvalues, hencodable, rfl⟩ := hcall
  obtain ⟨-, -, rfl⟩ := Abi.allOf?_processDeposits.mp hvalues
  obtain ⟨hselector, hdata⟩ := Abi.callData_reads_back rfl hvalues hencodable
  exact ⟨_, htransacts.callData?_eq hmem hrequest, hselector, hdata⟩

/-- Telling about hashes submits at most one transaction, and one where it succeeds. -/
theorem processDeposits_once {lastProcessed hashes : Value} {result : Except Fault Octets}
    (h : Runs (client.processDeposits lastProcessed hashes) chain asked result chain') :
    asked.submissions.length ≤ 1 ∧ ∀ hash, result = .ok hash → asked.submissions.length = 1 := by
  rcases runs_processDeposits h with ⟨fault, rfl, rfl, -⟩ | ⟨call, -, htransacts⟩
  · exact ⟨Nat.zero_le 1, nofun⟩
  · have hsettled := htransacts.settled
    refine ⟨hsettled.once, ?_⟩
    rintro hash rfl
    obtain ⟨_, _, -, -, ⟨_, _, hone, -⟩, -⟩ := hsettled.mined _ rfl
    rw [hone, List.length_singleton]

end Client

/-! ## Relaying -/

namespace Bridge

open Node (Transcript)

variable {bridge : Bridge} {last : Int} {deposits : List Deposit}

/-- A batch is one call, and no deposits are none. -/
theorem runs_relay {calls : Calls} {result : Except Failure Value}
    (h : Program.Runs (relay last deposits).run calls result) :
    (deposits = [] ∧ calls = [] ∧ result = .error .nothingToRelay) ∨
    ∃ reply, deposits ≠ [] ∧ calls = [(.processDeposits last (depositHashes deposits), reply)] ∧
      result = reply.mapError .client := by
  cases deposits with
  | nil =>
    obtain ⟨rfl, rfl⟩ := Program.runs_done_iff.mp
      (show Program.Runs (.done (.error .nothingToRelay)) calls result from h)
    exact .inl ⟨rfl, rfl, rfl⟩
  | cons deposit rest =>
    have hrelay : relay last (deposit :: rest) = Journey.note .info .relayer
        s!"Relaying {(depositHashes (deposit :: rest)).length} deposit(s) after deposit id {last}"
          >>= fun _ => Journey.call (.processDeposits last (depositHashes (deposit :: rest))) := rfl
    rw [hrelay, Journey.runs_note_bind_iff, Journey.runs_call_iff] at h
    obtain ⟨reply, rfl, rfl⟩ := h
    exact .inr ⟨reply, by simp, rfl, rfl⟩

/-- A bridge that relays a batch asks what its client of the rollup asks when it tells about the
hashes. -/
theorem runs_carryOut_relay {asked : Transcript} {result : Except Failure Value}
    (h : Program.Runs (bridge.carryOut (relay last deposits)).run asked result) :
    (deposits = [] ∧ asked = [] ∧ result = .error .nothingToRelay) ∨
    ∃ hash chain', deposits ≠ [] ∧ result = (hash.map hashReply).mapError .client ∧
      Client.Session.Runs (bridge.rollup.processDeposits (.int last)
        (.list ((depositHashes deposits).map .bytes))) bridge.rollupChain asked hash chain' := by
  obtain ⟨calls, after, hcalls, hcarries⟩ := runs_carryOut_iff.mp h
  rcases runs_relay hcalls with ⟨hnone, rfl, rfl⟩ | ⟨reply, hsome, rfl, rfl⟩
  · obtain ⟨rfl, -⟩ := Program.carries_nil_iff.mp hcarries
    exact .inl ⟨hnone, rfl, rfl⟩
  · obtain ⟨hash, rfl, hrun⟩ := runs_of_carries_processDeposits hcarries
    exact .inr ⟨hash, _, hsome, rfl, hrun⟩

/-- What relaying a batch asks and comes to. -/
structure Delivers (last : Int) (deposits : List Deposit) (asked : Transcript)
    (result : Except Failure Value) : Prop where
  /-- Without deposits there is nothing to relay, and nothing is asked. -/
  nothing : deposits = [] → asked = [] ∧ result = .error .nothingToRelay
  /-- At most one transaction is submitted. -/
  once : asked.submissions.length ≤ 1
  /-- The packed fields of each deposit are sixty-eight octets. -/
  packed : ∀ deposit ∈ deposits, deposit.octets.length = 68
  /-- The data that are submitted are those of the batch: the number, and the hash of the packed
  fields of each deposit in its place. -/
  unchanged : ∀ request answer, (request, answer) ∈ asked.submissions →
    deposits ≠ [] ∧ ∃ data, request.callData? = some data ∧
      data.take 4 = Abi.selectorOf "processDeposits(uint256,bytes32[])" ∧
      Abi.decodeAll? [.uint 256, .array (.fixedBytes 32)] (data.drop 4) =
        some [.number last, .list (deposits.map fun deposit =>
          .octets (Keccak.hash deposit.octets))]
  /-- Where a batch is relayed, it has been submitted. -/
  submitted : ∀ v, result = .ok v → asked.submissions.length = 1

/-- Whatever the nodes answer, a bridge with the built-in interface of the rollup relays a batch
unchanged, with or without a wallet. -/
theorem relay_delivers (hentries : bridge.rollup.entries = Abi.rollupEntries)
    (haccepted : ∀ deposit ∈ deposits, deposit.IsAccepted) (last : Int)
    (nodes : Program.Behaviour Node.Query Node.Answer) (history : Transcript) :
    let run := Program.runFrom nodes history (bridge.carryOut (relay last deposits)).run
    Delivers last deposits (Program.askedOf run.1) run.2 := by
  intro run
  have hrun : Program.Runs (bridge.carryOut (relay last deposits)).run (Program.askedOf run.1)
      run.2 := Program.runs_runFrom history _
  generalize Program.askedOf run.1 = asked, run.2 = result at hrun
  have hhashes : (depositHashes deposits).map Abi.Datum.octets =
      deposits.map fun deposit => .octets (Keccak.hash deposit.octets) := by
    rw [depositHashes, List.map_map]
    exact List.map_congr_left fun deposit hmem =>
      congrArg Abi.Datum.octets (haccepted deposit hmem).hash_eq
  have hpacked : ∀ deposit ∈ deposits, deposit.octets.length = 68 := fun deposit hmem =>
    (haccepted deposit hmem).length_octets
  rcases runs_carryOut_relay hrun with ⟨rfl, rfl, rfl⟩ | ⟨hash, chain', hsome, rfl, hprocess⟩
  · exact ⟨fun _ => ⟨rfl, rfl⟩, Nat.zero_le 1, hpacked, by simp [Transcript.submissions], nofun⟩
  · obtain ⟨honce, hone⟩ := Client.processDeposits_once hprocess
    exact {
      nothing := fun hnone => absurd hnone hsome
      once := honce
      packed := hpacked
      unchanged := by
        intro request answer hmem
        have hdelivers := Client.processDeposits_delivers hentries hprocess hmem
        rw [hhashes] at hdelivers
        exact ⟨hsome, hdelivers⟩
      submitted := by
        intro v hv
        obtain ⟨octets, hoctets, -⟩ := map_eq_ok_iff.mp (mapError_eq_ok_iff.mp hv)
        exact hone octets hoctets }

/-- A deposit of one token. -/
def sampleDeposit (tokenIndex : Nat) : Deposit := ⟨List.replicate 32 7, tokenIndex, 1000⟩

/-- Three deposits, the first of them once more at the end. -/
def sampleBatch : List Deposit := [sampleDeposit 1, sampleDeposit 2, sampleDeposit 1]

theorem isAccepted_sampleBatch : ∀ deposit ∈ sampleBatch, deposit.IsAccepted := by
  have hsample : ∀ tokenIndex : Nat, (tokenIndex : Int) < Nat.pow 2 32 →
      (sampleDeposit tokenIndex).IsAccepted := by
    intro tokenIndex hindex
    exact ⟨some (.bytes (List.replicate 32 7)), some (.int tokenIndex), some (.int 1000),
      Deposit.ofFields_eq_ok_iff.mpr ⟨rfl, ⟨Int.natCast_nonneg _, hindex⟩, by decide, rfl⟩⟩
  simp only [sampleBatch, List.mem_cons, List.not_mem_nil, or_false]
  rintro deposit (rfl | rfl | rfl) <;> exact hsample _ (by decide)

/-- A bridge between two development chains. -/
def sampleBridge : Bridge := ofWallet (.ofRequest sampleRequest ⟨none, none, 0, none⟩) sampleWallet

/-- What the development chains are asked when the batch is relayed. -/
def sampleRelay : Transcript :=
  Program.askedOf (Program.runFrom (Node.Script.behaviour []) []
    (sampleBridge.carryOut (relay 41 sampleBatch)).run).1

theorem sampleRelay_submits : sampleRelay.submissions.isEmpty = false := by
  decide +kernel

/-- The development chain behind the rollup is sent the hashes of the three deposits. -/
theorem relay_delivers_sample :
    ∃ request answer data, (request, answer) ∈ sampleRelay.submissions ∧
      request.callData? = some data ∧
      data.take 4 = Abi.selectorOf "processDeposits(uint256,bytes32[])" ∧
      Abi.decodeAll? [.uint 256, .array (.fixedBytes 32)] (data.drop 4) =
        some [.number 41, .list (sampleBatch.map fun deposit =>
          .octets (Keccak.hash deposit.octets))] := by
  obtain ⟨⟨request, answer⟩, hmem⟩ :=
    List.exists_mem_of_ne_nil _ (List.isEmpty_eq_false_iff.mp sampleRelay_submits)
  have hentries : sampleBridge.rollup.entries = Abi.rollupEntries := rfl
  have hdelivers := relay_delivers hentries isAccepted_sampleBatch 41 (Node.Script.behaviour []) []
  obtain ⟨-, data, hdata, hselector, harguments⟩ := hdelivers.unchanged request answer hmem
  exact ⟨request, answer, data, hmem, hdata, hselector, harguments⟩

end Bridge

end DepositBridge
