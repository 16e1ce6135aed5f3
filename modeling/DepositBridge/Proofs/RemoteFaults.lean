import DepositBridge.Proofs.Submission

/-!
# Faults of the remote side

What a node answers may be unreadable, and a transaction may be impossible to fill up or to sign.
None of this is a fault of the remote side. While a transaction is filled up there is only one of
those: a client without a wallet learns that its node keeps no account (`runs_prepare_remote`).
-/

namespace DepositBridge.Client

open Node (Transcript)
open Session (Runs Fails runs_bind_iff)

variable {client : Client} {chain chain' : Option Int} {asked : Transcript}

/-! ## Results -/

section Results

variable {ε α β : Type}

/-- A result is no fault of the remote side. -/
def NotRemote (r : Except Fault α) : Prop := ∀ fault, r = .error fault → fault.isRemote = false

@[simp] theorem notRemote_ok (a : α) : NotRemote (.ok a) := fun _ h => nomatch h

@[simp] theorem notRemote_error_iff {fault : Fault} :
    NotRemote (.error fault : Except Fault α) ↔ fault.isRemote = false := by
  simp [NotRemote]

theorem NotRemote.bind {r : Except Fault α} {f : α → Except Fault β} (h : NotRemote r)
    (hf : ∀ a, NotRemote (f a)) : NotRemote (r >>= f) := by
  cases r with
  | error fault => exact notRemote_error_iff.mpr (notRemote_error_iff.mp h)
  | ok a => exact hf a

theorem NotRemote.map {r : Except Fault α} (f : α → β) (h : NotRemote r) : NotRemote (r.map f) := by
  cases r with
  | error fault => exact notRemote_error_iff.mpr (notRemote_error_iff.mp h)
  | ok a => exact notRemote_ok _

theorem notRemote_mapError {r : Except ε α} {f : ε → Fault} (h : ∀ e, (f e).isRemote = false) :
    NotRemote (r.mapError f) := by
  cases r with
  | error e => exact notRemote_error_iff.mpr (h e)
  | ok a => exact notRemote_ok a

theorem notRemote_mapM {f : α → Except Fault β} (h : ∀ x, NotRemote (f x)) (xs : List α) :
    NotRemote (xs.mapM f) := by
  induction xs with
  | nil => exact notRemote_ok _
  | cons x xs ih =>
    rw [List.mapM_cons]
    exact (h x).bind fun _ => ih.bind fun _ => notRemote_ok _

end Results

/-! ## Reading answers -/

theorem notRemote_quantity (v : Value) : NotRemote (Read.quantity v) := by
  cases v with
  | text s => exact notRemote_mapError fun _ => rfl
  | _ => simp [Read.quantity, Fault.isRemote]

theorem notRemote_octets (v : Value) : NotRemote (Read.octets v) := by
  cases v with
  | text s =>
    simp only [Read.octets]
    split <;> simp [Fault.isRemote]
  | _ => simp [Read.octets, Fault.isRemote]

theorem notRemote_account (v : Value) : NotRemote (Read.account v) := by
  cases v with
  | text s =>
    simp only [Read.account]
    split <;> simp [Fault.isRemote]
  | _ => simp [Read.account, Fault.isRemote]

theorem notRemote_accounts (v : Value) : NotRemote (Read.accounts v) := by
  cases v with
  | list values => exact notRemote_mapM notRemote_account values
  | _ => simp [Read.accounts, Fault.isRemote]

theorem notRemote_record (v : Value) : NotRemote (Read.record v) := by
  cases v <;> simp [Read.record, Fault.isRemote]

theorem notRemote_field (members : List (String × Value)) (name : String) :
    NotRemote (Read.field members name) := by
  unfold Read.field
  split <;> simp [Fault.isRemote]

theorem notRemote_numberIfText (v : Value) : NotRemote (Read.numberIfText v) := by
  cases v with
  | text s => exact (notRemote_mapError fun _ => rfl).map _
  | _ => exact notRemote_ok _

theorem notRemote_withNumbers (names : List String) (members : List (String × Value)) :
    NotRemote (Read.withNumbers names members) := by
  refine notRemote_mapM (fun (name, v) => ?_) members
  by_cases h : names.contains name
  · simp only [h, if_true]
    exact (notRemote_numberIfText v).bind fun _ => notRemote_ok _
  · simp only [h, Bool.false_eq_true, if_false]
    exact notRemote_ok _

theorem notRemote_blockOf (v : Value) : NotRemote (blockOf v) := by
  unfold blockOf
  split
  · simp [Fault.isRemote]
  · exact (notRemote_record v).bind fun _ => notRemote_withNumbers _ _

theorem notRemote_compareChain (declared : Option Int) (actual : Int) :
    NotRemote (compareChain declared actual) := by
  unfold compareChain
  split
  · split <;> simp [Fault.isRemote]
  · exact notRemote_ok _

theorem notRemote_resultOf (request : Node.Request) (answer : Node.Answer) :
    NotRemote (resultOf request answer) := by
  cases answer <;> simp [resultOf, Fault.isRemote]

theorem notRemote_hashOf (request : Node.Request) (answer : Node.Answer) :
    NotRemote (hashOf request answer) :=
  (notRemote_resultOf request answer).bind notRemote_octets

/-- Sending a request and reading its result does not fail by the remote side's fault. -/
theorem Reads.fails_notRemote {α : Type} {request : Node.Request}
    {read : Value → Except Fault α} {session : Session α} (h : client.Reads request read session)
    (hread : ∀ v, NotRemote (read v)) : session.Fails fun fault => fault.isRemote = false :=
  h.fails fun answer => (notRemote_resultOf request answer).bind hread

theorem fails_sendForQuantity (request : Node.Request) :
    (client.sendForQuantity request).Fails fun fault => fault.isRemote = false :=
  (reads_sendForQuantity request).fails_notRemote notRemote_quantity

theorem fails_checkChain (declared : Option Int) :
    (client.checkChain declared).Fails fun fault => fault.isRemote = false :=
  (reads_checkChain declared).fails_notRemote fun v =>
    (notRemote_quantity v).bind (notRemote_compareChain declared)

theorem fails_latestQuantity (name : String) :
    (client.latestQuantity name).Fails fun fault => fault.isRemote = false :=
  (reads_latestQuantity name).fails_notRemote fun v =>
    (notRemote_blockOf v).bind fun _ => (notRemote_field _ _).bind notRemote_quantity

theorem fails_chainId : client.chainId.Fails fun fault => fault.isRemote = false := by
  refine Session.fails_get.bind fun remembered => ?_
  cases remembered with
  | some n => exact Session.fails_pure n
  | none =>
    exact (fails_sendForQuantity _).bind fun n =>
      (Session.fails_set _).bind fun _ => Session.fails_pure n

/-! ## Filling up a transaction -/

theorem notRemote_checkAmount (f : Abi.Function) (amount : Option Value) :
    NotRemote (checkAmount f amount) := by
  cases amount with
  | none => exact notRemote_ok _
  | some v =>
    refine (notRemote_numberIfText v).bind fun number => ?_
    split
    · exact notRemote_error_iff.mpr rfl
    · exact notRemote_ok _

theorem notRemote_signDraft (wallet : Wallet) (draft : Transaction.Draft) :
    NotRemote (signDraft wallet draft) := by
  unfold signDraft
  split
  · exact notRemote_mapError fun _ => rfl
  · exact notRemote_error_iff.mpr rfl

theorem fails_prepareSigned (wallet : Wallet) (call : Abi.Call) (amount : Option Value) :
    (client.prepareSigned wallet call amount).Fails fun fault => fault.isRemote = false := by
  refine fails_chainId.bind fun number => ?_
  refine (fails_sendForQuantity _).bind fun nonce => ?_
  refine (Session.fails_take (notRemote_checkAmount _ _)).bind fun _ => ?_
  refine (fails_checkChain _).bind fun _ => ?_
  refine (fails_sendForQuantity _).bind fun gas => ?_
  refine (fails_sendForQuantity _).bind fun tip => ?_
  refine (fails_latestQuantity _).bind fun baseFee => ?_
  refine (Session.fails_take (notRemote_mapError fun _ => rfl)).bind fun value => ?_
  exact Session.fails_take (notRemote_signDraft _ _)

theorem fails_gasFor (fields : Node.CallFields) :
    (client.gasFor fields).Fails fun fault => fault.isRemote = false := by
  refine (fails_checkChain _).bind fun _ => ?_
  refine (fails_sendForQuantity _).bind fun estimate => ?_
  refine (fails_latestQuantity _).bind fun limit => ?_
  by_cases h : estimate > limit
  · simp only [h, if_true]
    refine Fails.bind ?_ fun _ => Session.fails_pure _
    exact Session.fails_throw rfl
  · simp only [h, if_false]
    exact (Session.fails_pure _).bind fun _ => Session.fails_pure _

/-- There is no account to send from: the client has no wallet, and the node, which was asked for
its accounts and for nothing else, keeps none. -/
def NoAccount (client : Client) (asked : Transcript) (fault : Fault) : Prop :=
  fault = .noAccount client.url ∧ client.wallet = none ∧
    ∃ v, asked = [(.request client.connection .accounts, .result v)] ∧ Read.accounts v = .ok []

theorem runs_sender_remote {fault : Fault} (hremote : fault.isRemote = true)
    (h : Runs client.sender chain asked (.error fault) chain') : client.NoAccount asked fault := by
  cases hwallet : client.wallet with
  | some wallet =>
    rw [sender_of_wallet hwallet] at h
    cases (Session.runs_pure_iff.mp h).2.1
  | none =>
    obtain ⟨answer, rfl, hresult, -⟩ := (reads_sender hwallet).mp h
    cases answer with
    | error object =>
      cases hresult
      cases hremote
    | result v =>
      have hread : Read.accounts v >>= firstAccount client.url = .error fault := hresult.symm
      cases haccounts : Read.accounts v with
      | error fault' =>
        have hsame : fault' = fault := by simpa [haccounts, Bind.bind, Except.bind] using hread
        rw [← hsame, notRemote_accounts v fault' haccounts] at hremote
        cases hremote
      | ok accounts =>
        rw [haccounts, ok_bind] at hread
        cases accounts with
        | cons account others => cases hread
        | nil =>
          cases hread
          exact ⟨rfl, hwallet, v, rfl, haccounts⟩

theorem runs_prepareUnsigned_remote {call : Abi.Call} {amount : Option Value} {fault : Fault}
    (hremote : fault.isRemote = true)
    (h : Runs (client.prepareUnsigned call amount) chain asked (.error fault) chain') :
    client.NoAccount asked fault := by
  rcases runs_bind_iff.mp h with ⟨_, ⟨⟩, hfails⟩ | ⟨_, account, _, rest, -, -, hrest⟩
  · exact runs_sender_remote hremote hfails
  · -- behind the sender nothing fails by the remote side's fault
    have hlocal : fault.isRemote = false := by
      refine Fails.bind (Session.fails_take (notRemote_checkAmount _ _)) (fun _ => ?_) hrest
      refine (reads_latestBlock.fails_notRemote notRemote_blockOf).bind fun _ => ?_
      refine (fails_checkChain _).bind fun _ => ?_
      exact (fails_gasFor _).bind fun gas => Session.fails_pure _
    rw [hlocal] at hremote
    cases hremote

/-- While a transaction is filled up, the remote side is at fault only where it keeps no account to
send from. -/
theorem runs_prepare_remote {call : Abi.Call} {amount : Option Value} {fault : Fault}
    (hremote : fault.isRemote = true)
    (h : Runs (client.prepare call amount) chain asked (.error fault) chain') :
    client.NoAccount asked fault := by
  rcases client.signs_or_leavesSigning with ⟨wallet, hwallet, hsigns⟩ | hleaves
  · rw [prepare_of_canSign hwallet hsigns] at h
    obtain ⟨r, hr, hrun⟩ := Session.runs_map_iff.mp h
    rw [map_eq_error_iff.mp hr.symm] at hrun
    rw [fails_prepareSigned _ _ _ hrun] at hremote
    cases hremote
  · rw [prepare_of_leavesSigning hleaves] at h
    obtain ⟨r, hr, hrun⟩ := Session.runs_map_iff.mp h
    rw [map_eq_error_iff.mp hr.symm] at hrun
    exact runs_prepareUnsigned_remote hremote hrun

end DepositBridge.Client
