import DepositBridge.Proofs.Accounts

/-!
# Outcomes

The outcome of a deposit holds an index that went into the deposit, so it fits into its field, and
the outcome can be told in one line (`Deposits.exists_summary`). Closing the connections afterwards
changes no outcome.
-/

namespace DepositBridge

/-! ## Numbers -/

/-- The number of a field below a bound is the whole number of the field. -/
theorem Field.int_of_intBelow {bound : Int} {refusal : Int → Refusal} {v : Value} {m : Nat}
    (h : intBelow bound refusal v = .ok m) : int v = .ok (m : Int) ∧ (m : Int) < bound := by
  obtain ⟨n, hn, hrange⟩ := bind_eq_ok_iff.mp h
  split at hrange
  · rename_i hbounds
    cases hrange
    rw [Int.toNat_of_nonneg hbounds.1]
    exact ⟨hn, hbounds.2⟩
  · cases hrange

/-- A number of a hundred digits can be written. -/
theorem Numeral.write_of_lt {n : Int} (h : n.natAbs < 10 ^ 100) : write n = .ok (toString n) := by
  have hlimit : 10 ^ 100 ≤ Nat.pow 10 digitLimit := by
    have hdigits : 100 ≤ digitLimit := by decide
    generalize digitLimit = limit at hdigits ⊢
    exact Nat.pow_le_pow_right (by decide) hdigits
  rw [write, if_pos (Nat.lt_of_lt_of_le h hlimit)]

theorem Outcome.exists_summary {outcome : Outcome} {index : Nat} (h : outcome.tokenIndex = index)
    (hindex : index < Nat.pow 2 32) : ∃ summary, outcome.summary = .ok summary := by
  have hsmall : (index : Int).natAbs < 10 ^ 100 := Nat.lt_trans hindex (by decide)
  simp only [summary, h, Numeral.write_of_lt hsmall]
  exact ⟨_, rfl⟩

namespace Bridge

variable {relays : Bool} {request : Request} {outcome : Outcome} {calls : Calls}

/-! ## The index of an outcome -/

/-- The index of a deposit is the number that the lookup gives, and fits into its field. -/
theorem index_of_depositOf {index : Value} {deposit : Deposit}
    (h : depositOf request index = .ok deposit) :
    Field.int index = .ok (deposit.tokenIndex : Int) ∧ deposit.tokenIndex < Nat.pow 2 32 := by
  have h := mapError_eq_ok_iff.mp h
  simp only [Deposit.ofFields, Checked.toExcept_eq_ok_iff, Checked.field_eq_valid_iff,
    Field.required_eq_ok_iff] at h
  obtain ⟨_, amount, ⟨_, i, ⟨_, salt, ⟨⟩, -, rfl⟩, hindex, rfl⟩, -, rfl⟩ := h
  obtain ⟨hint, hbound⟩ := Field.int_of_intBelow hindex
  exact ⟨hint, Int.ofNat_lt.mp hbound⟩

theorem index_of_outcomeOf {transaction index relayed : Value} {deposit : Deposit}
    (h : outcomeOf transaction index deposit relayed = .ok outcome) :
    Field.int index = .ok outcome.tokenIndex :=
  (Outcome.fields_of_ofFields (mapError_eq_ok_iff.mp h)).2.1

/-- The outcome of a deposit can be told in one line. -/
theorem Deposits.exists_summary (h : Deposits relays request calls (.ok outcome)) :
    ∃ summary, outcome.summary = .ok summary := by
  obtain ⟨transaction, index, deposit, hdeposit, hcalls⟩ := h.ok
  obtain ⟨hindex, hbound⟩ := index_of_depositOf hdeposit
  have htold : Field.int index = .ok outcome.tokenIndex := by
    rcases hcalls with ⟨-, houtcome, -⟩ | ⟨relayed, -, houtcome, -⟩
    · exact index_of_outcomeOf houtcome
    · exact index_of_outcomeOf houtcome
  exact Outcome.exists_summary (Except.ok.inj (htold.symm.trans hindex)) hbound

/-! ## Closing -/

theorem runs_attempt_iff {α : Type} {journey : Journey α}
    {result : Except Failure (Except Failure α)} :
    Program.Runs journey.attempt.run calls result ↔
      ∃ r, result = .ok r ∧ Program.Runs journey.run calls r :=
  Program.runs_lift_iff

/-- What has an outcome after closing has had it before. -/
theorem runs_thenClose_ok {α : Type} {journey : Journey α} {a : α}
    (h : Program.Runs (thenClose journey).run calls (.ok a)) :
    ∃ before, Program.Runs journey.run before (.ok a) := by
  rcases Program.runs_attempt_bind_iff.mp h with ⟨_, ⟨⟩, -⟩ | ⟨first, r, rest, -, hfirst, hrest⟩
  rcases Program.runs_attempt_bind_iff.mp hrest with ⟨_, ⟨⟩, -⟩ | ⟨_, _, _, -, -, htake⟩
  obtain ⟨-, rfl⟩ := Journey.runs_take_iff.mp htake
  obtain ⟨_, ⟨⟩, hjourney⟩ := runs_attempt_iff.mp hfirst
  exact ⟨first, hjourney⟩

/-- The outcome of a deposit over connections of its own can be told in one line. -/
theorem exists_summary_of_runs {tree : FileTree} {endpoints : Endpoints}
    {asked : Node.Transcript}
    (h : Program.Runs (depositOnce tree relays request endpoints).run asked (.ok outcome)) :
    ∃ summary, outcome.summary = .ok summary := by
  rcases Program.runs_attempt_bind_iff.mp h with ⟨_, ⟨⟩, -⟩ | ⟨_, bridge, rest, -, -, hcarried⟩
  obtain ⟨calls, _, hcalls, -⟩ := runs_carryOut_iff.mp hcarried
  obtain ⟨before, hdeposit⟩ := runs_thenClose_ok hcalls
  exact (deposits_of_runs hdeposit).exists_summary

end Bridge

end DepositBridge
