import DepositBridge.Bridge.Basic
import DepositBridge.Proofs.Contracts

/-!
# Runs of a deposit's journey

The calls that a deposit makes and what comes of them (`Deposits`), and what the two clients ask
when they carry them out.
-/

namespace DepositBridge.Bridge

open Program (Runs)

/-! ## Calls -/

/-- The calls of a journey with their replies, in order. -/
abbrev Calls := List (Call × Reply)

namespace Journey

variable {α : Type} {calls : Calls}

@[simp] theorem runs_pure_iff {a : α} {result : Except Failure α} :
    Runs (pure a : Journey α).run calls result ↔ calls = [] ∧ result = .ok a :=
  Program.runs_done_iff

@[simp] theorem runs_note_iff {level : Level} {source : Source} {text : String}
    {result : Except Failure Unit} :
    Runs (note level source text).run calls result ↔ calls = [] ∧ result = .ok () := by
  show Runs (.note _ (.done (.ok ()))) calls result ↔ _
  simp

@[simp] theorem runs_take_iff {r result : Except Failure α} :
    Runs (take r).run calls result ↔ calls = [] ∧ result = r := by
  cases r <;> exact Program.runs_done_iff

theorem runs_call_iff {c : Call} {result : Except Failure Value} :
    Runs (call c).run calls result ↔
      ∃ reply, calls = [(c, reply)] ∧ result = reply.mapError .client := by
  have hrun : (call c).run = .ask c fun reply => .done (reply.mapError .client) := by
    show Program.ask c _ = Program.ask c _
    congr 1
    funext reply
    cases reply <;> rfl
  rw [hrun]
  simp only [Program.runs_ask_iff, Program.runs_done_iff]
  constructor
  · rintro ⟨reply, _, rfl, rfl, rfl⟩
    exact ⟨reply, rfl, rfl⟩
  · rintro ⟨reply, rfl, rfl⟩
    exact ⟨reply, [], rfl, rfl, rfl⟩

variable {β : Type} {result : Except Failure β}

/-- A call ends the journey or the journey goes on with what it gives. -/
theorem runs_call_bind_iff {c : Call} {f : Value → Journey β} :
    Runs (call c >>= f).run calls result ↔
      (∃ fault, calls = [(c, .error fault)] ∧ result = .error (.client fault)) ∨
      ∃ v rest, calls = (c, .ok v) :: rest ∧ Runs (f v).run rest result := by
  rw [Program.runs_attempt_bind_iff]
  constructor
  · rintro (⟨failure, rfl, hfails⟩ | ⟨_, v, rest, rfl, hcall, hrest⟩)
    · obtain ⟨_ | _, rfl, ⟨⟩⟩ := runs_call_iff.mp hfails
      exact .inl ⟨_, rfl, rfl⟩
    · obtain ⟨_ | _, rfl, ⟨⟩⟩ := runs_call_iff.mp hcall
      exact .inr ⟨v, rest, rfl, hrest⟩
  · rintro (⟨fault, rfl, rfl⟩ | ⟨v, rest, rfl, hrest⟩)
    · exact .inl ⟨_, rfl, runs_call_iff.mpr ⟨_, rfl, rfl⟩⟩
    · exact .inr ⟨[_], v, rest, rfl, runs_call_iff.mpr ⟨_, rfl, rfl⟩, hrest⟩

/-- A note changes nothing. -/
theorem runs_note_bind_iff {level : Level} {source : Source} {text : String}
    {f : Unit → Journey β} :
    Runs (note level source text >>= f).run calls result ↔ Runs (f ()).run calls result := by
  simp only [Program.runs_attempt_bind_iff, runs_note_iff, reduceCtorEq, and_false, exists_false,
    false_or]
  constructor
  · rintro ⟨_, _, rest, rfl, ⟨rfl, -⟩, h⟩
    exact h
  · exact fun h => ⟨[], (), calls, rfl, ⟨rfl, trivial⟩, h⟩

/-- A failure ends the journey, and a result goes on. -/
theorem runs_take_bind_iff {r : Except Failure α} {f : α → Journey β} :
    Runs (take r >>= f).run calls result ↔
      (∃ failure, r = .error failure ∧ calls = [] ∧ result = .error failure) ∨
      ∃ a, r = .ok a ∧ Runs (f a).run calls result := by
  rw [Program.runs_attempt_bind_iff]
  cases r with
  | ok a => simp
  | error failure => simp [and_comm]

end Journey

/-! ## The calls of a deposit -/

variable {relays : Bool} {request : Request} {calls : Calls}

/-- What comes of a deposit whose calls have all succeeded. -/
def outcomeOf (transaction index : Value) (deposit : Deposit) (relayed : Value) :
    Except Failure Outcome :=
  (Outcome.ofFields (some transaction) (some index) (some (.text (Hex.encodeMarked deposit.hash)))
    (some relayed)).mapError .rejected

/-- The call that relays a deposit. -/
def relayCall (deposit : Deposit) : Call := .processDeposits 0 [deposit.hash]

/-- The ways in which the journey of a deposit can go: the calls with their replies, and what comes
of it. -/
inductive Deposits (relays : Bool) (request : Request) : Calls → Except Failure Outcome → Prop where
  | depositFails {fault : Client.Fault} :
      Deposits relays request [(depositCall request, .error fault)] (.error (.client fault))
  | indexFails {transaction : Value} {fault : Client.Fault} :
      Deposits relays request
        [(depositCall request, .ok transaction), (indexCall request, .error fault)]
        (.error (.client fault))
  | rejected {transaction index : Value} {failure : Failure} :
      depositOf request index = .error failure →
      Deposits relays request
        [(depositCall request, .ok transaction), (indexCall request, .ok index)] (.error failure)
  | kept {transaction index : Value} {deposit : Deposit} :
      relays = false → depositOf request index = .ok deposit →
      Deposits relays request
        [(depositCall request, .ok transaction), (indexCall request, .ok index)]
        (outcomeOf transaction index deposit .null)
  | relayFails {transaction index : Value} {deposit : Deposit} {fault : Client.Fault} :
      relays = true → depositOf request index = .ok deposit →
      Deposits relays request
        [(depositCall request, .ok transaction), (indexCall request, .ok index),
          (relayCall deposit, .error fault)]
        (.error (.client fault))
  | relayed {transaction index relayed : Value} {deposit : Deposit} :
      relays = true → depositOf request index = .ok deposit →
      Deposits relays request
        [(depositCall request, .ok transaction), (indexCall request, .ok index),
          (relayCall deposit, .ok relayed)]
        (outcomeOf transaction index deposit relayed)

/-- A relay of one deposit is one call. -/
theorem runs_relay_bind_iff {β : Type} {deposit : Deposit} {f : Value → Journey β}
    {result : Except Failure β} :
    Runs (relay 0 [deposit] >>= f).run calls result ↔
      Runs (Journey.call (relayCall deposit) >>= f).run calls result := by
  have hrelay : relay 0 [deposit] = Journey.note .info .relayer
      s!"Relaying {1} deposit(s) after deposit id {(0 : Int)}" >>= fun _ =>
        Journey.call (relayCall deposit) := rfl
  rw [hrelay, bind_assoc, Journey.runs_note_bind_iff]

theorem runs_noteIndex_bind_iff {β : Type} {index : Value} {f : Unit → Journey β}
    {result : Except Failure β} :
    Runs (noteIndex index >>= f).run calls result ↔ Runs (f ()).run calls result := by
  unfold noteIndex
  split
  · exact Journey.runs_note_bind_iff
  · exact Iff.rfl

theorem deposits_of_runs {result : Except Failure Outcome}
    (h : Runs (deposit relays request).run calls result) :
    Deposits relays request calls result := by
  -- the steps are taken apart in their order, each one either ends the journey or leads to the next
  rw [deposit, Journey.runs_note_bind_iff, Journey.runs_call_bind_iff] at h
  obtain ⟨fault, rfl, rfl⟩ | ⟨transaction, rest, rfl, h⟩ := h
  · exact .depositFails
  rw [Journey.runs_call_bind_iff] at h
  obtain ⟨fault, rfl, rfl⟩ | ⟨index, rest, rfl, h⟩ := h
  · exact .indexFails
  rw [runs_noteIndex_bind_iff, Journey.runs_take_bind_iff] at h
  obtain ⟨failure, hfails, rfl, rfl⟩ | ⟨deposit, hdeposit, h⟩ := h
  · exact .rejected hfails
  cases relays with
  | false =>
    simp only [Bool.false_eq_true, if_false, Journey.runs_note_bind_iff, pure_bind] at h
    obtain ⟨rfl, rfl⟩ := Journey.runs_take_iff.mp h
    exact .kept rfl hdeposit
  | true =>
    simp only [if_true] at h
    rw [runs_relay_bind_iff, Journey.runs_call_bind_iff] at h
    obtain ⟨fault, rfl, rfl⟩ | ⟨relayed, rest, rfl, h⟩ := h
    · exact .relayFails rfl hdeposit
    · obtain ⟨rfl, rfl⟩ := Journey.runs_take_iff.mp h
      exact .relayed rfl hdeposit

end DepositBridge.Bridge
