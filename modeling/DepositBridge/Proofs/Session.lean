import DepositBridge.Client.Basic
import DepositBridge.Proofs.Results
import DepositBridge.Proofs.Runs

/-!
# Runs of sessions

What a client's session can ask, answer and remember. A session that fails keeps what it has
remembered, and nothing is asked after the failure (`runs_bind_iff`).
-/

namespace DepositBridge

/-! ## Transcripts -/

/-- The queries of a conversation with nodes and their answers, in order. -/
abbrev Node.Transcript := List (Node.Query × Node.Answer)

namespace Node.Transcript

/-- The requests of a method that go over a connection, with their answers. -/
def sent (connection : Nat) (method : String) (asked : Transcript) :
    List (Node.Request × Node.Answer) :=
  asked.filterMap fun
    | (.request c request, answer) =>
      if c = connection ∧ request.method = method then some (request, answer) else none
    | _ => none

variable {connection c : Nat} {method : String} {asked : Transcript}

@[simp] theorem sent_nil : sent connection method [] = [] := rfl

@[simp] theorem sent_append (first rest : Transcript) :
    sent connection method (first ++ rest) =
      sent connection method first ++ sent connection method rest :=
  List.filterMap_append

theorem sent_cons (request : Node.Request) (answer : Node.Answer) :
    sent connection method ((.request c request, answer) :: asked) =
      if c = connection ∧ request.method = method then
        (request, answer) :: sent connection method asked
      else sent connection method asked := by
  by_cases h : c = connection ∧ request.method = method
  · simp [sent, h]
  · simp [sent, h]

theorem mem_sent {request : Node.Request} {answer : Node.Answer} :
    (request, answer) ∈ sent connection method asked ↔
      (.request connection request, answer) ∈ asked ∧ request.method = method := by
  simp only [sent, List.mem_filterMap]
  constructor
  · rintro ⟨⟨query, answer'⟩, hmem, hsome⟩
    cases query with
    | request c request' =>
      simp only [Option.ite_none_right_eq_some, Option.some.injEq, Prod.mk.injEq] at hsome
      obtain ⟨⟨rfl, rfl⟩, rfl, rfl⟩ := hsome
      exact ⟨hmem, rfl⟩
    | _ => simp at hsome
  · rintro ⟨hmem, rfl⟩
    exact ⟨_, hmem, by simp⟩

/-- Nothing is sent by a method that no request has. -/
theorem sent_eq_nil (h : ∀ entry ∈ asked, ∀ request,
    entry.1 = .request connection request → request.method ≠ method) :
    sent connection method asked = [] := by
  rw [List.eq_nil_iff_forall_not_mem]
  rintro ⟨request, answer⟩ hmem
  rw [mem_sent] at hmem
  exact h _ hmem.1 request rfl hmem.2

end Node.Transcript

namespace Client

namespace Session

variable {α β : Type} {chain chain' : Option Int} {asked : Node.Transcript}

/-- A session that starts with a remembered number can have a conversation, end in a result and
remember a number then. -/
def Runs (session : Session α) (chain : Option Int) (asked : Node.Transcript)
    (result : Except Fault α) (chain' : Option Int) : Prop :=
  Program.Runs (session.start chain) asked (result, chain')

/-! ## The steps of sessions -/

@[simp] theorem runs_pure_iff {a : α} {result : Except Fault α} :
    Runs (pure a) chain asked result chain' ↔ asked = [] ∧ result = .ok a ∧ chain' = chain := by
  show Program.Runs (.done (.ok a, chain)) asked (result, chain') ↔ _
  simp

@[simp] theorem runs_throw_iff {fault : Fault} {result : Except Fault α} :
    Runs (throw fault) chain asked result chain' ↔
      asked = [] ∧ result = .error fault ∧ chain' = chain := by
  show Program.Runs (.done (.error fault, chain)) asked (result, chain') ↔ _
  simp

/-- One session after another: either the first one fails, or the second one goes on from what the
first one gives and remembers. -/
theorem runs_bind_iff {session : Session α} {f : α → Session β} {result : Except Fault β} :
    Runs (session >>= f) chain asked result chain' ↔
      (∃ fault, result = .error fault ∧ Runs session chain asked (.error fault) chain') ∨
      ∃ first a middle rest, asked = first ++ rest ∧ Runs session chain first (.ok a) middle ∧
        Runs (f a) middle rest result chain' := by
  -- what is remembered is handed on also by a session that fails
  have hstart : (session >>= f).start chain = (session.start chain).bind fun first =>
      (ExceptT.bindCont f first.1).run first.2 := rfl
  unfold Runs
  rw [hstart, Program.runs_bind_iff]
  constructor
  · rintro ⟨first, ⟨a | a, c⟩, rest, rfl, hfirst, hrest⟩
    · obtain ⟨rfl, hlast⟩ := Program.runs_done_iff.mp hrest
      obtain ⟨rfl, rfl⟩ := Prod.mk.inj hlast
      exact .inl ⟨a, rfl, by simpa using hfirst⟩
    · exact .inr ⟨first, a, c, rest, rfl, hfirst, hrest⟩
  · rintro (⟨fault, rfl, h⟩ | ⟨first, a, c, rest, rfl, hfirst, hrest⟩)
    · exact ⟨asked, _, [], by simp, h, .done _⟩
    · exact ⟨first, (.ok a, c), rest, rfl, hfirst, hrest⟩

/-- A session that goes on after another one succeeds only if both do. -/
theorem runs_bind_ok_iff {session : Session α} {f : α → Session β} {b : β} :
    Runs (session >>= f) chain asked (.ok b) chain' ↔
      ∃ first a middle rest, asked = first ++ rest ∧ Runs session chain first (.ok a) middle ∧
        Runs (f a) middle rest (.ok b) chain' := by
  simp [runs_bind_iff]

theorem runs_map_iff {session : Session α} {f : α → β} {result : Except Fault β} :
    Runs (f <$> session) chain asked result chain' ↔
      ∃ r, result = r.map f ∧ Runs session chain asked r chain' := by
  have hstart : (f <$> session).start chain = (session.start chain).bind fun first =>
      .done (first.1.map f, first.2) := by
    show Program.bind _ _ = Program.bind _ _
    congr 1
    funext ⟨r, c⟩
    cases r <;> rfl
  unfold Runs
  rw [hstart, Program.runs_bind_iff]
  constructor
  · rintro ⟨first, ⟨r, c⟩, rest, rfl, hfirst, hrest⟩
    simp only [Program.runs_done_iff, Prod.mk.injEq] at hrest
    obtain ⟨rfl, rfl, rfl⟩ := hrest
    exact ⟨r, rfl, by simpa using hfirst⟩
  · rintro ⟨r, rfl, h⟩
    exact ⟨asked, _, [], by simp, h, .done _⟩

@[simp] theorem runs_take_iff {r result : Except Fault α} :
    Runs (take r) chain asked result chain' ↔ asked = [] ∧ result = r ∧ chain' = chain := by
  cases r with
  | ok a => exact runs_pure_iff
  | error fault => exact runs_throw_iff

/-- A result goes on, and a fault ends the session. -/
theorem runs_take_bind_iff {r : Except Fault α} {f : α → Session β} {result : Except Fault β} :
    Runs (take r >>= f) chain asked result chain' ↔
      (∃ fault, r = .error fault ∧ asked = [] ∧ result = .error fault ∧ chain' = chain) ∨
      ∃ a, r = .ok a ∧ Runs (f a) chain asked result chain' := by
  rw [runs_bind_iff]
  constructor
  · rintro (⟨fault, rfl, hfails⟩ | ⟨first, a, middle, rest, rfl, hfirst, hrest⟩)
    · obtain ⟨rfl, rfl, rfl⟩ := runs_take_iff.mp hfails
      exact .inl ⟨fault, rfl, rfl, rfl, rfl⟩
    · obtain ⟨rfl, rfl, rfl⟩ := runs_take_iff.mp hfirst
      exact .inr ⟨a, rfl, hrest⟩
  · rintro (⟨fault, rfl, rfl, rfl, rfl⟩ | ⟨a, rfl, hrest⟩)
    · exact .inl ⟨fault, rfl, by simp⟩
    · exact .inr ⟨[], a, chain, asked, rfl, by simp, hrest⟩

theorem runs_take_bind_ok_iff {r : Except Fault α} {f : α → Session β} {b : β} :
    Runs (take r >>= f) chain asked (.ok b) chain' ↔
      ∃ a, r = .ok a ∧ Runs (f a) chain asked (.ok b) chain' := by
  simp [runs_take_bind_iff]

@[simp] theorem runs_get_iff {result : Except Fault (Option Int)} :
    Runs get chain asked result chain' ↔ asked = [] ∧ result = .ok chain ∧ chain' = chain := by
  show Program.Runs (.done (.ok chain, chain)) asked (result, chain') ↔ _
  simp

@[simp] theorem runs_set_iff {n : Option Int} {result : Except Fault PUnit} :
    Runs (set n) chain asked result chain' ↔ asked = [] ∧ result = .ok ⟨⟩ ∧ chain' = n := by
  show Program.Runs (.done (.ok ⟨⟩, n)) asked (result, chain') ↔ _
  simp

@[simp] theorem runs_note_iff {level : Level} {text : String} {result : Except Fault Unit} :
    Runs (note level text) chain asked result chain' ↔
      asked = [] ∧ result = .ok () ∧ chain' = chain := by
  show Program.Runs (.note _ (.done (.ok (), chain))) asked (result, chain') ↔ _
  simp

@[simp] theorem runs_note_bind_iff {level : Level} {text : String} {f : Unit → Session β}
    {result : Except Fault β} :
    Runs (note level text >>= f) chain asked result chain' ↔
      Runs (f ()) chain asked result chain' := by
  show Program.Runs (.note _ ((f ()).start chain)) asked (result, chain') ↔ _
  exact Program.runs_note_iff

/-! ## What sessions ask -/

/-- All queries of a session, whatever comes of it, are of a kind. -/
def Asks (session : Session α) (kind : Node.Query → Prop) : Prop :=
  ∀ ⦃chain asked result chain'⦄, Runs session chain asked result chain' →
    ∀ entry ∈ asked, kind entry.1

variable {kind : Node.Query → Prop}

theorem Asks.mono {session : Session α} {wider : Node.Query → Prop} (h : session.Asks kind)
    (hwider : ∀ query, kind query → wider query) : session.Asks wider :=
  fun _ _ _ _ hrun entry hentry => hwider _ (h hrun entry hentry)

theorem asks_of_asked_nil {session : Session α}
    (h : ∀ ⦃chain asked result chain'⦄, Runs session chain asked result chain' → asked = []) :
    session.Asks kind := by
  intro chain asked result chain' hrun
  simp [h hrun]

@[simp] theorem asks_pure (a : α) : Asks (pure a) kind :=
  asks_of_asked_nil fun _ _ _ _ h => (runs_pure_iff.mp h).1

@[simp] theorem asks_throw (fault : Fault) : Asks (throw fault : Session α) kind :=
  asks_of_asked_nil fun _ _ _ _ h => (runs_throw_iff.mp h).1

@[simp] theorem asks_take (r : Except Fault α) : (take r).Asks kind :=
  asks_of_asked_nil fun _ _ _ _ h => (runs_take_iff.mp h).1

@[simp] theorem asks_get : Asks get kind :=
  asks_of_asked_nil fun _ _ _ _ h => (runs_get_iff.mp h).1

@[simp] theorem asks_set (n : Option Int) : Asks (set n) kind :=
  asks_of_asked_nil fun _ _ _ _ h => (runs_set_iff.mp h).1

@[simp] theorem asks_note (level : Level) (text : String) : (note level text).Asks kind :=
  asks_of_asked_nil fun _ _ _ _ h => (runs_note_iff.mp h).1

theorem Asks.bind {session : Session α} {f : α → Session β} (h : session.Asks kind)
    (hf : ∀ a, (f a).Asks kind) : (session >>= f).Asks kind := by
  intro chain asked result chain' hrun
  rcases runs_bind_iff.mp hrun with ⟨fault, -, hfails⟩ | ⟨first, a, c, rest, rfl, hfirst, hrest⟩
  · exact h hfails
  · intro entry hentry
    rcases List.mem_append.mp hentry with hentry | hentry
    · exact h hfirst entry hentry
    · exact hf a hrest entry hentry

theorem Asks.map {session : Session α} (f : α → β) (h : session.Asks kind) :
    (f <$> session).Asks kind := by
  intro chain asked result chain' hrun
  obtain ⟨r, -, hr⟩ := runs_map_iff.mp hrun
  exact h hr

/-! ## How sessions fail -/

/-- All faults of a session, whatever it has asked before, are of a kind. -/
def Fails (session : Session α) (kind : Fault → Prop) : Prop :=
  ∀ ⦃chain asked fault chain'⦄, Runs session chain asked (.error fault) chain' → kind fault

variable {reason : Fault → Prop}

@[simp] theorem fails_pure (a : α) : Fails (pure a) reason := by
  intro chain asked fault chain' hrun
  cases (runs_pure_iff.mp hrun).2.1

@[simp] theorem fails_get : Fails get reason := by
  intro chain asked fault chain' hrun
  cases (runs_get_iff.mp hrun).2.1

@[simp] theorem fails_set (n : Option Int) : Fails (set n) reason := by
  intro chain asked fault chain' hrun
  cases (runs_set_iff.mp hrun).2.1

theorem fails_throw {fault : Fault} (h : reason fault) :
    Fails (throw fault : Session α) reason := by
  intro chain asked fault' chain' hrun
  cases (runs_throw_iff.mp hrun).2.1
  exact h

theorem fails_take {r : Except Fault α} (h : ∀ fault, r = .error fault → reason fault) :
    (take r).Fails reason :=
  fun _ _ fault _ hrun => h fault (runs_take_iff.mp hrun).2.1.symm

theorem Fails.bind {session : Session α} {f : α → Session β} (h : session.Fails reason)
    (hf : ∀ a, (f a).Fails reason) : (session >>= f).Fails reason := by
  intro chain asked fault chain' hrun
  rcases runs_bind_iff.mp hrun with ⟨_, ⟨⟩, hfails⟩ | ⟨first, a, c, rest, -, -, hrest⟩
  · exact h hfails
  · exact hf a hrest

/-! ## What sessions remember -/

/-- Whatever comes of a session, it remembers what has been remembered before. -/
def Keeps (session : Session α) : Prop :=
  ∀ ⦃chain asked result chain'⦄, Runs session chain asked result chain' → chain' = chain

@[simp] theorem keeps_pure (a : α) : Keeps (pure a) := fun _ _ _ _ h => (runs_pure_iff.mp h).2.2

@[simp] theorem keeps_throw (fault : Fault) : Keeps (throw fault : Session α) :=
  fun _ _ _ _ h => (runs_throw_iff.mp h).2.2

@[simp] theorem keeps_take (r : Except Fault α) : (take r).Keeps :=
  fun _ _ _ _ h => (runs_take_iff.mp h).2.2

@[simp] theorem keeps_note (level : Level) (text : String) : (note level text).Keeps :=
  fun _ _ _ _ h => (runs_note_iff.mp h).2.2

theorem Keeps.bind {session : Session α} {f : α → Session β} (h : session.Keeps)
    (hf : ∀ a, (f a).Keeps) : (session >>= f).Keeps := by
  intro chain asked result chain' hrun
  rcases runs_bind_iff.mp hrun with ⟨fault, -, hfails⟩ | ⟨first, a, c, rest, -, hfirst, hrest⟩
  · exact h hfails
  · exact (hf a hrest).trans (h hfirst)

end Session

open Session (Runs Asks runs_bind_iff runs_bind_ok_iff)

variable {client : Client} {chain chain' : Option Int} {asked : Node.Transcript}

/-! ## Requests -/

@[simp] theorem runs_query_iff {request : Node.Request} {result : Except Fault Node.Answer} :
    Runs (client.query request) chain asked result chain' ↔
      ∃ answer, asked = [(.request client.connection request, answer)] ∧ result = .ok answer ∧
        chain' = chain := by
  show Program.Runs (.ask _ fun answer => .done (.ok answer, chain)) asked (result, chain') ↔ _
  simp only [Program.runs_ask_iff, Program.runs_done_iff, Prod.mk.injEq]
  constructor
  · rintro ⟨answer, _, rfl, rfl, rfl, rfl⟩
    exact ⟨answer, rfl, rfl, rfl⟩
  · rintro ⟨answer, rfl, rfl, rfl⟩
    exact ⟨answer, [], rfl, rfl, rfl, rfl⟩

/-- What an answer to a request gives: its result, or what its error says. -/
def resultOf (request : Node.Request) : Node.Answer → Except Fault Value
  | .result v => .ok v
  | .error object => .error (.node (Node.faultOf request.runsContract object))

theorem resultOf_eq_ok {request : Node.Request} {answer : Node.Answer} {v : Value} :
    resultOf request answer = .ok v ↔ answer = .result v := by
  cases answer <;> simp [resultOf]

theorem runs_send_iff {request : Node.Request} {result : Except Fault Value} :
    Runs (client.send request) chain asked result chain' ↔
      ∃ answer, asked = [(.request client.connection request, answer)] ∧
        result = resultOf request answer ∧ chain' = chain := by
  unfold send
  rw [runs_bind_iff]
  constructor
  · rintro (⟨fault, rfl, h⟩ | ⟨first, answer, middle, rest, rfl, hfirst, hrest⟩)
    · simp at h
    · simp only [runs_query_iff, Except.ok.injEq] at hfirst
      obtain ⟨_, rfl, rfl, rfl⟩ := hfirst
      cases answer <;> simp at hrest <;> obtain ⟨rfl, rfl, rfl⟩ := hrest <;>
        exact ⟨_, rfl, rfl, rfl⟩
  · rintro ⟨answer, rfl, rfl, rfl⟩
    refine .inr ⟨[_], answer, chain', [], rfl, by simp, ?_⟩
    cases answer <;> simp [resultOf]

/-- A session that sends one request, reads its result and remembers nothing new. -/
def Reads {α : Type} (client : Client) (request : Node.Request) (read : Value → Except Fault α)
    (session : Session α) : Prop :=
  ∀ ⦃chain asked result chain'⦄, Runs session chain asked result chain' ↔
    ∃ answer, asked = [(.request client.connection request, answer)] ∧
      result = resultOf request answer >>= read ∧ chain' = chain

section Reads

variable {α β : Type} {request : Node.Request} {read : Value → Except Fault α} {session : Session α}

theorem Reads.asks (h : client.Reads request read session) :
    session.Asks (· = .request client.connection request) := by
  intro chain asked result chain' hrun entry hentry
  obtain ⟨answer, rfl, -, -⟩ := h.mp hrun
  rw [List.mem_singleton.mp hentry]

theorem Reads.keeps (h : client.Reads request read session) : session.Keeps := by
  intro chain asked result chain' hrun
  obtain ⟨_, -, -, rfl⟩ := h.mp hrun
  rfl

theorem Reads.ok (h : client.Reads request read session) {a : α}
    (hrun : Runs session chain asked (.ok a) chain') :
    ∃ v, asked = [(.request client.connection request, .result v)] ∧ read v = .ok a ∧
      chain' = chain := by
  obtain ⟨answer, rfl, hresult, rfl⟩ := h.mp hrun
  cases answer with
  | result v => exact ⟨v, rfl, hresult.symm, rfl⟩
  | error object => cases hresult

theorem Reads.fails {reason : Fault → Prop} (h : client.Reads request read session)
    (hread : ∀ answer fault, resultOf request answer >>= read = .error fault → reason fault) :
    session.Fails reason := by
  intro chain asked fault chain' hrun
  obtain ⟨answer, -, hresult, -⟩ := h.mp hrun
  exact hread answer fault hresult.symm

/-- Reading further what has been read. -/
theorem Reads.bind (h : client.Reads request read session) {f : α → Session β}
    {more : α → Except Fault β} (hf : ∀ a, f a = Session.take (more a)) :
    client.Reads request (fun v => read v >>= more) (session >>= f) := by
  intro chain asked result chain'
  rw [runs_bind_iff]
  constructor
  · rintro (⟨fault, rfl, hfails⟩ | ⟨first, a, middle, rest, rfl, hfirst, hrest⟩)
    · obtain ⟨answer, rfl, hresult, rfl⟩ := h.mp hfails
      refine ⟨answer, rfl, ?_, rfl⟩
      cases answer with
      | result v =>
        have hv : read v = .error fault := hresult.symm
        simp [resultOf, hv, Bind.bind, Except.bind]
      | error object =>
        cases hresult
        rfl
    · obtain ⟨v, rfl, hv, rfl⟩ := h.ok hfirst
      rw [hf] at hrest
      obtain ⟨rfl, rfl, rfl⟩ := Session.runs_take_iff.mp hrest
      exact ⟨.result v, rfl, by simp [resultOf, hv, Bind.bind, Except.bind], rfl⟩
  · rintro ⟨answer, rfl, rfl, rfl⟩
    cases answer with
    | error object => exact .inl ⟨_, rfl, h.mpr ⟨_, rfl, rfl, rfl⟩⟩
    | result v =>
      cases hv : read v with
      | error fault =>
        refine .inl ⟨fault, ?_, h.mpr ⟨_, rfl, ?_, rfl⟩⟩ <;>
          simp [resultOf, hv, Bind.bind, Except.bind]
      | ok a =>
        refine .inr ⟨[_], a, _, [], rfl, h.mpr ⟨_, rfl, ?_, rfl⟩, ?_⟩
        · simp [resultOf, hv, Bind.bind, Except.bind]
        · rw [hf]
          simp [resultOf, hv, Bind.bind, Except.bind]

end Reads

theorem reads_send (request : Node.Request) :
    client.Reads request (fun v => .ok v) (client.send request) := by
  intro chain asked result chain'
  rw [runs_send_iff]
  refine exists_congr fun answer => ?_
  cases answer <;> rfl

theorem reads_sendForQuantity (request : Node.Request) :
    client.Reads request Read.quantity (client.sendForQuantity request) :=
  (reads_send request).bind fun _ => rfl

/-- The members of a latest block. -/
def blockOf (block : Value) : Except Fault (List (String × Value)) :=
  if Read.isNothing block then .error .noBlock
  else Read.record block >>= Read.withNumbers ["baseFeePerGas", "gasLimit"]

theorem reads_latestBlock : client.Reads .latestBlock blockOf client.latestBlock :=
  (reads_send .latestBlock).bind fun block => by
    show _ = Session.take (if Read.isNothing block then _ else _)
    split <;> rfl

theorem reads_latestQuantity (name : String) :
    client.Reads .latestBlock
      (fun v => blockOf v >>= fun block => Read.field block name >>= Read.quantity)
      (client.latestQuantity name) :=
  reads_latestBlock.bind fun _ => rfl

/-! ## The chain -/

/-- What a declared number of a chain and the actual one give. -/
def compareChain (declared : Option Int) (actual : Int) : Except Fault Unit :=
  match declared with
  | some n => if n = actual then .ok () else .error (.chainMismatch n actual)
  | none => .ok ()

theorem reads_checkChain (declared : Option Int) :
    client.Reads .chainId (fun v => Read.quantity v >>= compareChain declared)
      (client.checkChain declared) :=
  (reads_sendForQuantity .chainId).bind fun actual => by
    cases declared with
    | none => rfl
    | some n =>
      by_cases h : n = actual
      · simp [compareChain, h]
        rfl
      · simp [compareChain, h]
        rfl

/-- The number of a client's chain is the remembered one; without one it is what the node answers,
and is remembered from then on. -/
theorem runs_chainId_ok {n : Int} (h : Runs client.chainId chain asked (.ok n) chain') :
    chain' = some n ∧ (chain = some n ∧ asked = [] ∨
      chain = none ∧ ∃ v, asked = [(.request client.connection .chainId, .result v)] ∧
        Read.quantity v = .ok n) := by
  obtain ⟨_, _, _, rest, rfl, hget, hrest⟩ := runs_bind_ok_iff.mp h
  simp only [Session.runs_get_iff, Except.ok.injEq] at hget
  obtain ⟨rfl, rfl, rfl⟩ := hget
  rename_i remembered
  cases remembered with
  | some m =>
    simp at hrest
    obtain ⟨rfl, rfl, rfl⟩ := hrest
    exact ⟨rfl, .inl ⟨rfl, rfl⟩⟩
  | none =>
    -- the node is asked, and its answer is what the session sets
    obtain ⟨_, m, _, _, rfl, hsend, hset⟩ := runs_bind_ok_iff.mp hrest
    obtain ⟨v, rfl, hv, rfl⟩ := (reads_sendForQuantity _).ok hsend
    obtain ⟨_, _, _, _, rfl, hset, hpure⟩ := runs_bind_ok_iff.mp hset
    simp at hset hpure
    obtain ⟨⟨rfl, rfl⟩, rfl, rfl, rfl⟩ := And.intro hset hpure
    exact ⟨rfl, .inr ⟨rfl, v, rfl, hv⟩⟩

theorem asks_chainId : client.chainId.Asks (· = .request client.connection .chainId) := by
  refine .bind (by simp) fun remembered => ?_
  cases remembered with
  | some n => simp
  | none => exact (reads_sendForQuantity _).asks.bind fun n => .bind (by simp) (by simp)

end Client

end DepositBridge
