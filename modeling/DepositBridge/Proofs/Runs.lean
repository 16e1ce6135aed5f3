import DepositBridge.Program

/-!
# Runs of programs

What a program can do when nothing is known about the answers: the queries of a run with their
replies, in order, and the result. Every behaviour gives such a run (`runs_runFrom`), and a run of
one program after another is a run of the first and then a run of the second (`runs_bind_iff`).
-/

namespace DepositBridge.Program

variable {Query Reply α β : Type}

instance : LawfulMonad (Program Query Reply) :=
  LawfulMonad.mk' (m := Program Query Reply) bind_done (fun _ _ => rfl) bind_assoc

/-- A program can ask queries and get replies, in this order, and then end in a result. Notes leave
nothing behind. -/
inductive Runs : Program Query Reply α → List (Query × Reply) → α → Prop where
  | done (a : α) : Runs (.done a) [] a
  | note {n : Note} {next : Program Query Reply α} {asked : List (Query × Reply)} {a : α} :
      Runs next asked a → Runs (.note n next) asked a
  | ask {query : Query} {next : Reply → Program Query Reply α} {reply : Reply}
      {asked : List (Query × Reply)} {a : α} :
      Runs (next reply) asked a → Runs (.ask query next) ((query, reply) :: asked) a

/-! ## One constructor at a time -/

@[simp] theorem runs_done_iff {a b : α} {asked : List (Query × Reply)} :
    Runs (.done a) asked b ↔ asked = [] ∧ b = a := by
  constructor
  · rintro ⟨⟩
    exact ⟨rfl, rfl⟩
  · rintro ⟨rfl, rfl⟩
    exact .done _

@[simp] theorem runs_note_iff {n : Note} {next : Program Query Reply α}
    {asked : List (Query × Reply)} {a : α} : Runs (.note n next) asked a ↔ Runs next asked a := by
  constructor
  · rintro ⟨⟩
    assumption
  · exact .note

@[simp] theorem runs_ask_iff {query : Query} {next : Reply → Program Query Reply α}
    {asked : List (Query × Reply)} {a : α} :
    Runs (.ask query next) asked a ↔
      ∃ reply rest, asked = (query, reply) :: rest ∧ Runs (next reply) rest a := by
  constructor
  · rintro ⟨⟩
    exact ⟨_, _, rfl, ‹_›⟩
  · rintro ⟨reply, rest, rfl, h⟩
    exact .ask h

/-- A run of one program after another splits where the first one ends. -/
theorem runs_bind_iff {p : Program Query Reply α} {f : α → Program Query Reply β}
    {asked : List (Query × Reply)} {b : β} :
    Runs (p.bind f) asked b ↔
      ∃ first a rest, asked = first ++ rest ∧ Runs p first a ∧ Runs (f a) rest b := by
  induction p generalizing asked with
  | done a =>
    constructor
    · -- the first program has ended, so all of the run is the second one's
      exact fun h => ⟨[], a, asked, rfl, .done a, h⟩
    · rintro ⟨_, _, rest, rfl, ⟨⟩, h⟩
      exact h
  | note n next ih => simp only [bind, runs_note_iff, ih]
  | ask query next ih =>
    simp only [bind, runs_ask_iff, ih]
    constructor
    · rintro ⟨reply, _, rfl, first, a, rest, rfl, hfirst, hrest⟩
      exact ⟨_, a, rest, rfl, ⟨reply, first, rfl, hfirst⟩, hrest⟩
    · rintro ⟨_, a, rest, rfl, ⟨reply, first, rfl, hfirst⟩, hrest⟩
      exact ⟨reply, _, rfl, first, a, rest, rfl, hfirst, hrest⟩

/-! ## Programs that may fail -/

/-- A program that may fail is one whose result says whether it has failed. -/
theorem run_bind {ε : Type} (p : ExceptT ε (Program Query Reply) α)
    (f : α → ExceptT ε (Program Query Reply) β) :
    (p >>= f).run = p.run.bind fun
      | .ok a => (f a).run
      | .error e => .done (.error e) := by
  show Program.bind _ _ = Program.bind _ _
  congr 1
  funext r
  cases r <;> rfl

/-- One program after another, where the first one may fail: then the second one is left out. -/
theorem runs_attempt_bind_iff {ε : Type} {p : ExceptT ε (Program Query Reply) α}
    {f : α → ExceptT ε (Program Query Reply) β} {asked : List (Query × Reply)}
    {result : Except ε β} :
    Runs (p >>= f).run asked result ↔
      (∃ e, result = .error e ∧ Runs p.run asked (.error e)) ∨
      ∃ first a rest, asked = first ++ rest ∧ Runs p.run first (.ok a) ∧
        Runs (f a).run rest result := by
  rw [run_bind, runs_bind_iff]
  constructor
  · rintro ⟨first, e | a, rest, rfl, hfirst, hrest⟩
    · obtain ⟨rfl, rfl⟩ := runs_done_iff.mp hrest
      exact .inl ⟨e, rfl, by simpa using hfirst⟩
    · exact .inr ⟨first, a, rest, rfl, hfirst, hrest⟩
  · rintro (⟨e, rfl, h⟩ | ⟨first, a, rest, rfl, hfirst, hrest⟩)
    · exact ⟨asked, _, [], by simp, h, .done _⟩
    · exact ⟨first, .ok a, rest, rfl, hfirst, hrest⟩

/-- A program that cannot fail, as one that may. -/
theorem runs_lift_iff {ε : Type} {p : Program Query Reply α} {asked : List (Query × Reply)}
    {result : Except ε α} :
    Runs (ExceptT.lift p : ExceptT ε (Program Query Reply) α).run asked result ↔
      ∃ a, result = .ok a ∧ Runs p asked a := by
  refine runs_bind_iff.trans ?_
  constructor
  · rintro ⟨first, a, rest, rfl, hfirst, hrest⟩
    obtain ⟨rfl, rfl⟩ := runs_done_iff.mp hrest
    exact ⟨a, rfl, by rwa [List.append_nil]⟩
  · rintro ⟨a, rfl, h⟩
    exact ⟨asked, a, [], by simp, h, .done _⟩

/-! ## What programs ask -/

/-- All queries of a program, whatever comes of it, are of a kind. -/
def Asks (p : Program Query Reply α) (kind : Query → Prop) : Prop :=
  ∀ ⦃asked a⦄, Runs p asked a → ∀ entry ∈ asked, kind entry.1

variable {kind : Query → Prop}

theorem asks_of_asked_nil {p : Program Query Reply α}
    (h : ∀ ⦃asked a⦄, Runs p asked a → asked = []) : p.Asks kind := by
  intro asked a hrun
  simp [h hrun]

theorem asks_done (a : α) : (done a : Program Query Reply α).Asks kind :=
  asks_of_asked_nil fun _ _ h => (runs_done_iff.mp h).1

theorem asks_query (q : Query) : (query q : Program Query Reply Reply).Asks (· = q) := by
  intro asked reply hrun
  obtain ⟨_, rest, rfl, hrest⟩ := runs_ask_iff.mp hrun
  obtain ⟨rfl, -⟩ := runs_done_iff.mp hrest
  simp

theorem Asks.mono {p : Program Query Reply α} {wider : Query → Prop} (h : p.Asks kind)
    (hwider : ∀ query, kind query → wider query) : p.Asks wider :=
  fun _ _ hrun entry hentry => hwider _ (h hrun entry hentry)

/-- What is left of a program after a reply asks no others. -/
theorem Asks.next {query : Query} {next : Reply → Program Query Reply α}
    (h : (ask query next).Asks kind) (reply : Reply) : (next reply).Asks kind :=
  fun _ _ hrun entry hentry => h (.ask hrun) entry (List.mem_cons_of_mem _ hentry)

theorem Asks.bind {p : Program Query Reply α} {f : α → Program Query Reply β} (h : p.Asks kind)
    (hf : ∀ a, (f a).Asks kind) : (p.bind f).Asks kind := by
  intro asked b hrun
  obtain ⟨first, a, rest, rfl, hfirst, hrest⟩ := runs_bind_iff.mp hrun
  intro entry hentry
  rcases List.mem_append.mp hentry with hentry | hentry
  · exact h hfirst entry hentry
  · exact hf a hrest entry hentry

theorem Asks.lift {ε : Type} {p : Program Query Reply α} (h : p.Asks kind) :
    (ExceptT.lift p : ExceptT ε (Program Query Reply) α).run.Asks kind := by
  intro asked result hrun
  obtain ⟨a, -, ha⟩ := runs_lift_iff.mp hrun
  exact h ha

theorem Asks.attempt_bind {ε : Type} {p : ExceptT ε (Program Query Reply) α}
    {f : α → ExceptT ε (Program Query Reply) β} (h : p.run.Asks kind)
    (hf : ∀ a, (f a).run.Asks kind) : (p >>= f).run.Asks kind := by
  rw [run_bind]
  refine h.bind fun result => ?_
  cases result with
  | ok a => exact hf a
  | error e => exact asks_done _

/-! ## Carrying out -/

section CarryOut

variable {σ Query' Reply' : Type} {answer : Query → σ → Program Query' Reply' (Reply × σ)}

/-- Queries are carried out one after the other: what is asked for each of them in turn, from one
state to the next. -/
inductive Carries (answer : Query → σ → Program Query' Reply' (Reply × σ)) :
    List (Query × Reply) → σ → List (Query' × Reply') → σ → Prop where
  | nil (s : σ) : Carries answer [] s [] s
  | cons {query : Query} {reply : Reply} {rest : List (Query × Reply)} {s s₁ s₂ : σ}
      {first later : List (Query' × Reply')} :
      Runs (answer query s) first (reply, s₁) → Carries answer rest s₁ later s₂ →
      Carries answer ((query, reply) :: rest) s (first ++ later) s₂

@[simp] theorem carries_nil_iff {s s' : σ} {asked : List (Query' × Reply')} :
    Carries answer [] s asked s' ↔ asked = [] ∧ s' = s := by
  constructor
  · rintro ⟨⟩
    exact ⟨rfl, rfl⟩
  · rintro ⟨rfl, rfl⟩
    exact .nil _

theorem carries_cons_iff {query : Query} {reply : Reply} {rest : List (Query × Reply)} {s s' : σ}
    {asked : List (Query' × Reply')} :
    Carries answer ((query, reply) :: rest) s asked s' ↔
      ∃ first middle later, asked = first ++ later ∧
        Runs (answer query s) first (reply, middle) ∧ Carries answer rest middle later s' := by
  constructor
  · rintro ⟨⟩
    exact ⟨_, _, _, rfl, ‹_›, ‹_›⟩
  · rintro ⟨first, middle, later, rfl, hfirst, hlater⟩
    exact .cons hfirst hlater

/-- Carrying out a program is a run of it whose queries are carried out. -/
theorem runs_carryOut_iff {p : Program Query Reply α} {s s' : σ} {asked : List (Query' × Reply')}
    {a : α} :
    Runs (carryOut answer p s) asked (a, s') ↔
      ∃ calls, Runs p calls a ∧ Carries answer calls s asked s' := by
  induction p generalizing s asked with
  | done b =>
    simp only [carryOut, runs_done_iff, Prod.mk.injEq]
    constructor
    · rintro ⟨rfl, rfl, rfl⟩
      exact ⟨[], ⟨rfl, rfl⟩, .nil _⟩
    · rintro ⟨_, ⟨rfl, rfl⟩, ⟨⟩⟩
      exact ⟨rfl, rfl, rfl⟩
  | note n next ih => simpa only [carryOut, runs_note_iff] using ih
  | ask query next ih =>
    -- the answer to the query fixes the state that all later ones are carried out in
    simp only [carryOut, runs_bind_iff, runs_ask_iff]
    constructor
    · rintro ⟨first, ⟨reply, middle⟩, later, rfl, hfirst, hlater⟩
      obtain ⟨calls, hcalls, hcarries⟩ := (ih reply).mp hlater
      exact ⟨_, ⟨reply, calls, rfl, hcalls⟩, .cons hfirst hcarries⟩
    · rintro ⟨_, ⟨reply, calls, rfl, hcalls⟩, hcarries⟩
      obtain ⟨first, middle, later, rfl, hfirst, hlater⟩ := carries_cons_iff.mp hcarries
      exact ⟨first, (reply, middle), later, rfl, hfirst, (ih reply).mpr ⟨calls, hcalls, hlater⟩⟩

/-- What is carried out asks what its queries are carried out by. -/
theorem Asks.carryOut {p : Program Query Reply α} {kind : Query → Prop} {kind' : Query' → Prop}
    (h : p.Asks kind) (hanswer : ∀ query s, kind query → (answer query s).Asks kind') (s : σ) :
    (carryOut answer p s).Asks kind' := by
  rintro asked ⟨a, last⟩ hrun
  obtain ⟨calls, hcalls, hcarries⟩ := runs_carryOut_iff.mp hrun
  have hkind := h hcalls
  clear hcalls hrun
  induction hcarries with
  | nil s => simp
  | @cons query reply rest s s₁ s₂ first later hfirst hlater ih =>
    rw [List.forall_mem_cons] at hkind
    intro entry hentry
    rcases List.mem_append.mp hentry with hentry | hentry
    · exact hanswer query s hkind.1 hfirst entry hentry
    · exact ih hkind.2 entry hentry

/-- One program after another is carried out one after the other, from one state to the next. -/
theorem carryOut_bind (p : Program Query Reply α) (f : α → Program Query Reply β) (s : σ) :
    carryOut answer (p.bind f) s =
      (carryOut answer p s).bind fun (a, s') => carryOut answer (f a) s' := by
  induction p generalizing s with
  | done a => rfl
  | note n next ih => simp only [bind, carryOut, ih]
  | ask query next ih => simp only [bind, carryOut, bind_assoc, ih]

end CarryOut

/-! ## Runs of behaviours -/

/-- The queries and replies of events, in order. -/
def askedOf (events : List (Event Query Reply)) : List (Query × Reply) := (historyOf events).reverse

@[simp] theorem askedOf_nil : askedOf ([] : List (Event Query Reply)) = [] := rfl

@[simp] theorem askedOf_asked (query : Query) (reply : Reply) (events : List (Event Query Reply)) :
    askedOf (.asked query reply :: events) = (query, reply) :: askedOf events := by
  simp [askedOf, historyOf]

@[simp] theorem askedOf_noted (n : Note) (events : List (Event Query Reply)) :
    askedOf (.noted n :: events) = askedOf events := by
  simp [askedOf, historyOf]

@[simp] theorem askedOf_append (events more : List (Event Query Reply)) :
    askedOf (events ++ more) = askedOf events ++ askedOf more := by
  simp [askedOf, historyOf]

variable {behaviour : Behaviour Query Reply}

/-- One program after another: the second one goes on after what the first one has asked. -/
theorem runFrom_bind (history : List (Query × Reply)) (p : Program Query Reply α)
    (f : α → Program Query Reply β) :
    runFrom behaviour history (p.bind f) =
      let first := runFrom behaviour history p
      let second := runFrom behaviour (historyOf first.1 ++ history) (f first.2)
      (first.1 ++ second.1, second.2) := by
  induction p generalizing history with
  | done a => rfl
  | note n next ih =>
    simp only [bind, runFrom, ih]
    rfl
  | ask query next ih =>
    have hlater : ∀ (reply : Reply) (events : List (Event Query Reply)),
        historyOf (.asked query reply :: events) ++ history =
          historyOf events ++ (query, reply) :: history := by
      intro reply events
      simp [historyOf]
    simp only [bind, runFrom, ih, hlater]
    rfl

/-- What happens under a behaviour is a run. -/
theorem runs_runFrom (history : List (Query × Reply)) (p : Program Query Reply α) :
    Runs p (askedOf (runFrom behaviour history p).1) (runFrom behaviour history p).2 := by
  induction p generalizing history with
  | done a => exact .done a
  | note n next ih => exact .note (by simpa [runFrom] using ih history)
  | ask query next ih =>
    simp only [runFrom, askedOf_asked]
    exact .ask (ih _ _)

/-- The replies of a run under a behaviour are those of the behaviour. -/
theorem reply_of_mem_runFrom {history : List (Query × Reply)} {p : Program Query Reply α}
    {query : Query} {reply : Reply}
    (h : (query, reply) ∈ askedOf (runFrom behaviour history p).1) :
    ∃ earlier, behaviour earlier query = reply := by
  induction p generalizing history with
  | done a => simp [runFrom] at h
  | note n next ih =>
    simp only [runFrom, askedOf_noted] at h
    exact ih h
  | ask query next ih =>
    simp only [runFrom, askedOf_asked, List.mem_cons, Prod.mk.injEq] at h
    rcases h with ⟨rfl, rfl⟩ | h
    · exact ⟨history, rfl⟩
    · exact ih _ h

end DepositBridge.Program
