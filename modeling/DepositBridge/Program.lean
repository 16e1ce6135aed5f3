import DepositBridge.Journal

/-!
# Programs

A program asks queries one after another, takes notes, and ends in a result. What the queries are
answered is left open: a program is the tree of everything it may do, and a run follows the branch
of the answers it gets.
-/

namespace DepositBridge

/-- A program that asks queries, gets replies and ends in a result. -/
inductive Program (Query Reply α : Type) where
  | done (a : α)
  | note (note : Note) (next : Program Query Reply α)
  | ask (query : Query) (next : Reply → Program Query Reply α)

namespace Program

variable {Query Reply α β γ : Type}

/-- One program after another. -/
def bind : Program Query Reply α → (α → Program Query Reply β) → Program Query Reply β
  | done a, f => f a
  | note n next, f => note n (bind next f)
  | ask query next, f => ask query fun reply => bind (next reply) f

instance : Monad (Program Query Reply) where
  pure := done
  bind := bind

@[simp] theorem bind_done (p : Program Query Reply α) : p.bind done = p := by
  induction p with
  | done => rfl
  | note n next ih => simp [bind, ih]
  | ask query next ih => simp [bind, ih]

theorem bind_assoc (p : Program Query Reply α) (f : α → Program Query Reply β)
    (g : β → Program Query Reply γ) : (p.bind f).bind g = p.bind fun a => (f a).bind g := by
  induction p with
  | done => rfl
  | note n next ih => simp [bind, ih]
  | ask query next ih => simp [bind, ih]

/-- Asks one query. -/
def query (q : Query) : Program Query Reply Reply := ask q done

/-- Takes one note. -/
def journal (level : Level) (source : Source) (text : String) : Program Query Reply Unit :=
  note ⟨level, source, text⟩ (done ())

/-! ## Runs -/

/-- What happens in a run: a query and its reply, or a note. -/
inductive Event (Query Reply : Type) where
  | asked (query : Query) (reply : Reply)
  | noted (note : Note)

/-- How queries are answered: each by what was asked and answered before it, the last one first. -/
abbrev Behaviour (Query Reply : Type) := List (Query × Reply) → Query → Reply

/-- What happens, in order, and the result, when a program goes on after a history. -/
def runFrom (behaviour : Behaviour Query Reply) :
    List (Query × Reply) → Program Query Reply α → List (Event Query Reply) × α
  | _, done a => ([], a)
  | history, note n next =>
    let (events, a) := runFrom behaviour history next
    (.noted n :: events, a)
  | history, ask q next =>
    let reply := behaviour history q
    let (events, a) := runFrom behaviour ((q, reply) :: history) (next reply)
    (.asked q reply :: events, a)

/-- The reply whose turn it is after a number of earlier ones; the last reply stays for good. -/
def inTurn? {ρ : Type} (replies : List ρ) (before : Nat) : Option ρ :=
  replies[before]?.or replies.getLast?

/-- The queries and replies of events, the last one first. -/
def historyOf (events : List (Event Query Reply)) : List (Query × Reply) :=
  (events.filterMap fun
    | .asked q r => some (q, r)
    | .noted _ => none).reverse

/-- The notes of events. -/
def notesOf (events : List (Event Query Reply)) : List Note :=
  events.filterMap fun
    | .asked .. => none
    | .noted n => some n

/-! ## Carrying out -/

/-- Carries out a program by programs over other queries, one for each query it asks, that share a
state. -/
def carryOut {σ Query' Reply' : Type}
    (answer : Query → σ → Program Query' Reply' (Reply × σ)) :
    Program Query Reply α → σ → Program Query' Reply' (α × σ)
  | done a, s => done (a, s)
  | note n next, s => note n (carryOut answer next s)
  | ask q next, s => (answer q s).bind fun (reply, s) => carryOut answer (next reply) s

end Program

end DepositBridge
