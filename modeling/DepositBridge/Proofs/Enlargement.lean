import DepositBridge.Proofs.Bridge
import DepositBridge.Proofs.Coherence
import DepositBridge.Proofs.Lifetime

/-!
# Enlarged interfaces

The interface of a contract may have more entries than the built-in ones, which are those that its
client looks up. As long as they have names of their own, the client does in every step what it does
with the built-in interface (`Client.dialogue_of_enlarges`). A name that clients keep for themselves
is refused wherever it stands, also as the name of an error (`Client.ofInterface_reservedError`).
-/

namespace DepositBridge

/-! ## Insertions -/

/-- A list with items of a kind inserted anywhere. -/
inductive Inserts {α : Type} (p : α → Prop) : List α → List α → Prop
  | nil : Inserts p [] []
  | keep (a : α) {xs ys : List α} (h : Inserts p xs ys) : Inserts p (a :: xs) (a :: ys)
  | insert {a : α} (ha : p a) {xs ys : List α} (h : Inserts p xs ys) : Inserts p xs (a :: ys)

namespace Inserts

variable {α : Type} {p : α → Prop} {xs ys : List α}

theorem mem_or (h : Inserts p xs ys) {a : α} (ha : a ∈ ys) : a ∈ xs ∨ p a := by
  induction h with
  | nil => exact .inl ha
  | keep b _ ih =>
    rcases List.mem_cons.mp ha with rfl | ha
    · exact .inl List.mem_cons_self
    · exact (ih ha).imp (List.mem_cons_of_mem _) id
  | insert hb _ ih =>
    rcases List.mem_cons.mp ha with rfl | ha
    · exact .inr hb
    · exact ih ha

/-- What is selected is the same if no inserted item is selected. -/
theorem filter_eq (h : Inserts p xs ys) {selects : α → Bool} (hp : ∀ a, p a → selects a = false) :
    ys.filter selects = xs.filter selects := by
  induction h with
  | nil => rfl
  | keep a _ ih => rw [List.filter_cons, List.filter_cons, ih]
  | insert ha _ ih => rw [List.filter_cons_of_neg (by simp [hp _ ha]), ih]

end Inserts

/-! ## Enlarged interfaces -/

/-- The built-in interface of a contract. -/
def Bridge.Contract.entries : Bridge.Contract → List Value
  | .liquidity => Abi.liquidityEntries
  | .rollup => Abi.rollupEntries

namespace Abi

open Bridge (Contract)

variable {contract : Contract} {entries builtin named : List Value} {entry : Value} {name : String}

/-- An entry that may be added to an interface: it is well-formed, and a function or event does not
have the name of an entry that is there, nor a reserved one. -/
structure IsAddition (builtin : List Value) (entry : Value) : Prop where
  wellFormed : IsWellFormed entry
  newName : isKind "function" entry = true ∨ isKind "event" entry = true → ∀ name,
    hasName name entry = true → name ∉ entryNames builtin ∧ name ∉ reservedNames

/-- The interface of a contract with more entries, in which all functions can be told apart. -/
structure Enlarges (contract : Contract) (entries : List Value) : Prop where
  inserts : Inserts (IsAddition contract.entries) contract.entries entries
  distinct : (selectors entries).Nodup

/-! ### Looking up -/

/-- Whether an entry is of a kind and has a name. -/
def isNamed (kind name : String) (entry : Value) : Bool := hasName name entry && isKind kind entry

theorem mem_entryNames (hentry : entry ∈ entries) (hname : hasName name entry = true) :
    name ∈ entryNames entries := by
  unfold hasName at hname
  split at hname
  · next s hs =>
    cases of_decide_eq_true hname
    exact List.mem_filterMap.mpr ⟨entry, hentry, by rw [hs]⟩
  · cases hname

theorem functionsNamed_eq_ok_iff :
    functionsNamed entries name = .ok named ↔
      entries.filter (isNamed "function" name) = named ∧ named ≠ [] := by
  have hfilter : entries.filter (isNamed "function" name) =
      (entries.filter (isKind "function")).filter (hasName name) := List.filter_filter.symm
  rw [hfilter]
  unfold functionsNamed
  generalize entries.filter (isKind "function") = functions
  cases functions with
  | nil => exact ⟨nofun, fun h => absurd h.1.symm h.2⟩
  | cons first rest =>
    simp only [List.isEmpty_cons, Bool.false_eq_true, if_false]
    generalize (first :: rest).filter (hasName name) = found
    cases found with
    | nil => exact ⟨nofun, fun h => absurd h.1.symm h.2⟩
    | cons entry more =>
      refine ⟨fun h => ?_, fun h => congrArg Except.ok h.1⟩
      cases h
      exact ⟨rfl, List.cons_ne_nil _ _⟩

/-- A call depends on the functions of its name only. -/
theorem findCall_congr {entries' : List Value}
    (h : functionsNamed entries name = functionsNamed entries' name) :
    findCall entries name = findCall entries' name := by
  funext arguments
  unfold findCall
  rw [h]

theorem findEvent_eq_ok_iff :
    findEvent entries name = .ok entry ↔
      (entries.filter (isNamed "event" name)).head? = some entry := by
  have hfilter : entries.filter (isNamed "event" name) =
      (entries.filter (isKind "event")).filter (hasName name) := List.filter_filter.symm
  rw [hfilter, List.head?_filter]
  unfold findEvent
  generalize entries.filter (isKind "event") = events
  cases events with
  | nil => simp
  | cons first rest =>
    simp only [List.isEmpty_cons, Bool.false_eq_true, if_false]
    cases (first :: rest).find? (hasName name) <;> simp

namespace Enlarges

/-- Of each kind the entries of a name are the built-in ones if there is one. -/
theorem filter_isNamed (h : Enlarges contract entries) {kind : String}
    (hkind : kind = "function" ∨ kind = "event")
    (hentry : entry ∈ contract.entries.filter (isNamed kind name)) :
    entries.filter (isNamed kind name) = contract.entries.filter (isNamed kind name) := by
  obtain ⟨hmem, hnamed⟩ := List.mem_filter.mp hentry
  have hname : name ∈ entryNames contract.entries :=
    mem_entryNames hmem (Bool.and_eq_true_iff.mp hnamed).1
  refine h.inserts.filter_eq fun added hadded => Bool.eq_false_iff.mpr fun hnamed => ?_
  obtain ⟨hhas, hof⟩ := Bool.and_eq_true_iff.mp hnamed
  refine (hadded.newName ?_ name hhas).1 hname
  rcases hkind with rfl | rfl
  · exact .inl hof
  · exact .inr hof

/-- The functions of a name that are found are the built-in ones. -/
theorem functionsNamed_eq (h : Enlarges contract entries)
    (hfound : functionsNamed contract.entries name = .ok named) :
    functionsNamed entries name = functionsNamed contract.entries name := by
  rw [hfound]
  obtain ⟨hnamed, hnonempty⟩ := functionsNamed_eq_ok_iff.mp hfound
  obtain ⟨entry, rest, rfl⟩ := List.exists_cons_of_ne_nil hnonempty
  have hsame := h.filter_isNamed (.inl rfl) (hnamed ▸ List.mem_cons_self)
  exact functionsNamed_eq_ok_iff.mpr ⟨hsame.trans hnamed, hnonempty⟩

/-- The event of a name that is found is the built-in one. -/
theorem findEvent_eq (h : Enlarges contract entries)
    (hfound : findEvent contract.entries name = .ok entry) :
    findEvent entries name = findEvent contract.entries name := by
  rw [hfound]
  have hfirst := findEvent_eq_ok_iff.mp hfound
  have hsame := h.filter_isNamed (.inr rfl) (List.mem_of_head? hfirst)
  exact findEvent_eq_ok_iff.mpr (hsame ▸ hfirst)

end Enlarges

/-! ### Checking -/

/-- The name of an entry is not reserved if no name of the interface is. -/
theorem checkName_of_entryNames (hfree : ∀ name ∈ entryNames entries, name ∉ reservedNames)
    (hentry : entry ∈ entries) : checkName entry = .ok () := by
  unfold checkName
  split
  · next name hname =>
    have hmem : name ∈ entryNames entries :=
      mem_entryNames hentry (by simp [hasName, hname])
    simp [hfree name hmem]
  · rfl

theorem checkEntries_builtin (contract : Contract) : checkEntries contract.entries = .ok () := by
  cases contract with
  | liquidity => exact Bridge.checkEntries_liquidity
  | rollup => exact Bridge.checkEntries_rollup

/-- An enlarged interface is coherent if none of its names is reserved. -/
theorem Enlarges.checkEntries_eq_ok (h : Enlarges contract entries)
    (hfree : ∀ name ∈ entryNames entries, name ∉ reservedNames) :
    checkEntries entries = .ok () := by
  refine checkEntries_eq_ok_iff.mpr ⟨fun entry hentry => ?_, h.distinct⟩
  rcases h.inserts.mem_or hentry with hbuiltin | hadded
  · exact (checkEntries_eq_ok_iff.mp (checkEntries_builtin contract)).1 entry hbuiltin
  · exact hadded.wellFormed.isSound (checkName_of_entryNames hfree hentry)

end Abi

/-! ## Steps -/

namespace Client

open Bridge (Contract)

variable {contract : Contract} {entries : List Value} {client : Client}

/-- What comes of a step. -/
inductive Step.Result where
  | hash (text : String)
  | index (n : Int)
  | leaves (found : List Leaf)
  | chain (n : Int)
  | closed

/-- What a client does in a step, with its result, which `Step.session` drops. -/
def Step.answer (client : Client) : Step → Session Step.Result
  | .act action => .hash <$> action.session client
  | .tokenIndex type token id => do
    let type ← Session.take (tokenTypeArgument type)
    .index <$> client.tokenIndex type token id
  | .leaves deployedBlock fromBlock => .leaves <$> client.leavesFrom deployedBlock fromBlock
  | .chainId => .chain <$> client.chainId
  | .close => (fun _ => .closed) <$> client.close

/-- Whether the client of a contract can be told to do a step. -/
def Step.isFor : Contract → Step → Bool
  | .liquidity, .act (.depositNative ..) => true
  | .liquidity, .act (.depositErc20 ..) => true
  | .liquidity, .tokenIndex .. => true
  | .rollup, .act (.processDeposits ..) => true
  | .rollup, .leaves .. => true
  | _, .chainId => true
  | _, .close => true
  | _, _ => false

/-- What happens in a step: what is asked and noted, what comes of it, and what is remembered
afterwards. -/
structure Turn where
  events : List (Program.Event Node.Query Node.Answer)
  result : Except Fault Step.Result
  chain : Option Int

/-- What happens in step after step. A step that fails does not keep the client from the next
one. -/
def dialogue (client : Client) (nodes : Program.Behaviour Node.Query Node.Answer) :
    List (Node.Query × Node.Answer) → Option Int → List Step → List Turn
  | _, _, [] => []
  | history, chain, step :: steps =>
    let run := Program.runFrom nodes history ((step.answer client).start chain)
    ⟨run.1, run.2.1, run.2.2⟩ ::
      dialogue client nodes (Program.historyOf run.1 ++ history) run.2.2 steps

/-- A client with another interface. -/
def withEntries (client : Client) (entries : List Value) : Client := { client with entries }

@[simp] theorem entries_withEntries : (client.withEntries entries).entries = entries := rfl

theorem submit_withEntries : (client.withEntries entries).submit = client.submit := rfl

theorem awaitReceipt_withEntries :
    (client.withEntries entries).awaitReceipt = client.awaitReceipt := by
  funext hash polls
  induction polls with
  | zero => rfl
  | succ polls ih =>
    rw [awaitReceipt, awaitReceipt, ih]
    rfl

theorem transact_withEntries : (client.withEntries entries).transact = client.transact := by
  funext label call amount
  simp only [transact, submit_withEntries, awaitReceipt_withEntries]
  rfl

theorem depositNative_withEntries (h : Abi.functionsNamed entries "depositNativeToken" =
      Abi.functionsNamed client.entries "depositNativeToken") :
    (client.withEntries entries).depositNative = client.depositNative := by
  funext salt amount
  unfold depositNative
  rw [transact_withEntries, entries_withEntries]
  dsimp only
  rw [Abi.findCall_congr h]

theorem depositErc20_withEntries (h : Abi.functionsNamed entries "depositERC20" =
      Abi.functionsNamed client.entries "depositERC20") :
    (client.withEntries entries).depositErc20 = client.depositErc20 := by
  funext token salt amount
  simp only [depositErc20, entries_withEntries, h, Abi.findCall_congr h, transact_withEntries]

theorem tokenIndex_withEntries (h : Abi.functionsNamed entries "getTokenIndex" =
      Abi.functionsNamed client.entries "getTokenIndex") :
    (client.withEntries entries).tokenIndex = client.tokenIndex := by
  have hask : (client.withEntries entries).ask = client.ask := rfl
  funext type token id
  simp only [tokenIndex, entries_withEntries, h, Abi.findCall_congr h, hask]

theorem processDeposits_withEntries (h : Abi.functionsNamed entries "processDeposits" =
      Abi.functionsNamed client.entries "processDeposits") :
    (client.withEntries entries).processDeposits = client.processDeposits := by
  funext lastProcessed hashes
  simp only [processDeposits, entries_withEntries, Abi.findCall_congr h, transact_withEntries]

theorem scan_withEntries (h : Abi.findEvent entries leafEventName =
      Abi.findEvent client.entries leafEventName) :
    (client.withEntries entries).scan = client.scan := by
  have hleaves : (client.withEntries entries).leavesIn = client.leavesIn := by
    have hevent : (client.withEntries entries).leafEvent = client.leafEvent := by
      simp only [leafEvent, entries_withEntries, h]
    funext first last
    simp only [leavesIn, hevent]
    rfl
  funext head start windows
  induction windows generalizing start with
  | zero => rfl
  | succ windows ih => simp only [scan, hleaves, ih]

theorem leavesFrom_withEntries (h : Abi.findEvent entries leafEventName =
      Abi.findEvent client.entries leafEventName) :
    (client.withEntries entries).leavesFrom = client.leavesFrom := by
  funext deployedBlock fromBlock
  simp only [leavesFrom, leaves, scan_withEntries h]
  rfl

/-- In a step for its contract a client with an enlarged interface does what it does with the
built-in one. -/
theorem answer_withEntries (h : Abi.Enlarges contract entries)
    (hclient : client.entries = contract.entries) {step : Step}
    (hstep : step.isFor contract = true) :
    step.answer (client.withEntries entries) = step.answer client := by
  have hfunctions {name : String} {named : List Value}
      (hfound : Abi.functionsNamed contract.entries name = .ok named) :
      Abi.functionsNamed entries name = Abi.functionsNamed client.entries name :=
    hclient ▸ h.functionsNamed_eq hfound
  match contract, step with
  | .liquidity, .act (.depositNative salt amount) =>
    simp only [Step.answer, Action.session, depositNative_withEntries (hfunctions rfl)]
  | .liquidity, .act (.depositErc20 token salt amount) =>
    simp only [Step.answer, Action.session, depositErc20_withEntries (hfunctions rfl)]
  | .liquidity, .tokenIndex type token id =>
    simp only [Step.answer, tokenIndex_withEntries (hfunctions rfl)]
  | .rollup, .act (.processDeposits lastProcessed hashes) =>
    simp only [Step.answer, Action.session, processDeposits_withEntries (hfunctions rfl)]
  | .rollup, .leaves deployedBlock fromBlock =>
    have hevent : Abi.findEvent entries leafEventName =
        Abi.findEvent client.entries leafEventName := hclient ▸ h.findEvent_eq rfl
    simp only [Step.answer, leavesFrom_withEntries hevent]
  | _, .chainId => rfl
  | _, .close => rfl

theorem dialogue_congr {client' : Client} {nodes : Program.Behaviour Node.Query Node.Answer}
    {steps : List Step} (h : ∀ step ∈ steps, step.answer client' = step.answer client)
    (history : List (Node.Query × Node.Answer)) (chain : Option Int) :
    dialogue client' nodes history chain steps = dialogue client nodes history chain steps := by
  induction steps generalizing history chain with
  | nil => rfl
  | cons step steps ih =>
    simp only [dialogue, h step List.mem_cons_self,
      ih fun other hother => h other (List.mem_cons_of_mem _ hother)]

/-- A client can be made of a coherent interface. -/
theorem ofInterface_eq_ok {connection : Nat} {url : String} {address : Address}
    {wallet : Option Wallet} {patience : Patience} (h : Abi.checkEntries entries = .ok ()) :
    ofInterface connection url address wallet entries patience =
      .ok ⟨connection, url, address, wallet, entries, patience⟩ := by
  rw [ofInterface, h]
  rfl

/-- With an enlarged interface, none of whose names is reserved, a client is made as with the
built-in one, and from whatever it remembers, step after step and whatever its node answers, the
same happens. -/
theorem dialogue_of_enlarges (h : Abi.Enlarges contract entries)
    (hfree : ∀ name ∈ Abi.entryNames entries, name ∉ Abi.reservedNames) (connection : Nat)
    (url : String) (address : Address) (wallet : Option Wallet) (patience : Patience) :
    ∃ client enlarged,
      ofInterface connection url address wallet contract.entries patience = .ok client ∧
      ofInterface connection url address wallet entries patience = .ok enlarged ∧
      ∀ nodes history chain steps, (∀ step ∈ steps, step.isFor contract = true) →
        dialogue enlarged nodes history chain steps =
          dialogue client nodes history chain steps := by
  let client : Client := ⟨connection, url, address, wallet, contract.entries, patience⟩
  refine ⟨client, client.withEntries entries, ofInterface_eq_ok (Abi.checkEntries_builtin contract),
    ofInterface_eq_ok (h.checkEntries_eq_ok hfree), fun nodes history chain steps hsteps => ?_⟩
  have hanswer : ∀ step ∈ steps, step.answer (client.withEntries entries) = step.answer client :=
    fun step hstep => answer_withEntries h rfl (hsteps step hstep)
  exact dialogue_congr hanswer history chain

/-- The entry of an error that takes nothing. -/
def errorEntry (name : String) : Value :=
  .object [("type", .text "error"), ("name", .text name), ("inputs", .list [])]

theorem isAddition_errorEntry (builtin : List Value) (name : String) :
    Abi.IsAddition builtin (errorEntry name) := by
  refine ⟨⟨⟨"error", by simp [Abi.entryKinds], rfl⟩, fun _ _ _ => ⟨_, rfl⟩, ?_⟩, ?_⟩
  · simp [errorEntry, Abi.parametersOf, Value.get?, Value.member?]
  · simp [errorEntry, Abi.isKind, Value.get?, Value.member?]

/-- The entry of a function that takes a tuple. -/
def tupleEntry : Value :=
  .object [("type", .text "function"), ("name", .text "withdraw"), ("inputs", .list [
    .object [("name", .text "order"), ("type", .text "tuple"), ("components", .list [
      .object [("name", .text "amount"), ("type", .text "uint256")]])]])]

theorem isAddition_tupleEntry : Abi.IsAddition Abi.rollupEntries tupleEntry := by
  refine ⟨⟨⟨"function", by simp [Abi.entryKinds], rfl⟩, fun _ _ _ => ⟨_, rfl⟩, ?_⟩, ?_⟩
  · intro parameter hmem
    cases List.mem_singleton.mp hmem
    refine .tuple rfl rfl fun component hmem => ?_
    cases List.mem_singleton.mp hmem
    exact .plain rfl (by decide)
  · intro _ name hname
    cases of_decide_eq_true hname
    decide +kernel

/-- The interface of a rollup contract as a compiler writes it. -/
def sampleArtifact : List Value :=
  errorEntry "Refused" :: Abi.rollupEntries ++ [tupleEntry]

theorem enlarges_sampleArtifact : Abi.Enlarges .rollup sampleArtifact where
  inserts := .insert (isAddition_errorEntry _ _) (.keep _ (.keep _
    (.insert isAddition_tupleEntry .nil)))
  distinct := by decide +kernel

/-- Some steps for the client of a rollup contract. -/
def sampleSteps : List Step :=
  [.chainId, .leaves 0 none, .act (.processDeposits (.int 0) (.list [])), .close, .chainId]

/-- Nothing in these steps depends on what else a compiler has written. -/
theorem dialogue_of_enlarges_sample :
    ∃ client enlarged,
      ofInterface 0 "http://127.0.0.1:8546" .zero none Abi.rollupEntries .standard = .ok client ∧
      ofInterface 0 "http://127.0.0.1:8546" .zero none sampleArtifact .standard = .ok enlarged ∧
      ∀ nodes, dialogue enlarged nodes [] none sampleSteps =
        dialogue client nodes [] none sampleSteps := by
  obtain ⟨client, enlarged, hclient, henlarged, hsame⟩ := dialogue_of_enlarges
    enlarges_sampleArtifact (by decide +kernel) 0 "http://127.0.0.1:8546" .zero none .standard
  exact ⟨client, enlarged, hclient, henlarged,
    fun nodes => hsame nodes [] none sampleSteps (by decide)⟩

/-! ## A reserved name -/

/-- An error is neither a function nor an event, and yet no client is made if it has a reserved
name. -/
theorem ofInterface_reservedError :
    Abi.Enlarges .rollup (Abi.rollupEntries ++ [errorEntry "abi"]) ∧
      (∃ client, ofInterface 0 "http://127.0.0.1:8546" .zero none Abi.rollupEntries .standard =
        .ok client) ∧
      ofInterface 0 "http://127.0.0.1:8546" .zero none (Abi.rollupEntries ++ [errorEntry "abi"])
        .standard = .error (.reservedName "abi") := by
  refine ⟨⟨?_, by decide +kernel⟩, ⟨_, ofInterface_eq_ok Bridge.checkEntries_rollup⟩, ?_⟩
  · exact .keep _ (.keep _ (.insert (isAddition_errorEntry _ _) .nil))
  · have hfault : Abi.checkEntries (Abi.rollupEntries ++ [errorEntry "abi"]) =
        .error (.reservedName "abi") := by decide +kernel
    unfold ofInterface
    rw [hfault]
    rfl

end Client

end DepositBridge
