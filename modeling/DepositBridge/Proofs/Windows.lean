import DepositBridge.Proofs.Scan
import Mathlib.Data.Rat.Floor

/-!
# Windows of a scan

Whatever a node answers, leaves are collected from windows that follow one another: each block from
the first one to the head is asked for once, no other one is, and the first answer that cannot be
read ends the scan (`leavesFrom_sweeps`). The induction is on the number of windows: the first
window is the one of number zero, and the later ones are those of a scan that starts behind it.
-/

namespace DepositBridge

/-- Whether a query asks for the logs of a block. -/
def Node.Query.asksFor (block : Int) : Node.Query → Bool
  | .request _ (.logs _ first last _) => first ≤ block && block ≤ last
  | _ => false

namespace Client

open Session (Runs)

variable {client : Client} {event : Abi.Event} {start head : Int} {chain chain' : Option Int}
  {asked : Node.Transcript}

/-! ## Counting -/

/-- As long as a block is left, one window more is counted than from the block behind it on. -/
theorem windowCount_of_le (h : start ≤ head) :
    windowCount start head = windowCount (start + windowSize) head + 1 := by
  unfold windowCount windowSize
  omega

theorem windowCount_of_lt (h : head < start) : windowCount start head = 0 := by
  unfold windowCount windowSize
  omega

/-- The windows that are counted are those of a loop that goes on as long as a block is left. -/
theorem scan_windowCount (client : Client) (head start : Int) :
    client.scan head start (windowCount start head) =
      if start ≤ head then do
        let leaves ← client.leavesIn start (min (start + windowSize - 1) head)
        let later ← client.scan head (start + windowSize) (windowCount (start + windowSize) head)
        pure (leaves ++ later)
      else pure [] := by
  split
  · next hleft => rw [windowCount_of_le hleft, scan]
  · next hdone => rw [windowCount_of_lt (by omega), scan]

theorem windowCount_eq_ceil (start head : Int) :
    windowCount start head = ⌈((head - start + 1 : Int) : ℚ) / (windowSize : Int)⌉₊ := by
  have hceil := Rat.ceil_intCast_div_natCast (head - start + 1) 10000
  have hsize : ((windowSize : Int) : ℚ) = ((10000 : Nat) : ℚ) := by norm_num [windowSize]
  rw [← Int.ceil_toNat, hsize, hceil]
  unfold windowCount windowSize
  omega

/-! ## Windows -/

/-- The first block of a window; windows are numbered from zero. -/
def windowStart (start : Int) (number : Nat) : Int := start + windowSize * number

/-- The last block of a window, which does not reach beyond the head. -/
def windowEnd (start head : Int) (number : Nat) : Int :=
  min (windowStart start number + windowSize - 1) head

/-- The query for the logs of a window. -/
def windowQuery (client : Client) (event : Abi.Event) (start head : Int) (number : Nat) :
    Node.Query :=
  .request client.connection
    (.logs client.address (windowStart start number) (windowEnd start head number) event.topic)

theorem windowStart_succ (start : Int) (number : Nat) :
    windowStart start (number + 1) = windowStart (start + windowSize) number := by
  unfold windowStart windowSize
  omega

/-- The windows behind the first one are those of a scan that starts behind it. -/
theorem windowQuery_succ (client : Client) (event : Abi.Event) (start head : Int) (number : Nat) :
    client.windowQuery event start head (number + 1) =
      client.windowQuery event (start + windowSize) head number := by
  simp only [windowQuery, windowEnd, windowStart_succ]

/-- Of a number of windows that follow one another each block lies in one at most. -/
theorem countP_windowQuery (client : Client) (event : Abi.Event) (start head block : Int)
    (windows : Nat) :
    ((List.range windows).map (client.windowQuery event start head)).countP (·.asksFor block) =
      if start ≤ block ∧ block < windowStart start windows ∧ block ≤ head then 1 else 0 := by
  rw [List.countP_map]
  induction windows with
  | zero =>
    have : ¬ (start ≤ block ∧ block < windowStart start 0 ∧ block ≤ head) := by
      unfold windowStart
      omega
    simp [this]
  | succ windows ih =>
    rw [List.range_succ, List.countP_append, ih]
    simp only [List.countP_singleton, Function.comp_apply, windowQuery, Node.Query.asksFor,
      Bool.and_eq_true, decide_eq_true_eq]
    unfold windowEnd windowStart windowSize
    split <;> split <;> split <;> omega

/-! ## Answers -/

/-- An answer from which leaves can be read: logs, each of which decodes. -/
def Decodes (event : Abi.Event) (answer : Node.Answer) : Prop :=
  ∃ values, answer = .result (.list values) ∧ ∀ value ∈ values, ∃ log placed,
    Log.ofValue value = .ok log ∧ PlacedLeaf.ofLog event log = .ok placed

theorem decodes_iff {request : Node.Request} {answer : Node.Answer} :
    Decodes event answer ↔ ∃ leaves, resultOf request answer >>= leavesOf event = .ok leaves := by
  constructor
  · rintro ⟨values, rfl, hvalues⟩
    have hlogs : ∀ value ∈ values, ∃ log, Log.ofValue value = .ok log := by
      intro value hvalue
      obtain ⟨log, _, hlog, -⟩ := hvalues value hvalue
      exact ⟨log, hlog⟩
    obtain ⟨logs, hlogs⟩ := exists_mapM_ok hlogs
    have hplaced : ∀ log ∈ logs, ∃ placed, PlacedLeaf.ofLog event log = .ok placed := by
      intro log hlog
      obtain ⟨value, hvalue, hread⟩ := exists_of_mem_mapM hlogs hlog
      obtain ⟨_, placed, hlog', hplaced⟩ := hvalues value hvalue
      cases hread.symm.trans hlog'
      exact ⟨placed, hplaced⟩
    obtain ⟨placed, hplaced⟩ := exists_mapM_ok hplaced
    exact ⟨_, by simp only [resultOf, leavesOf, pure_bind, ok_bind, hlogs, hplaced]; rfl⟩
  · rintro ⟨leaves, hleaves⟩
    obtain ⟨v, hv, hleaves⟩ := bind_eq_ok_iff.mp hleaves
    cases v with
    | list values =>
      obtain ⟨_, ⟨⟩, hleaves⟩ := bind_eq_ok_iff.mp hleaves
      obtain ⟨logs, hlogs, hleaves⟩ := bind_eq_ok_iff.mp hleaves
      obtain ⟨placed, hplaced, -⟩ := bind_eq_ok_iff.mp hleaves
      refine ⟨values, resultOf_eq_ok.mp hv, fun value hvalue => ?_⟩
      obtain ⟨log, hmem, hlog⟩ := exists_mem_of_mapM hlogs hvalue
      obtain ⟨leaf, hleaf⟩ := exists_ok_of_mapM hplaced hmem
      exact ⟨log, leaf, hlog, hleaf⟩
    | _ => cases hleaves

/-! ## Sweeps -/

/-- What the windows of a scan come to, up to the first answer that cannot be read. -/
structure Sweeps (client : Client) (event : Abi.Event) (start head : Int) (windows : Nat)
    (asked : Node.Transcript) (result : Except Fault (List Leaf)) : Prop where
  /-- The windows are asked for in their order, from the first one on, and nothing else is. -/
  queries : asked.map Prod.fst =
    (List.range asked.length).map (client.windowQuery event start head)
  /-- No window is asked for that is not there. -/
  length_le : asked.length ≤ windows
  /-- Where all answers can be read, all windows are asked for, and there is a result. -/
  complete : (∀ entry ∈ asked, Decodes event entry.2) →
    asked.length = windows ∧ ∃ leaves, result = .ok leaves
  /-- After an answer that cannot be read nothing is asked, and there is no result. -/
  breaksOff : ∀ number entry, asked[number]? = some entry → ¬ Decodes event entry.2 →
    asked.length = number + 1 ∧ ∃ fault, result = .error fault

theorem sweeps_nil : Sweeps client event start head 0 [] (.ok []) where
  queries := rfl
  length_le := Nat.le_refl 0
  complete _ := ⟨rfl, [], rfl⟩
  breaksOff number entry h := by simp at h

/-- A first window whose answer cannot be read is the last one. -/
theorem sweeps_of_not_decodes {answer : Node.Answer} (h : ¬ Decodes event answer) (fault : Fault)
    (windows : Nat) :
    Sweeps client event start head (windows + 1)
      [(client.windowQuery event start head 0, answer)] (.error fault) where
  queries := rfl
  length_le := by simp
  complete hall := absurd (hall _ (List.mem_singleton_self _)) h
  breaksOff number entry hentry _ := by
    have hlt := (List.getElem?_eq_some_iff.mp hentry).1
    simp only [List.length_singleton] at hlt ⊢
    exact ⟨by omega, fault, rfl⟩

/-- A first window whose answer can be read stands in front of the windows behind it. -/
theorem Sweeps.cons {answer : Node.Answer} {windows : Nat} {later : Except Fault (List Leaf)}
    (hdecodes : Decodes event answer)
    (h : Sweeps client event (start + windowSize) head windows asked later)
    (join : List Leaf → List Leaf) :
    Sweeps client event start head (windows + 1)
      ((client.windowQuery event start head 0, answer) :: asked) (later.map join) where
  queries := by
    rw [List.map_cons, h.queries, List.length_cons, List.range_succ_eq_map, List.map_cons,
      List.map_map]
    congr 1
    exact List.map_congr_left fun number _ => (windowQuery_succ ..).symm
  length_le := Nat.succ_le_succ h.length_le
  complete hall := by
    obtain ⟨hlength, leaves, rfl⟩ := h.complete fun entry hentry =>
      hall entry (List.mem_cons_of_mem _ hentry)
    exact ⟨congrArg (· + 1) hlength, join leaves, rfl⟩
  breaksOff number entry hentry hnot := by
    cases number with
    | zero =>
      obtain rfl : _ = entry := by simpa using hentry
      exact absurd hdecodes hnot
    | succ number =>
      obtain ⟨hlength, fault, rfl⟩ := h.breaksOff number entry (by simpa using hentry) hnot
      exact ⟨congrArg (· + 1) hlength, fault, rfl⟩

/-- Windows from a block on are swept, whatever is answered. -/
theorem sweeps_scan (hevent : client.leafEvent = .ok event) {windows : Nat} {start : Int}
    {result : Except Fault (List Leaf)}
    (h : Runs (client.scan head start windows) chain asked result chain') :
    Sweeps client event start head windows asked result := by
  induction windows generalizing start chain asked result with
  | zero =>
    obtain ⟨rfl, rfl, -⟩ := Session.runs_pure_iff.mp h
    exact sweeps_nil
  | succ windows ih =>
    have hreads := reads_leavesIn_of_event hevent start (min (start + windowSize - 1) head)
    have hquery : client.windowQuery event start head 0 = .request client.connection
        (.logs client.address start (min (start + windowSize - 1) head) event.topic) := by
      simp [windowQuery, windowEnd, windowStart]
    rcases Session.runs_bind_iff.mp h with
      ⟨fault, rfl, hfails⟩ | ⟨first, leaves, middle, rest, rfl, hfirst, hrest⟩
    · obtain ⟨answer, rfl, hresult, -⟩ := hreads.mp hfails
      rw [← hquery]
      refine sweeps_of_not_decodes (fun hdecodes => ?_) fault windows
      obtain ⟨leaves, hleaves⟩ := decodes_iff.mp hdecodes
      cases hresult.trans hleaves
    · obtain ⟨answer, rfl, hresult, -⟩ := hreads.mp hfirst
      have hdecodes : Decodes event answer := decodes_iff.mpr ⟨leaves, hresult.symm⟩
      rw [← hquery]
      obtain ⟨later, rfl, hlater⟩ := Session.runs_map_iff.mp hrest
      exact (ih hlater).cons hdecodes _

/-- What is made of the leaves that are found does not change what is asked. -/
theorem Sweeps.map {windows : Nat} {result : Except Fault (List Leaf)}
    (h : Sweeps client event start head windows asked result) (f : List Leaf → List Leaf) :
    Sweeps client event start head windows asked (result.map f) where
  queries := h.queries
  length_le := h.length_le
  complete hall := by
    obtain ⟨hlength, leaves, rfl⟩ := h.complete hall
    exact ⟨hlength, f leaves, rfl⟩
  breaksOff number entry hentry hnot := by
    obtain ⟨hlength, fault, rfl⟩ := h.breaksOff number entry hentry hnot
    exact ⟨hlength, fault, rfl⟩

theorem Sweeps.countP_asksFor {windows : Nat} {result : Except Fault (List Leaf)}
    (h : Sweeps client event start head windows asked result) (block : Int) :
    asked.countP (·.1.asksFor block) =
      if start ≤ block ∧ block < windowStart start asked.length ∧ block ≤ head then 1 else 0 := by
  rw [← countP_windowQuery client event, ← h.queries, List.countP_map]
  rfl

/-! ## The blocks of a scan -/

/-- The windows of a scan partition the blocks from the first one to the head. -/
structure Partitions (client : Client) (event : Abi.Event) (start head : Int)
    (asked : Node.Transcript) (result : Except Fault (List Leaf)) : Prop
    extends Sweeps client event start head
      ⌈((head - start + 1 : Int) : ℚ) / (windowSize : Int)⌉₊ asked result where
  /-- No block is asked for twice, and none outside of the blocks of the scan. -/
  within : ∀ block, asked.countP (·.1.asksFor block) ≤
    if start ≤ block ∧ block ≤ head then 1 else 0
  /-- Where all answers can be read, each block of the scan is asked for once. -/
  once : (∀ entry ∈ asked, Decodes event entry.2) → ∀ block,
    asked.countP (·.1.asksFor block) = if start ≤ block ∧ block ≤ head then 1 else 0

/-- The windows that are counted reach the head. -/
theorem lt_windowStart_windowCount (start head : Int) :
    head < windowStart start (windowCount start head) := by
  unfold windowStart windowCount windowSize
  omega

theorem Sweeps.partitions {result : Except Fault (List Leaf)}
    (h : Sweeps client event start head (windowCount start head) asked result) :
    Partitions client event start head asked result := by
  refine ⟨windowCount_eq_ceil start head ▸ h, fun block => ?_, fun hall block => ?_⟩
  · rw [h.countP_asksFor]
    split <;> split <;> omega
  · have hreach := lt_windowStart_windowCount start head
    rw [h.countP_asksFor, (h.complete hall).1]
    exact if_congr (by omega) rfl rfl

/-- What an answer tells about the head of a chain. -/
def headOf (answer : Node.Answer) : Except Fault Int :=
  resultOf .blockNumber answer >>= Read.quantity

/-- Whatever a node answers, leaves are collected from the windows that partition the blocks up to
the head that the node has told. Without a head no window is asked for. -/
theorem leavesFrom_sweeps (hevent : client.leafEvent = .ok event) (deployedBlock : Int)
    (fromBlock : Option Int) (nodes : Program.Behaviour Node.Query Node.Answer)
    (history : List (Node.Query × Node.Answer)) (chain : Option Int) :
    let run := Program.runFrom nodes history
      ((client.leavesFrom deployedBlock fromBlock).start chain)
    ∃ answer asked,
      Program.askedOf run.1 = (.request client.connection .blockNumber, answer) :: asked ∧
      (∀ fault, headOf answer = .error fault → asked = [] ∧ run.2.1 = .error fault) ∧
      ∀ head, headOf answer = .ok head →
        Partitions client event (fromBlock.getD deployedBlock) head asked run.2.1 := by
  intro run
  have hrun : Runs (client.leavesFrom deployedBlock fromBlock) chain (Program.askedOf run.1)
      run.2.1 run.2.2 := Program.runs_runFrom history _
  generalize Program.askedOf run.1 = asked, run.2.1 = result, run.2.2 = chain' at hrun
  have hreads : client.Reads .blockNumber Read.quantity (client.sendForQuantity .blockNumber) :=
    reads_sendForQuantity .blockNumber
  rcases Session.runs_bind_iff.mp hrun with
    ⟨fault, rfl, hfails⟩ | ⟨first, head, middle, rest, rfl, hfirst, hrest⟩
  · obtain ⟨answer, rfl, hresult, -⟩ := hreads.mp hfails
    refine ⟨answer, [], rfl, fun fault' hfault => ?_, fun head hhead => ?_⟩
    · cases hresult.trans hfault
      exact ⟨rfl, rfl⟩
    · cases hresult.trans hhead
  · obtain ⟨answer, rfl, hresult, -⟩ := hreads.mp hfirst
    obtain ⟨found, rfl, hscan⟩ := Session.runs_map_iff.mp hrest
    refine ⟨answer, rest, rfl, fun fault hfault => ?_, fun head' hhead => ?_⟩
    · cases hresult.trans hfault
    · cases hresult.trans hhead
      exact ((sweeps_scan hevent hscan).map _).partitions

/-- Twenty thousand blocks take two windows. -/
theorem leavesFrom_sweeps_sample :
    let run := Program.runFrom (chainNode 19999 sampleLogs) []
      ((sampleRollup.leavesFrom 0 none).start none)
    ∃ answer asked, Program.askedOf run.1 = (.request 0 .blockNumber, answer) :: asked ∧
      Partitions sampleRollup Abi.depositLeafInserted 0 19999 asked run.2.1 ∧
      ⌈((19999 - 0 + 1 : Int) : ℚ) / (windowSize : Int)⌉₊ = 2 := by
  have hevent : sampleRollup.leafEvent = .ok Abi.depositLeafInserted := leafEvent_eq rfl
  obtain ⟨answer, asked, hasked, -, hpartitions⟩ :=
    leavesFrom_sweeps hevent 0 none (chainNode 19999 sampleLogs) [] none
  refine ⟨answer, asked, hasked, hpartitions 19999 ?_, ?_⟩
  · have hmem := hasked.symm ▸ List.mem_cons_self
    obtain ⟨earlier, rfl⟩ := Program.reply_of_mem_runFrom hmem
    exact Read.quantity_quantity 19999
  · rw [← windowCount_eq_ceil]
    decide

end Client

end DepositBridge
