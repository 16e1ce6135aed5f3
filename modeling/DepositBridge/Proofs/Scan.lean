import DepositBridge.Proofs.LeafLogs
import DepositBridge.Proofs.Session

/-!
# Scanning for leaves

The leaves that are collected window by window are those of all logs from the first block to the
head of the chain, by their indices (`leavesFrom_collects`). The induction is on the number of
windows: the logs of the first window come in front of those of all later ones.
-/

namespace DepositBridge.Client

open Session (Runs)

variable {client : Client} {chain chain' : Option Int} {asked : Node.Transcript}

/-! ## Lists -/

/-- What is kept for two reasons, where nothing that is kept for the first comes after what is kept
for the second. -/
theorem filter_append_filter {α : Type} {r : α → α → Prop} {p q : α → Bool} {l : List α}
    (hl : l.Pairwise r) (hr : ∀ a b, r a b → q a → p b = false) (hpq : ∀ a, p a → q a = false) :
    l.filter p ++ l.filter q = l.filter fun a => p a || q a := by
  induction l with
  | nil => rfl
  | cons a l ih =>
    obtain ⟨ha, hl⟩ := List.pairwise_cons.mp hl
    have hrest := ih hl
    by_cases hp : p a
    · simp [hp, hpq a hp, ← hrest]
    · by_cases hq : q a
      · -- after `a` nothing is kept for the first reason
        have hnone : l.filter p = [] := by
          simp only [List.filter_eq_nil_iff, Bool.not_eq_true]
          exact fun b hb => hr a b (ha b hb) hq
        rw [hnone, List.nil_append] at hrest
        simp [hp, hq, hnone, hrest]
      · simp [hp, hq, hrest]

/-! ## Windows -/

/-- The leaves of the logs in the blocks from `first` to `last`, in the order of the chain. -/
def announced (logs : List LeafLog) (first last : Int) : List Leaf :=
  (logs.filter fun log => first ≤ log.block ∧ log.block ≤ last).map LeafLog.leaf

theorem announced_append {logs : List LeafLog} (h : InChainOrder logs) {first middle last : Int}
    (hfirst : first ≤ middle) (hlast : middle ≤ last + 1) :
    announced logs first (middle - 1) ++ announced logs middle last =
      announced logs first last := by
  unfold announced
  rw [← List.map_append, filter_append_filter h]
  · congr 2
    funext log
    simp only [← Bool.decide_or, decide_eq_decide]
    omega
  · simp only [decide_eq_true_eq, decide_eq_false_iff_not]
    omega
  · simp only [decide_eq_true_eq, decide_eq_false_iff_not]
    omega

theorem announced_eq_nil {logs : List LeafLog} {first last : Int} (h : last < first) :
    announced logs first last = [] := by
  rw [announced, List.map_eq_nil_iff, List.filter_eq_nil_iff]
  intro log _
  simp only [decide_eq_true_eq]
  omega

/-! ## Nodes -/

/-- A node that tells the head of a chain, and for blocks up to the head hands out the logs of the
leaves in them. -/
structure Serves (nodes : Program.Behaviour Node.Query Node.Answer) (client : Client) (head : Nat)
    (logs : List LeafLog) : Prop where
  blockNumber : ∀ earlier, nodes earlier (.request client.connection .blockNumber) =
    .result (.text (Hex.quantity head))
  getLogs : ∀ earlier first last, 0 ≤ first → first ≤ last → last ≤ (head : Int) →
    nodes earlier (.request client.connection (.logs client.address first last Abi.leafTopic)) =
      .result (.list
        ((logs.filter fun log => first ≤ log.block ∧ log.block ≤ last).map LeafLog.value))

variable {nodes : Program.Behaviour Node.Query Node.Answer} {head : Nat} {logs : List LeafLog}

/-- A session whose queries are answered as a behaviour answers them ends in a result, and remembers
nothing new. -/
def Gives {α : Type} (nodes : Program.Behaviour Node.Query Node.Answer) (session : Session α)
    (a : α) : Prop :=
  ∀ ⦃chain asked result chain'⦄, Runs session chain asked result chain' →
    (∀ entry ∈ asked, ∃ earlier, nodes earlier entry.1 = entry.2) → result = .ok a ∧ chain' = chain

section Gives

variable {α β : Type} {session : Session α} {a : α}

theorem gives_pure (a : α) : Gives nodes (pure a) a := by
  intro chain asked result chain' hrun _
  exact (Session.runs_pure_iff.mp hrun).2

theorem Gives.bind {f : α → Session β} {b : β} (h : Gives nodes session a)
    (hf : Gives nodes (f a) b) : Gives nodes (session >>= f) b := by
  intro chain asked result chain' hrun hanswered
  rcases Session.runs_bind_iff.mp hrun with
    ⟨fault, -, hfails⟩ | ⟨first, a', middle, rest, rfl, hfirst, hrest⟩
  · cases (h hfails hanswered).1
  · obtain ⟨⟨⟩, rfl⟩ := h hfirst fun entry he => hanswered entry (by simp [he])
    exact hf hrest fun entry he => hanswered entry (by simp [he])

/-- What is read from the answer of the behaviour is the result. -/
theorem Reads.gives {request : Node.Request} {read : Value → Except Fault α} {v : Value}
    (h : client.Reads request read session)
    (hnodes : ∀ earlier, nodes earlier (.request client.connection request) = .result v)
    (hread : read v = .ok a) : Gives nodes session a := by
  intro chain asked result chain' hrun hanswered
  obtain ⟨answer, rfl, rfl, rfl⟩ := h.mp hrun
  obtain ⟨earlier, hanswer⟩ := hanswered _ (List.mem_singleton_self _)
  rw [hnodes earlier] at hanswer
  subst hanswer
  exact ⟨hread, rfl⟩

/-- Under a behaviour a session ends in what it gives. -/
theorem Gives.runFrom (h : Gives nodes session a) (history : List (Node.Query × Node.Answer))
    (chain : Option Int) :
    (Program.runFrom nodes history (session.start chain)).2 = (.ok a, chain) := by
  obtain ⟨hresult, hchain⟩ := h (Program.runs_runFrom history (session.start chain)) fun entry he =>
    Program.reply_of_mem_runFrom he
  exact Prod.ext hresult hchain

end Gives

/-! ## Scanning -/

theorem reads_leavesIn_of_event {event : Abi.Event} (hevent : client.leafEvent = .ok event)
    (first last : Int) :
    client.Reads (.logs client.address first last event.topic) (leavesOf event)
      (client.leavesIn first last) := by
  intro chain asked result chain'
  unfold leavesIn
  rw [Session.runs_note_bind_iff, hevent, Session.runs_take_bind_iff]
  simp only [reduceCtorEq, false_and, exists_false, Except.ok.injEq, exists_eq_left', false_or]
  have hread : client.Reads (.logs client.address first last event.topic) (leavesOf event)
      (client.send (.logs client.address first last event.topic) >>= fun answer =>
        Session.take (leavesOf event answer)) :=
    (reads_send _).bind fun _ => rfl
  exact @hread chain asked result chain'

theorem reads_leavesIn (hentries : client.entries = Abi.rollupEntries) (first last : Int) :
    client.Reads (.logs client.address first last Abi.leafTopic) (leavesOf Abi.depositLeafInserted)
      (client.leavesIn first last) := by
  have hread := reads_leavesIn_of_event (leafEvent_eq hentries) first last
  rwa [Abi.topic_depositLeafInserted] at hread

section Serves

variable (hentries : client.entries = Abi.rollupEntries) (hordered : InChainOrder logs)
  (hserves : Serves nodes client head logs)

include hentries hordered hserves

/-- A window gives the leaves of the logs in its blocks. -/
theorem gives_leavesIn {first last : Int} (hfirst : 0 ≤ first) (hlast : first ≤ last)
    (hhead : last ≤ head) : Gives nodes (client.leavesIn first last) (announced logs first last) :=
  (reads_leavesIn hentries first last).gives
    (fun earlier => hserves.getLogs earlier first last hfirst hlast hhead)
    (leavesOf_values (hordered.filter _))

/-- Windows give the leaves of the logs in all their blocks, as long as the last one of them starts
on the chain. -/
theorem gives_scan {windows : Nat} {start : Int} (hstart : 0 ≤ start)
    (hhead : windows ≠ 0 → windows * windowSize ≤ head - start + windowSize) :
    Gives nodes (client.scan head start windows)
      (announced logs start (min (start + windows * windowSize - 1) head)) := by
  -- the start moves on by a window, and the first window's logs stand in front of the later ones'
  induction windows generalizing start with
  | zero =>
    rw [announced_eq_nil (by omega)]
    exact gives_pure []
  | succ windows ih =>
    have hcount := hhead (Nat.succ_ne_zero _)
    rw [Int.natCast_succ, Int.add_mul, Int.one_mul] at hcount ⊢
    have hsize : windowSize = 10000 := rfl
    have hnonneg : 0 ≤ (windows : Int) * windowSize := Int.mul_nonneg (by omega) (by omega)
    have hwindow := gives_leavesIn hentries hordered hserves hstart
      (show start ≤ min (start + windowSize - 1) head by omega) (by omega)
    have hlater := ih (show 0 ≤ start + windowSize by omega) fun _ => by omega
    have hjoined : announced logs start (min (start + windowSize - 1) head) ++
        announced logs (start + windowSize)
          (min (start + windowSize + windows * windowSize - 1) head) =
        announced logs start (min (start + (windows * windowSize + windowSize) - 1) head) := by
      by_cases hfull : start + windowSize - 1 ≤ head
      · rw [Int.min_eq_left hfull, announced_append hordered (by omega) (by omega)]
        congr 2
        omega
      · -- the window reaches the head, so there is no later one
        have hbeyond : (head : Int) < start + windowSize := by omega
        rw [announced_eq_nil (Int.lt_of_le_of_lt (Int.min_le_right _ _) hbeyond), List.append_nil]
        congr 1
        omega
    rw [← hjoined]
    exact hwindow.bind (hlater.bind (gives_pure _))

/-- As many windows as are counted give the leaves of all logs up to the head. -/
theorem gives_scan_windowCount {start : Int} (hstart : 0 ≤ start) :
    Gives nodes (client.scan head start (windowCount start head)) (announced logs start head) := by
  by_cases hon : start ≤ head
  · have hlast : windowCount start head * windowSize ≤ head - start + windowSize := by
      unfold windowCount windowSize
      omega
    have hcovers : (head : Int) ≤ start + windowCount start head * windowSize - 1 := by
      unfold windowCount windowSize
      omega
    have hscan := gives_scan hentries hordered hserves hstart fun _ => hlast
    rwa [Int.min_eq_right hcovers] at hscan
  · have hnone : windowCount start head = 0 := by
      unfold windowCount windowSize
      omega
    rw [hnone, announced_eq_nil (by omega)]
    exact gives_pure []

end Serves

/-! ## Sorting -/

/-- What it is to collect leaves: each one is there as often as it was announced, they are in the
order of their indices, and those of one index in the order in which they were announced. -/
structure Collects (announced leaves : List Leaf) : Prop where
  perm : leaves.Perm announced
  sorted : leaves.Pairwise fun a b => a.index ≤ b.index
  stable : ∀ index, leaves.filter (·.index = index) = announced.filter (·.index = index)

theorem collects_mergeSort (announced : List Leaf) :
    Collects announced (announced.mergeSort fun a b => a.index ≤ b.index) := by
  have htrans : ∀ a b c : Leaf, decide (a.index ≤ b.index) → decide (b.index ≤ c.index) →
      decide (a.index ≤ c.index) := by
    simp only [decide_eq_true_eq]
    exact fun _ _ _ => Int.le_trans
  have htotal : ∀ a b : Leaf, decide (a.index ≤ b.index) || decide (b.index ≤ a.index) := by
    simp only [Bool.or_eq_true, decide_eq_true_eq]
    exact fun a b => Int.le_total a.index b.index
  have hperm := List.mergeSort_perm announced fun a b => decide (a.index ≤ b.index)
  refine ⟨hperm, ?_, fun index => ?_⟩
  · simpa using List.pairwise_mergeSort htrans htotal announced
  · -- the leaves of an index are sorted already, so sorting keeps them in their order
    have hsame : (announced.filter (·.index = index)).Pairwise
        fun a b => decide (a.index ≤ b.index) := by
      refine List.pairwise_of_forall_mem_list fun a ha b hb => ?_
      simp only [List.mem_filter, decide_eq_true_eq] at ha hb ⊢
      omega
    have hsub := (List.sublist_mergeSort htrans htotal hsame List.filter_sublist).filter
      (·.index = index)
    simp only [List.filter_filter, Bool.and_self] at hsub
    exact (hsub.eq_of_length (hperm.filter _).length_eq.symm).symm

theorem eq_of_filter_eq {l l' : List Leaf} (hl : l.Pairwise fun a b => a.index ≤ b.index)
    (hl' : l'.Pairwise fun a b => a.index ≤ b.index)
    (h : ∀ index, l.filter (·.index = index) = l'.filter (·.index = index)) : l = l' := by
  induction l generalizing l' with
  | nil =>
    cases l' with
    | nil => rfl
    | cons b l' => simpa using h b.index
  | cons a l ih =>
    cases l' with
    | nil => simpa using h a.index
    | cons b l' =>
      obtain ⟨ha, hrest⟩ := List.pairwise_cons.mp hl
      obtain ⟨hb, hrest'⟩ := List.pairwise_cons.mp hl'
      -- each head is in the other list too, so neither index is above the other
      have hsame : a.index = b.index := by
        have hmem : a ∈ (b :: l').filter (·.index = a.index) := by simp [← h a.index]
        have hmem' : b ∈ (a :: l).filter (·.index = b.index) := by simp [h b.index]
        simp only [List.mem_filter, List.mem_cons, decide_eq_true_eq] at hmem hmem'
        rcases hmem.1 with rfl | hmem
        · rfl
        · rcases hmem'.1 with rfl | hmem'
          · rfl
          · exact Int.le_antisymm (ha b hmem') (hb a hmem)
      have hheads : a :: l.filter (·.index = a.index) = b :: l'.filter (·.index = a.index) := by
        simpa [hsame] using h a.index
      obtain ⟨rfl, -⟩ := List.cons.inj hheads
      refine congrArg (a :: ·) (ih hrest hrest' fun index => ?_)
      have hindex := h index
      by_cases hown : a.index = index
      · simpa [hown] using hindex
      · simpa [hown] using hindex

/-- There is one way only to collect leaves. -/
theorem Collects.unique {announced leaves other : List Leaf} (h : Collects announced leaves)
    (hother : Collects announced other) : other = leaves :=
  eq_of_filter_eq hother.sorted h.sorted fun index =>
    (hother.stable index).trans (h.stable index).symm

/-! ## The leaves of a chain -/

/-- Over a node that serves a chain the leaves of all logs from the start to the head are collected:
from the given block on, or without one from the block in which the contract was deployed. -/
theorem leavesFrom_collects (hentries : client.entries = Abi.rollupEntries)
    (hordered : InChainOrder logs) (hserves : Serves nodes client head logs) {deployedBlock : Int}
    {fromBlock : Option Int} (hstart : 0 ≤ fromBlock.getD deployedBlock)
    (history : List (Node.Query × Node.Answer)) (chain : Option Int) :
    ∃ leaves, (Program.runFrom nodes history
        ((client.leavesFrom deployedBlock fromBlock).start chain)).2 = (.ok leaves, chain) ∧
      Collects (announced logs (fromBlock.getD deployedBlock) head) leaves ∧
      ∀ other, Collects (announced logs (fromBlock.getD deployedBlock) head) other →
        other = leaves := by
  generalize hblock : fromBlock.getD deployedBlock = start at hstart
  have hhead : Gives nodes (client.sendForQuantity .blockNumber) (head : Int) :=
    (reads_sendForQuantity .blockNumber).gives hserves.blockNumber (Read.quantity_quantity head)
  have hscan := gives_scan_windowCount hentries hordered hserves hstart
  have hcollects := collects_mergeSort (announced logs start head)
  refine ⟨_, Gives.runFrom ?_ history chain, hcollects, fun _ => hcollects.unique⟩
  rw [leavesFrom, hblock]
  exact hhead.bind (hscan.bind (gives_pure _))

/-- The log of a leaf, in its block the only one. -/
def sampleLog (index block : Nat) (h : index < 2 ^ 32) : LeafLog where
  index := index
  hash := List.replicate 32 7
  block := block
  place := 0
  members := [("address", .text Address.zero.text),
    ("topics", .list ([Abi.leafTopic, Octets.ofNatWidth 32 index, List.replicate 32 7].map
      fun topic => .text (Hex.encodeMarked topic))),
    ("data", .text "0x"),
    ("blockNumber", .text (Hex.quantity block)),
    ("transactionHash", .text (Hex.encodeMarked (List.replicate 32 1))),
    ("transactionIndex", .text (Hex.quantity 0)),
    ("blockHash", .text (Hex.encodeMarked (List.replicate 32 2))),
    ("logIndex", .text (Hex.quantity 0)),
    ("removed", .bool false)]
  index_lt := h
  length_hash := rfl
  nodup := by simp
  topics := by simp
  data := by simp
  blockNumber := by simp
  logIndex := by simp
  transactionIndex := ⟨0, by simp⟩
  origin := by simp

/-- Logs at the edges of windows, two of them of one index. -/
def sampleLogs : List LeafLog :=
  [sampleLog 1 0 (by decide), sampleLog 0 9999 (by decide), sampleLog 1 10000 (by decide),
    sampleLog 2 20005 (by decide)]

/-- A node that does nothing but serve a chain. -/
def chainNode (head : Nat) (logs : List LeafLog) : Program.Behaviour Node.Query Node.Answer
  | _, .request _ .blockNumber => .result (.text (Hex.quantity head))
  | _, .request _ (.logs _ first last _) =>
    .result (.list
      ((logs.filter fun log => first ≤ log.block ∧ log.block ≤ last).map LeafLog.value))
  | _, _ => .result .null

/-- The client of a rollup contract that has no wallet. -/
def sampleRollup : Client :=
  ⟨0, "http://127.0.0.1:8546", .zero, none, Abi.rollupEntries, .standard⟩

/-- A scan from the first block on takes three windows, although the contract was deployed later. -/
theorem leavesFrom_collects_sample :
    let collected := announced sampleLogs 0 20005
    ∃ leaves, (Program.runFrom (chainNode 20005 sampleLogs) []
        ((sampleRollup.leavesFrom 100 (some 0)).start none)).2 = (.ok leaves, none) ∧
      Collects collected leaves ∧ ∀ other, Collects collected other → other = leaves :=
  leavesFrom_collects rfl (by simp [InChainOrder, sampleLogs, sampleLog])
    ⟨fun _ => rfl, fun _ _ _ _ _ _ => rfl⟩ (by simp) [] none

end DepositBridge.Client
