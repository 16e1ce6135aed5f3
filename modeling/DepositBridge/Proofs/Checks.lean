import DepositBridge.Proofs.CommandLine
import DepositBridge.Proofs.Scan

/-!
# Checks before requests

A command sends nothing to a node before its settings, the interfaces that it uses and, for a
deposit, the request and its key have been accepted. A command that fails has written nothing, but
for a listing: its lines are written one by one, so those in front of a leaf whose number has too
many digits are out when the listing breaks off (`run_checksFirst`, `run_breaksOff`).
-/

namespace DepositBridge.CommandLine

open Bridge (Talk take)
open Program (Asks Runs askedOf)

variable {tree : FileTree} {environment : EnvFile.Environment} {invocation : Invocation}
  {settings : Settings} {asked : Node.Transcript}

/-! ## What is checked -/

/-- What a command needs besides settings: the interfaces of the contracts that it calls and, for a
deposit, a request that is accepted and whose key makes a wallet. -/
def Command.Passes (tree : FileTree) (settings : Settings) : Command → Prop
  | .deposit order =>
    (∃ request wallet, Request.ofDraft (order.draft settings) = .ok request ∧
      Wallet.ofKey (.text request.privateKey) = .ok wallet) ∧
    (∃ entries, Abi.load tree Abi.liquidityName settings.abiDirectory = .ok entries) ∧
    ∃ entries, Abi.load tree Abi.rollupName settings.abiDirectory = .ok entries
  | .leaves _ => ∃ entries, Abi.load tree Abi.rollupName settings.abiDirectory = .ok entries

theorem load_of_loadEntries {name : String} {directory : Option Path} {entries : List Value}
    (h : Bridge.loadEntries tree name directory = .ok entries) :
    ∃ entries, Abi.load tree name directory = .ok entries :=
  ⟨entries, mapError_eq_ok_iff.mp h⟩

/-! ## Opening connections -/

/-- Whether a query opens a connection. -/
def Opens (query : Node.Query) : Prop := ∃ connection url, query = .connect connection url

/-- Whether more is asked than that connections are opened. -/
def Sends (asked : Node.Transcript) : Prop := ∃ entry ∈ asked, ¬ Opens entry.1

theorem not_sends {α : Type} {p : Node.Talk α} {a : α} (h : p.Asks Opens)
    (hrun : Runs p asked a) : ¬ Sends asked :=
  fun ⟨entry, hentry, hsends⟩ => hsends (h hrun entry hentry)

theorem asks_take {α : Type} (r : Except Failure α) : (take r).run.Asks Opens :=
  Program.asks_of_asked_nil fun _ _ h => (Bridge.runs_take_iff.mp h).1

theorem asks_connectContract (connection : Nat) (url : Url) (address : Address)
    (wallet : Option Wallet) (entries : List Value) :
    (Bridge.connectContract connection url address wallet entries).run.Asks Opens := by
  have hconnect : (Bridge.connect connection url.text).run.Asks Opens := by
    refine .attempt_bind (.lift ?_) fun _ => Program.asks_done _
    exact (Program.asks_query _).mono fun _ hquery => ⟨connection, url.text, hquery⟩
  exact .attempt_bind hconnect fun _ => asks_take _

theorem asks_connectRollup (connection : Nat) (tree : FileTree) (endpoints : Bridge.Endpoints) :
    (Bridge.connectRollup connection tree endpoints).run.Asks Opens :=
  .attempt_bind (asks_take _) fun _ => asks_connectContract _ _ _ _ _

theorem asks_build (tree : FileTree) (endpoints : Bridge.Endpoints) (key : Value) :
    (Bridge.build tree endpoints key).run.Asks Opens := by
  refine .attempt_bind (asks_take _) fun wallet => ?_
  refine .attempt_bind (asks_take _) fun entries => ?_
  refine .attempt_bind (asks_connectContract _ _ _ _ _) fun liquidity => ?_
  exact .attempt_bind (asks_connectRollup _ _ _) fun rollup => Program.asks_done _

/-! ## Commands -/

/-- A deposit sends requests only when everything has been accepted. -/
theorem passes_of_deposit {order : DepositOrder} {result : Except Failure String}
    (h : Runs (deposit tree settings order).run asked result) (hsends : Sends asked) :
    (Command.deposit order).Passes tree settings := by
  simp only [deposit, Bridge.depositOnce, bind_assoc] at h
  rcases Program.runs_attempt_bind_iff.mp h with ⟨_, -, hfails⟩ | ⟨_, request, _, rfl, htake, h₁⟩
  · exact absurd hsends (not_sends (asks_take _) hfails)
  obtain ⟨rfl, hrequest⟩ := Bridge.runs_take_iff.mp htake
  rcases Program.runs_attempt_bind_iff.mp h₁ with ⟨_, -, hfails⟩ | ⟨_, bridge, _, -, hbuilt, -⟩
  · exact absurd hsends (not_sends (asks_build _ _ _) hfails)
  obtain ⟨wallet, _, _, hwallet, hliquidity, hrollup, -⟩ := Bridge.runs_build_loaded hbuilt
  exact ⟨⟨request, wallet, mapError_eq_ok_iff.mp hrequest.symm, hwallet⟩,
    load_of_loadEntries hliquidity, load_of_loadEntries hrollup⟩

/-- The ways in which a listing can go: it ends before anything is sent, or the leaves that a client
of the rollup collects are written. -/
theorem runs_leaves {fromBlock : Option Int} {result : Except Failure Printout}
    (h : Runs (leaves tree settings fromBlock).run asked result) :
    (∃ failure, result = .error failure ∧
      Runs (Bridge.connectRollup 0 tree (.ofSettings settings)).run asked (.error failure)) ∨
    ∃ opening client scanned found chain closing, asked = opening ++ (scanned ++ closing) ∧
      Runs (Bridge.connectRollup 0 tree (.ofSettings settings)).run opening (.ok client) ∧
      (client.leavesFrom settings.deployedBlock fromBlock).Runs (some settings.l2ChainId) scanned
        found chain ∧
      result = (found.map listing).mapError .client := by
  rcases Program.runs_attempt_bind_iff.mp h with
    ⟨failure, rfl, hfails⟩ | ⟨opening, client, _, rfl, hclient, h₁⟩
  · exact .inl ⟨failure, rfl, hfails⟩
  rcases Program.runs_attempt_bind_iff.mp h₁ with ⟨_, -, hlift⟩ | ⟨scanned, r, _, rfl, hlift, h₂⟩
  · obtain ⟨_, ⟨⟩, -⟩ := Program.runs_lift_iff.mp hlift
  obtain ⟨_, ⟨⟩, hscan⟩ := Program.runs_lift_iff.mp hlift
  obtain ⟨found, chain⟩ := r
  rcases Program.runs_attempt_bind_iff.mp h₂ with ⟨_, -, hclose⟩ | ⟨closing, _, _, rfl, -, h₃⟩
  · obtain ⟨_, ⟨⟩, -⟩ := Program.runs_lift_iff.mp hclose
  refine .inr ⟨opening, client, scanned, found, chain, _, rfl, hclient, hscan, ?_⟩
  cases found with
  | ok found => exact (Program.runs_done_iff.mp h₃).2
  | error fault => exact (Program.runs_done_iff.mp h₃).2

/-- A listing sends requests only when the interface of the rollup has been loaded. -/
theorem passes_of_leaves {fromBlock : Option Int} {result : Except Failure Printout}
    (h : Runs (leaves tree settings fromBlock).run asked result) (hsends : Sends asked) :
    (Command.leaves fromBlock).Passes tree settings := by
  rcases runs_leaves h with ⟨_, -, hfails⟩ | ⟨_, client, _, _, _, _, -, hclient, -⟩
  · exact absurd hsends (not_sends (asks_connectRollup _ _ _) hfails)
  · obtain ⟨entries, hload, -⟩ := Bridge.runs_connectRollup_ok hclient
    exact load_of_loadEntries hload

/-- A command is carried out with the settings of its environment, if there are any. -/
theorem runs_perform {result : Except Failure Printout}
    (h : Runs (perform tree environment invocation).run asked result) :
    (∃ failure, settingsFor tree invocation.envFile environment = .error failure ∧ asked = [] ∧
      result = .error failure) ∨
    ∃ settings, settingsFor tree invocation.envFile environment = .ok settings ∧
      ((∃ order told, invocation.command = .deposit order ∧
          Runs (deposit tree settings order).run asked told ∧ result = told.map (⟨·, none⟩)) ∨
        ∃ fromBlock, invocation.command = .leaves fromBlock ∧
          Runs (leaves tree settings fromBlock).run asked result) := by
  rcases Program.runs_attempt_bind_iff.mp h with
    ⟨failure, rfl, hfails⟩ | ⟨_, settings, _, rfl, htake, h₁⟩
  · obtain ⟨hasked, hsettings⟩ := Bridge.runs_take_iff.mp hfails
    exact .inl ⟨failure, hsettings.symm, hasked, rfl⟩
  obtain ⟨rfl, hsettings⟩ := Bridge.runs_take_iff.mp htake
  refine .inr ⟨settings, hsettings.symm, ?_⟩
  cases hcommand : invocation.command with
  | leaves fromBlock =>
    rw [hcommand] at h₁
    exact .inr ⟨fromBlock, rfl, h₁⟩
  | deposit order =>
    simp only [hcommand, map_eq_pure_bind] at h₁
    rcases Program.runs_attempt_bind_iff.mp h₁ with
      ⟨failure, rfl, hfails⟩ | ⟨_, text, _, rfl, hdeposit, hpure⟩
    · exact .inl ⟨order, _, rfl, hfails, rfl⟩
    · obtain ⟨rfl, rfl⟩ := Program.runs_done_iff.mp hpure
      rw [List.append_nil]
      exact .inl ⟨order, _, rfl, hdeposit, rfl⟩

theorem passes_of_perform {result : Except Failure Printout}
    (h : Runs (perform tree environment invocation).run asked result) (hsends : Sends asked) :
    ∃ settings, settingsFor tree invocation.envFile environment = .ok settings ∧
      invocation.command.Passes tree settings := by
  rcases runs_perform h with ⟨_, -, rfl, -⟩ | ⟨settings, hsettings, hcommand⟩
  · obtain ⟨_, ⟨⟩, -⟩ := hsends
  refine ⟨settings, hsettings, ?_⟩
  rcases hcommand with ⟨order, _, hcommand, hdeposit, -⟩ | ⟨fromBlock, hcommand, hleaves⟩
  · rw [hcommand]
    exact passes_of_deposit hdeposit hsends
  · rw [hcommand]
    exact passes_of_leaves hleaves hsends

/-! ## Writing -/

/-- Whether a number has too many digits to be written. -/
def IsLong (n : Int) : Prop := Nat.pow 10 Numeral.digitLimit ≤ n.natAbs

theorem write_eq_error_iff {n : Int} {fault : Numeral.Fault} :
    Numeral.write n = .error fault ↔ IsLong n ∧ fault = .tooLarge := by
  unfold Numeral.write IsLong
  split
  · next hsmall => exact ⟨nofun, fun h => absurd h.1 (Nat.not_le.mpr hsmall)⟩
  · next hlarge => exact ⟨fun h => ⟨Nat.not_lt.mp hlarge, by cases h; rfl⟩, fun h => by rw [h.2]⟩

/-- Whether a number of a leaf has too many digits to be written. -/
def HasLongNumber (leaf : Leaf) : Prop := IsLong leaf.index ∨ IsLong leaf.block

/-- Lines of leaves are out, but a number of the leaf that follows has too many digits. -/
def BreaksOff (leaves : List Leaf) (output : String) : Prop :=
  ∃ before leaf after lines, leaves = before ++ leaf :: after ∧
    before.mapM leafLine = .ok lines ∧ output = String.join lines ∧ HasLongNumber leaf

/-- The line of a leaf cannot be written exactly if one of its numbers is too long. -/
theorem leafLine_eq_error_iff {leaf : Leaf} {fault : Numeral.Fault} :
    leafLine leaf = .error fault ↔ HasLongNumber leaf ∧ fault = .tooLarge := by
  have hshort {n : Int} {digits : String} (h : Numeral.write n = .ok digits) : ¬ IsLong n :=
    fun hlong => nomatch h.symm.trans (write_eq_error_iff.mpr ⟨hlong, rfl⟩)
  unfold leafLine alignRight HasLongNumber
  cases hindex : Numeral.write leaf.index with
  | error _ =>
    obtain ⟨hlong, rfl⟩ := write_eq_error_iff.mp hindex
    simp [hlong, eq_comm, Except.map, bind, Except.bind]
  | ok digits =>
    cases hblock : Numeral.write leaf.block with
    | error _ =>
      obtain ⟨hlong, rfl⟩ := write_eq_error_iff.mp hblock
      simp [hlong, eq_comm, Except.map, bind, Except.bind]
    | ok block =>
      simp [hshort hindex, hshort hblock, Except.map, bind, Except.bind, pure, Except.pure]

/-- Lines that are written up to a fault are those of the leaves in front of the one at fault. -/
theorem breaksOff_of_printLines {leaves : List Leaf} {last text : String} {fault : Numeral.Fault}
    (h : printLines (leaves.map leafLine ++ [.ok last]) = ⟨text, some fault⟩) :
    BreaksOff leaves text := by
  induction leaves generalizing text with
  | nil => cases h
  | cons leaf rest ih =>
    cases hline : leafLine leaf with
    | error fault' =>
      simp only [List.map_cons, List.cons_append, hline, printLines, Printout.mk.injEq] at h
      obtain ⟨rfl, -⟩ := h
      exact ⟨[], leaf, rest, [], rfl, rfl, rfl, (leafLine_eq_error_iff.mp hline).1⟩
    | ok line =>
      simp only [List.map_cons, List.cons_append, hline, printLines, Printout.mk.injEq] at h
      obtain ⟨rfl, hfault⟩ := h
      obtain ⟨before, leaf', after, lines, rfl, hlines, htext, hlong⟩ := ih (by rw [← hfault])
      have hmore : (leaf :: before).mapM leafLine = .ok (line :: lines) :=
        mapM_eq_ok_iff.mpr (.cons hline (mapM_eq_ok_iff.mp hlines))
      exact ⟨leaf :: before, leaf', after, line :: lines, rfl, hmore,
        by rw [htext, String.join_cons], hlong⟩

/-- The exit code and the output of what comes of a command. -/
def exitOf : Except Failure Printout → Except Failure (Nat × String)
  | .ok ⟨text, none⟩ => .ok (0, text)
  | .ok ⟨text, some _⟩ => .ok (1, text)
  | .error failure => if failure.isReported then .ok (1, "") else .error failure

/-- Reporting what comes of a command asks nothing. -/
theorem runs_report {outcome : Except Failure Printout} {result : Except Failure (Nat × String)}
    (h : Runs (report outcome) asked result) : asked = [] ∧ result = exitOf outcome := by
  match outcome with
  | .ok ⟨text, none⟩ => exact Program.runs_done_iff.mp h
  | .ok ⟨text, some fault⟩ => exact Program.runs_done_iff.mp (Program.runs_note_iff.mp h)
  | .error failure =>
    cases hreported : failure.isReported with
    | true =>
      simp only [report, exitOf, hreported, if_true] at h ⊢
      exact Program.runs_done_iff.mp (Program.runs_note_iff.mp h)
    | false =>
      simp only [report, exitOf, hreported, Bool.false_eq_true, if_false] at h ⊢
      exact Program.runs_done_iff.mp h

theorem runs_run {result : Except Failure (Nat × String)}
    (h : Runs (run tree environment invocation).run asked result) :
    ∃ outcome, Runs (perform tree environment invocation).run asked outcome ∧
      result = exitOf outcome := by
  obtain ⟨first, outcome, rest, rfl, hperform, hreport⟩ := Program.runs_bind_iff.mp h
  obtain ⟨rfl, rfl⟩ := runs_report hreport
  exact ⟨outcome, by rwa [List.append_nil], rfl⟩

/-! ## Checks come first -/

/-- The command is a listing that breaks off: of the leaves that its client has collected, those in
front of one whose number has too many digits are written. -/
def ListingBreaksOff (tree : FileTree) (environment : EnvFile.Environment)
    (invocation : Invocation) (asked : Node.Transcript) (output : String) : Prop :=
  ∃ fromBlock settings client opening scanned closing found chain,
    invocation.command = .leaves fromBlock ∧
    settingsFor tree invocation.envFile environment = .ok settings ∧
    asked = opening ++ (scanned ++ closing) ∧
    (Client.leavesFrom client settings.deployedBlock fromBlock).Runs (some settings.l2ChainId)
      scanned (.ok found) chain ∧
    BreaksOff found output

/-- What is asked and written by a command. -/
structure ChecksFirst (tree : FileTree) (environment : EnvFile.Environment)
    (invocation : Invocation) (asked : Node.Transcript)
    (result : Except Failure (Nat × String)) : Prop where
  /-- A node is sent a request only when all checks have passed. -/
  checked : ∀ connection request answer, (.request connection request, answer) ∈ asked →
    ∃ settings, settingsFor tree invocation.envFile environment = .ok settings ∧
      invocation.command.Passes tree settings
  /-- With an exit code other than zero nothing has been written, but for a listing that breaks
  off. -/
  silent : ∀ code output, result = .ok (code, output) → code ≠ 0 →
    output = "" ∨ ListingBreaksOff tree environment invocation asked output

/-- A printout that is cut off is the one of a listing. -/
theorem listingBreaksOff_of_perform {text : String} {fault : Numeral.Fault}
    (h : Runs (perform tree environment invocation).run asked (.ok ⟨text, some fault⟩)) :
    ListingBreaksOff tree environment invocation asked text := by
  rcases runs_perform h with ⟨_, -, -, ⟨⟩⟩ | ⟨settings, hsettings, hcommand⟩
  rcases hcommand with ⟨_, told, -, -, htold⟩ | ⟨fromBlock, hcommand, hleaves⟩
  · -- a deposit is told in one piece
    obtain ⟨_, -, hprintout⟩ := map_eq_ok_iff.mp htold.symm
    cases hprintout
  · rcases runs_leaves hleaves with
      ⟨_, ⟨⟩, -⟩ | ⟨opening, client, scanned, found, chain, closing, rfl, -, hscan, hresult⟩
    obtain ⟨found, rfl, hlisting⟩ := map_eq_ok_iff.mp (mapError_eq_ok_iff.mp hresult.symm)
    exact ⟨fromBlock, settings, client, opening, scanned, closing, found, chain, hcommand,
      hsettings, rfl, hscan, breaksOff_of_printLines hlisting⟩

/-- Whatever the nodes answer, a command sends its first request when all checks have passed, and
has written nothing if it ends with an exit code other than zero, unless a listing breaks off. -/
theorem run_checksFirst (tree : FileTree) (environment : EnvFile.Environment)
    (invocation : Invocation) (nodes : Program.Behaviour Node.Query Node.Answer)
    (history : List (Node.Query × Node.Answer)) :
    let run := Program.runFrom nodes history (run tree environment invocation).run
    ChecksFirst tree environment invocation (askedOf run.1) run.2 := by
  intro run
  obtain ⟨outcome, hperform, hresult⟩ := runs_run (Program.runs_runFrom history _)
  constructor
  · intro connection request answer hmem
    exact passes_of_perform hperform ⟨_, hmem, by simp [Opens]⟩
  · intro code output hexit hcode
    have hexit : exitOf outcome = .ok (code, output) := hresult.symm.trans hexit
    match outcome with
    | .ok ⟨text, none⟩ =>
      cases hexit
      exact absurd rfl hcode
    | .ok ⟨text, some fault⟩ =>
      cases hexit
      exact .inr (listingBreaksOff_of_perform hperform)
    | .error failure =>
      simp only [exitOf] at hexit
      split at hexit
      · cases hexit
        exact .inl rfl
      · cases hexit

/-! ## A listing that breaks off -/

/-- The number of a block, with thirty-six hundred hexadecimal digits. -/
def farBlock : Nat := Nat.pow 16 3600 - 1

theorem zero_lt_indices : 0 < 2 ^ 32 := by decide

theorem one_lt_indices : 1 < 2 ^ 32 := by decide

/-- The log of a leaf. -/
def nearLog : Client.LeafLog := Client.sampleLog 0 4 zero_lt_indices

/-- The log of a leaf that says that it is in a block far away. -/
def farLog : Client.LeafLog := Client.sampleLog 1 farBlock one_lt_indices

/-- The two logs. -/
def farLogs : List Client.LeafLog := [nearLog, farLog]

/-- A node that hands out these two logs for all blocks. -/
def farNode : Program.Behaviour Node.Query Node.Answer
  | _, .request _ .blockNumber => .result (.text (Hex.quantity 42))
  | _, .request _ (.logs ..) => .result (.list (farLogs.map Client.LeafLog.value))
  | _, _ => .result .null

/-- The leaves of the two logs. -/
def farLeaves : List Leaf := farLogs.map Client.LeafLog.leaf

theorem gives_farLeaves {client : Client} (hentries : client.entries = Abi.rollupEntries) :
    Client.Gives farNode (client.leavesFrom 0 none) farLeaves := by
  have hordered : Client.InChainOrder farLogs := by
    have hblocks : 4 < farBlock := by decide +kernel
    simp only [Client.InChainOrder, farLogs, nearLog, farLog, Client.sampleLog, List.pairwise_pair]
    exact .inl hblocks
  have hhead : Client.Gives farNode (client.sendForQuantity .blockNumber) 42 :=
    (Client.reads_sendForQuantity .blockNumber).gives (fun _ => rfl)
      (Client.Read.quantity_quantity 42)
  have hwindow : Client.Gives farNode (client.leavesIn 0 42) farLeaves :=
    (Client.reads_leavesIn hentries 0 42).gives (fun _ => rfl) (Client.leavesOf_values hordered)
  have hscan : Client.Gives farNode (client.scan 42 0 1) farLeaves := by
    rw [← List.append_nil farLeaves]
    exact hwindow.bind ((Client.gives_pure []).bind (Client.gives_pure _))
  have hsorted : farLeaves.mergeSort (fun a b => a.index ≤ b.index) = farLeaves :=
    List.mergeSort_of_pairwise (List.pairwise_pair.mpr (decide_eq_true (Int.zero_le_ofNat 1)))
  rw [← hsorted]
  exact hhead.bind (hscan.bind (Client.gives_pure _))

/-- The line of the first leaf. -/
def nearLine : String :=
  "     0  0x0707070707070707070707070707070707070707070707070707070707070707  block 4\n"

/-- The first leaf can be written, the second one cannot. -/
theorem listing_farLeaves : listing farLeaves = ⟨nearLine, some .tooLarge⟩ := by
  have hnear : leafLine nearLog.leaf = .ok nearLine := by
    obtain ⟨line, hline, rfl⟩ := exists_ok_of_map (f := id)
      (show (leafLine nearLog.leaf).toOption.map id = some nearLine by decide +kernel)
    exact hline
  have hlong : IsLong farLog.leaf.block := Nat.le_of_lt_succ (by decide +kernel)
  have hfar : leafLine farLog.leaf = .error .tooLarge :=
    leafLine_eq_error_iff.mpr ⟨.inr hlong, rfl⟩
  simp only [listing, farLeaves, farLogs, List.map_cons, hnear, hfar, List.cons_append, printLines,
    String.append_empty]

/-- With the built-in interface a client of the rollup is made whatever its node answers. -/
theorem runs_connectRollup_bundled {connection : Nat} {endpoints : Bridge.Endpoints}
    {result : Except Failure Client} (hbundled : endpoints.abiDirectory = none)
    (h : Runs (Bridge.connectRollup connection tree endpoints).run asked result) :
    result = .ok ⟨connection, endpoints.l2Url.text, endpoints.rollupAddress, none,
      Abi.rollupEntries, .standard⟩ := by
  simp only [Bridge.connectRollup, Bridge.connectContract, Client.ofInterface,
    Bridge.loadEntries_rollup hbundled, Bridge.checkEntries_rollup, Except.map, Except.mapError,
    Bridge.take_ok, pure_bind] at h
  cases h with
  | ask hdone => exact (Program.runs_done_iff.mp hdone).2

theorem deployedBlock_sampleEnvironment :
    (Settings.ofEnvironment sampleEnvironment).toOption.map (·.deployedBlock) = some 0 := by
  decide +kernel

/-- The line of the first leaf is out although the listing fails. -/
theorem run_breaksOff :
    ∃ invocation, Invocation.ofArguments ["leaves"] = .ok invocation ∧
      (Program.runFrom farNode [] (run .empty sampleEnvironment invocation).run).2 =
        .ok (1, nearLine) := by
  refine ⟨⟨false, ".env", .leaves none⟩, by decide +kernel, ?_⟩
  have hfile : FileTree.empty.read? (Path.ofText ".env") = none := by decide +kernel
  obtain ⟨settings, hsettings, hdeployed⟩ := exists_ok_of_map deployedBlock_sampleEnvironment
  have hbundled : settings.abiDirectory = none :=
    Settings.abiDirectory_eq_none hsettings (by decide +kernel)
  obtain ⟨outcome, hperform, hresult⟩ := runs_run (@Program.runs_runFrom _ _ _ farNode [] _)
  rw [hresult]
  rcases runs_perform hperform with ⟨_, hfails, -, -⟩ | ⟨settings', hsettings', hcommand⟩
  · cases hfails.symm.trans (settingsFor_eq hsettings hfile)
  cases hsettings'.symm.trans (settingsFor_eq hsettings hfile)
  obtain ⟨_, _, ⟨⟩, -⟩ | ⟨_, ⟨⟩, hleaves⟩ := hcommand
  rcases runs_leaves hleaves with
    ⟨_, -, hfails⟩ | ⟨opening, client, scanned, found, chain, closing, hasked, hclient, hscan, rfl⟩
  · cases runs_connectRollup_bundled hbundled hfails
  cases runs_connectRollup_bundled hbundled hclient
  rw [hdeployed] at hscan
  obtain ⟨rfl, -⟩ := gives_farLeaves rfl hscan fun entry hentry =>
    Program.reply_of_mem_runFrom (by rw [hasked]; simp [hentry])
  simp only [Except.map, Except.mapError, listing_farLeaves]
  rfl

end DepositBridge.CommandLine
