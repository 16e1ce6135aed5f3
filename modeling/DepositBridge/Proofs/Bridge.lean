import DepositBridge.Proofs.Interfaces
import DepositBridge.Proofs.Journey

/-!
# Runs of bridges

What a bridge asks when it is built and when it carries out a journey: each call is carried out by
the client of its contract, which goes on from what it remembers.
-/

namespace DepositBridge

/-! ## Wallets -/

namespace Wallet

/-- The wallet of a key. -/
def ofNumber (key : Nat) : Wallet := ⟨Address.ofKey key, some key⟩

theorem ofKey_eq_ok_iff {v : Value} {wallet : Wallet} :
    ofKey v = .ok wallet ↔ ∃ octets, keyOctets? v = some octets ∧
      Secp256k1.isKey octets.toNat = true ∧ wallet = ofNumber octets.toNat := by
  unfold ofKey
  cases keyOctets? v with
  | none => simp only [reduceCtorEq, false_and, exists_false]
  | some octets =>
    simp only [Option.some.injEq, exists_eq_left']
    by_cases hkey : Secp256k1.isKey octets.toNat = true
    · rw [if_pos hkey, Except.ok.injEq]
      exact ⟨fun h => ⟨hkey, h.symm⟩, fun h => h.2.symm⟩
    · rw [if_neg hkey]
      exact ⟨nofun, fun h => absurd h.1 hkey⟩

end Wallet

namespace Bridge

open Node (Transcript)
open Program (Carries)

variable {asked : Transcript}

/-! ## Building -/

/-- The bridge between two endpoints with the built-in interfaces. -/
def ofWallet (endpoints : Endpoints) (wallet : Wallet) : Bridge where
  liquidity := ⟨0, endpoints.l1Url.text, endpoints.liquidityAddress, some wallet,
    Abi.liquidityEntries, .standard⟩
  liquidityChain := endpoints.l1ChainId
  rollup := ⟨1, endpoints.l2Url.text, endpoints.rollupAddress, none, Abi.rollupEntries, .standard⟩
  rollupChain := endpoints.l2ChainId
  deployedBlock := endpoints.deployedBlock

@[simp] theorem take_ok {α : Type} (a : α) : take (.ok a) = pure a := rfl

theorem runs_take_iff {α : Type} {r result : Except Failure α} :
    Program.Runs (take r).run asked result ↔ asked = [] ∧ result = r := by
  cases r <;> exact Program.runs_done_iff

theorem runs_connectContract_ok {connection : Nat} {url : Url} {address : Address}
    {wallet : Option Wallet} {entries : List Value} {client : Client}
    (h : Program.Runs (connectContract connection url address wallet entries).run asked
      (.ok client)) :
    client = ⟨connection, url.text, address, wallet, entries, .standard⟩ := by
  rcases Program.runs_attempt_bind_iff.mp h with ⟨_, ⟨⟩, -⟩ | ⟨_, _, _, _, -, hclient⟩
  obtain ⟨-, hclient⟩ := runs_take_iff.mp hclient
  obtain ⟨_, -, rfl⟩ := map_eq_ok_iff.mp (mapError_eq_ok_iff.mp hclient.symm)
  rfl

section Build

variable {tree : FileTree} {endpoints : Endpoints} {key : Value} {wallet : Wallet} {bridge : Bridge}

/-- Where a client of the rollup is made, the interface of the rollup has been loaded. -/
theorem runs_connectRollup_ok {connection : Nat} {client : Client}
    (h : Program.Runs (connectRollup connection tree endpoints).run asked (.ok client)) :
    ∃ entries, loadEntries tree Abi.rollupName endpoints.abiDirectory = .ok entries ∧
      client = ⟨connection, endpoints.l2Url.text, endpoints.rollupAddress, none, entries,
        .standard⟩ := by
  rcases Program.runs_attempt_bind_iff.mp h with ⟨_, ⟨⟩, -⟩ | ⟨_, entries, _, _, hload, hclient⟩
  exact ⟨entries, (runs_take_iff.mp hload).2.symm, runs_connectContract_ok hclient⟩

/-- Where a bridge is built, the key makes a wallet and both interfaces have been loaded. -/
theorem runs_build_loaded (h : Program.Runs (build tree endpoints key).run asked (.ok bridge)) :
    ∃ wallet liquidity rollup, Wallet.ofKey key = .ok wallet ∧
      loadEntries tree Abi.liquidityName endpoints.abiDirectory = .ok liquidity ∧
      loadEntries tree Abi.rollupName endpoints.abiDirectory = .ok rollup ∧
      bridge = ⟨⟨0, endpoints.l1Url.text, endpoints.liquidityAddress, some wallet, liquidity,
          .standard⟩, endpoints.l1ChainId,
        ⟨1, endpoints.l2Url.text, endpoints.rollupAddress, none, rollup, .standard⟩,
        endpoints.l2ChainId, endpoints.deployedBlock⟩ := by
  rcases Program.runs_attempt_bind_iff.mp h with ⟨_, ⟨⟩, -⟩ | ⟨_, wallet, _, _, hwallet, h₁⟩
  rcases Program.runs_attempt_bind_iff.mp h₁ with ⟨_, ⟨⟩, -⟩ | ⟨_, entries, _, _, hload, h₂⟩
  rcases Program.runs_attempt_bind_iff.mp h₂ with ⟨_, ⟨⟩, -⟩ | ⟨_, _, _, _, hliquidity, h₃⟩
  rcases Program.runs_attempt_bind_iff.mp h₃ with ⟨_, ⟨⟩, -⟩ | ⟨_, _, _, _, hrollup, h₄⟩
  obtain ⟨-, hwallet⟩ := runs_take_iff.mp hwallet
  obtain rfl := runs_connectContract_ok hliquidity
  obtain ⟨entries', hload', rfl⟩ := runs_connectRollup_ok hrollup
  cases (Program.runs_done_iff.mp h₄).2
  exact ⟨wallet, entries, entries', mapError_eq_ok_iff.mp hwallet.symm,
    (runs_take_iff.mp hload).2.symm, hload', rfl⟩

theorem loadEntries_liquidity (hbundled : endpoints.abiDirectory = none) :
    loadEntries tree Abi.liquidityName endpoints.abiDirectory = .ok Abi.liquidityEntries := by
  rw [hbundled, loadEntries, Abi.load_liquidity]
  rfl

theorem loadEntries_rollup (hbundled : endpoints.abiDirectory = none) :
    loadEntries tree Abi.rollupName endpoints.abiDirectory = .ok Abi.rollupEntries := by
  rw [hbundled, loadEntries, Abi.load_rollup]
  rfl

/-- A bridge that was built with the built-in interfaces has the wallet of the key. -/
theorem runs_build_ok (hbundled : endpoints.abiDirectory = none)
    (h : Program.Runs (build tree endpoints key).run asked (.ok bridge)) :
    ∃ wallet, Wallet.ofKey key = .ok wallet ∧ bridge = ofWallet endpoints wallet := by
  obtain ⟨wallet, liquidity, rollup, hwallet, hliquidity, hrollup, rfl⟩ := runs_build_loaded h
  cases (loadEntries_liquidity hbundled).symm.trans hliquidity
  cases (loadEntries_rollup hbundled).symm.trans hrollup
  exact ⟨wallet, hwallet, rfl⟩

end Build

/-- The wallet of a key has the key and the address that owns it. -/
theorem wallet_of_ofKey {v : Value} {wallet : Wallet} (h : Wallet.ofKey v = .ok wallet) :
    ∃ key, wallet = .ofNumber key := by
  obtain ⟨octets, -, -, rfl⟩ := Wallet.ofKey_eq_ok_iff.mp h
  exact ⟨_, rfl⟩

/-- Whatever the nodes have done when a bridge was built with the built-in interfaces, its wallet
can sign. -/
theorem exists_wallet_of_build {tree : FileTree} {endpoints : Endpoints} {key : Value}
    {bridge : Bridge} {nodes : Program.Behaviour Node.Query Node.Answer}
    {history : List (Node.Query × Node.Answer)} (hbundled : endpoints.abiDirectory = none)
    (hbuilt : (Program.runFrom nodes history (build tree endpoints key).run).2 = .ok bridge) :
    ∃ wallet, wallet.canSign = true ∧ bridge = ofWallet endpoints wallet := by
  have hrun : Program.Runs (build tree endpoints key).run _ (.ok bridge) :=
    hbuilt ▸ Program.runs_runFrom history _
  obtain ⟨wallet, hwallet, rfl⟩ := runs_build_ok hbundled hrun
  obtain ⟨key, rfl⟩ := wallet_of_ofKey hwallet
  exact ⟨_, rfl, rfl⟩

/-! ## Carrying out -/

variable {α : Type} {before after : Memory} {reply : Reply}

theorem runs_liquidityStep_iff {step : Client.Session α} {render : α → Value} :
    Program.Runs (liquidityStep step render before) asked (reply, after) ↔
      ∃ r, reply = r.map render ∧ step.Runs before.liquidity asked r after.liquidity ∧
        after.rollup = before.rollup := by
  unfold liquidityStep
  refine Program.runs_bind_iff.trans ?_
  constructor
  · rintro ⟨first, ⟨r, chain⟩, rest, rfl, hstep, hpure⟩
    obtain ⟨rfl, ⟨⟩⟩ := Program.runs_done_iff.mp hpure
    exact ⟨r, rfl, by rwa [List.append_nil], rfl⟩
  · rintro ⟨r, rfl, hstep, hrollup⟩
    refine ⟨asked, (r, after.liquidity), [], by simp, hstep, ?_⟩
    rw [← hrollup]
    exact .done _

theorem runs_rollupStep_iff {step : Client.Session α} {render : α → Value} :
    Program.Runs (rollupStep step render before) asked (reply, after) ↔
      ∃ r, reply = r.map render ∧ step.Runs before.rollup asked r after.rollup ∧
        after.liquidity = before.liquidity := by
  unfold rollupStep
  refine Program.runs_bind_iff.trans ?_
  constructor
  · rintro ⟨first, ⟨r, chain⟩, rest, rfl, hstep, hpure⟩
    obtain ⟨rfl, ⟨⟩⟩ := Program.runs_done_iff.mp hpure
    exact ⟨r, rfl, by rwa [List.append_nil], rfl⟩
  · rintro ⟨r, rfl, hstep, hliquidity⟩
    refine ⟨asked, (r, after.rollup), [], by simp, hstep, ?_⟩
    rw [← hliquidity]
    exact .done _

/-- Where the rollup is told about hashes and nothing else is called, its client does so. -/
theorem runs_of_carries_processDeposits {bridge : Bridge} {last : Int} {hashes : List Octets}
    (h : Carries bridge.answer [(.processDeposits last hashes, reply)] before asked after) :
    ∃ r, reply = r.map hashReply ∧ (bridge.rollup.processDeposits (.int last)
      (.list (hashes.map .bytes))).Runs before.rollup asked r after.rollup := by
  obtain ⟨first, _, _, rfl, hcall, hnil⟩ := Program.carries_cons_iff.mp h
  obtain ⟨rfl, rfl⟩ := Program.carries_nil_iff.mp hnil
  obtain ⟨r, rfl, hrun, -⟩ := runs_rollupStep_iff.mp hcall
  exact ⟨r, rfl, by rwa [List.append_nil]⟩

/-- What the clients of a bridge remember at the start. -/
def memory (bridge : Bridge) : Memory := ⟨bridge.liquidityChain, bridge.rollupChain⟩

/-- A bridge carries out the calls of a journey one after the other. -/
theorem runs_carryOut_iff {bridge : Bridge} {journey : Journey α} {result : Except Failure α} :
    Program.Runs (bridge.carryOut journey).run asked result ↔
      ∃ calls last, Program.Runs journey.run calls result ∧
        Carries bridge.answer calls bridge.memory asked last := by
  refine Program.runs_bind_iff.trans ?_
  constructor
  · rintro ⟨first, ⟨r, last⟩, rest, rfl, hcarried, hpure⟩
    obtain ⟨rfl, rfl⟩ := Program.runs_done_iff.mp hpure
    obtain ⟨calls, hcalls, hcarries⟩ := Program.runs_carryOut_iff.mp hcarried
    exact ⟨calls, last, hcalls, by rwa [List.append_nil]⟩
  · rintro ⟨calls, last, hcalls, hcarries⟩
    exact ⟨asked, (result, last), [], by simp,
      Program.runs_carryOut_iff.mpr ⟨calls, hcalls, hcarries⟩, .done _⟩

/-! ## A bridge that is built -/

/-- Clients can be made of the built-in interfaces. -/
theorem checkEntries_liquidity : Abi.checkEntries Abi.liquidityEntries = .ok () := by decide +kernel

theorem checkEntries_rollup : Abi.checkEntries Abi.rollupEntries = .ok () := by decide +kernel

/-- Whatever the nodes do, a good key gives a bridge. -/
theorem runFrom_build {endpoints : Endpoints} {key : Value} {wallet : Wallet} (tree : FileTree)
    (nodes : Program.Behaviour Node.Query Node.Answer) (history : List (Node.Query × Node.Answer))
    (hbundled : endpoints.abiDirectory = none) (hwallet : Wallet.ofKey key = .ok wallet) :
    (Program.runFrom nodes history (build tree endpoints key).run).2 =
      .ok (ofWallet endpoints wallet) := by
  simp only [build, connectRollup, connectContract, Client.ofInterface, hwallet,
    loadEntries_liquidity hbundled, loadEntries_rollup hbundled, checkEntries_liquidity,
    checkEntries_rollup, Except.mapError, Except.map, take_ok, pure_bind]
  rfl

/-- A request for a deposit of the native token, with the smallest of all keys. -/
def sampleRequest : Request where
  privateKey := Hex.encodeMarked (Octets.ofNatWidth 32 1)
  l1Url := ⟨.http, [], [], .ipv4 0x7f000001, some 8545, [[]], none, none⟩
  liquidityAddress := .zero
  l2Url := ⟨.http, [], [], .ipv4 0x7f000001, some 8546, [[]], none, none⟩
  rollupAddress := .zero
  amount := 1000
  token := .native
  tokenAddress := .zero
  tokenId := .zero
  salt := List.replicate 32 7

/-- The wallet of the smallest of all keys. -/
def sampleWallet : Wallet := ⟨Address.ofKey 1, some 1⟩

theorem ofKey_sampleRequest : Wallet.ofKey (.text sampleRequest.privateKey) = .ok sampleWallet := by
  have hoctets : Wallet.keyOctets? (.text sampleRequest.privateKey) =
      some (Octets.ofNatWidth 32 1) := by decide +kernel
  simp only [Wallet.ofKey, hoctets, Octets.toNat_ofNatWidth]
  rfl

end Bridge

end DepositBridge
