import DepositBridge.Node.Script
import DepositBridge.Proofs.Address
import DepositBridge.Proofs.Codec
import DepositBridge.Proofs.Contracts
import DepositBridge.Proofs.Interfaces
import DepositBridge.Proofs.Rlp

/-!
# What is signed

The octets that a client with a key submits, read back: a transaction for the remembered chain, with
the count that the node has answered as its nonce, to the client's contract, with the amount as its
value, and with the arguments of the call as its data (`submission_reads_back`).
-/

namespace DepositBridge

/-! ## Reading a transaction -/

/-- The fields of a signed transaction of the third form, but for its signature. -/
structure Wire where
  chainId : Nat
  nonce : Nat
  tip : Nat
  limit : Nat
  gas : Nat
  receiver : Octets
  value : Nat
  data : Octets
  accessList : List Rlp.Item

/-- The fields that octets hold: behind the number of the form one list, with nothing left over. -/
def Wire.ofOctets? : Octets → Option Wire
  | 2 :: body =>
    match Rlp.decode? body with
    | some (.list [.octets chainId, .octets nonce, .octets tip, .octets limit, .octets gas,
        .octets receiver, .octets value, .octets data, .list accessList, .octets _, .octets _,
        .octets _]) =>
      some ⟨Octets.toNat chainId, Octets.toNat nonce, Octets.toNat tip, Octets.toNat limit,
        Octets.toNat gas, receiver, Octets.toNat value, data, accessList⟩
    | _ => none
  | _ => none

namespace Transaction

/-! ## Drafts -/

theorem natural_eq_ok_iff {field : String} {n : Int} {m : Nat} :
    natural field n = .ok m ↔ n = m := by
  unfold natural
  by_cases h : 0 ≤ n
  · simp only [h, if_true, Except.ok.injEq]
    omega
  · simp only [h, if_false, reduceCtorEq, false_iff]
    omega

/-- A draft without an access list makes a transaction only if its numbers can be written, and they
are those of the transaction. -/
theorem ofDraft_dynamic {chain nonce gas tip limit value : Int} {receiver data : Octets}
    {transaction : Transaction}
    (h : ofDraft ⟨some chain, nonce, gas, receiver, value, data, .dynamic tip limit []⟩ =
      .ok transaction) :
    ∃ chain' nonce' gas' tip' limit' value' : Nat,
      chain = chain' ∧ nonce = nonce' ∧ value = value' ∧ transaction =
        ⟨some chain', nonce', gas', receiver, value', data, .dynamic tip' limit' []⟩ := by
  simp only [ofDraft] at h
  obtain ⟨chain', hchain, h₁⟩ := bind_eq_ok_iff.mp h
  obtain ⟨nonce', hnonce, h₂⟩ := bind_eq_ok_iff.mp h₁
  obtain ⟨tip', -, h₃⟩ := bind_eq_ok_iff.mp h₂
  obtain ⟨limit', -, h₄⟩ := bind_eq_ok_iff.mp h₃
  obtain ⟨gas', -, h₅⟩ := bind_eq_ok_iff.mp h₄
  obtain ⟨value', hvalue, h₆⟩ := bind_eq_ok_iff.mp h₅
  obtain ⟨accessList, haccess, h₇⟩ := bind_eq_ok_iff.mp h₆
  -- the number of the chain may be missing in other drafts, so it is read under an option
  obtain ⟨number, hnumber, rfl⟩ := map_eq_ok_iff.mp
    (show (natural "chainId" chain).map some = .ok chain' from hchain)
  cases haccess
  cases h₇
  exact ⟨number, nonce', gas', tip', limit', value', natural_eq_ok_iff.mp hnumber,
    natural_eq_ok_iff.mp hnonce, natural_eq_ok_iff.mp hvalue, rfl⟩

/-- Signing gives octets of the transaction's items and the three numbers of the signature, which
can all be written. -/
theorem sign_eq_ok {transaction : Transaction} {key : Nat} {raw : Octets}
    (h : transaction.sign key = .ok raw) :
    ∃ y r s : Nat,
      Rlp.isWritable (.list (transaction.items ++ [.nat y, .nat r, .nat s])) = true ∧
      raw = transaction.form.toList ++
        Rlp.encode (.list (transaction.items ++ [.nat y, .nat r, .nat s])) := by
  obtain ⟨message, -, h₁⟩ := bind_eq_ok_iff.mp h
  cases hsignature : Secp256k1.sign key (Keccak.hash message) with
  | none => simp [hsignature, throw, throwThe, MonadExceptOf.throw] at h₁
  | some signature =>
    simp only [hsignature, signed, write] at h₁
    split at h₁
    · next hwritable => exact ⟨_, _, _, hwritable, by simpa using h₁.symm⟩
    · cases h₁

end Transaction

namespace Client

open Node (Transcript)
open Session (Runs)

/-- What a client signs reads back as what it is made of. -/
theorem wire_of_signDraft {client : Client} {wallet : Wallet} {data raw : Octets}
    {chain nonce gas tip baseFee value : Int}
    (h : signDraft wallet (client.draftOf chain nonce gas tip baseFee data value) = .ok raw) :
    ∃ wire, Wire.ofOctets? raw = some wire ∧ chain = wire.chainId ∧ nonce = wire.nonce ∧
      wire.receiver = client.address.octets ∧ value = wire.value ∧ wire.accessList = [] ∧
      wire.data = data := by
  unfold signDraft at h
  cases hdraft : Transaction.ofDraft (client.draftOf chain nonce gas tip baseFee data value) with
  | error number => simp [hdraft] at h
  | ok transaction =>
    obtain ⟨chain, nonce, gas, tip, limit, value, rfl, rfl, rfl, rfl⟩ :=
      Transaction.ofDraft_dynamic hdraft
    simp only [hdraft, mapError_eq_ok_iff, Wallet.sign] at h
    cases hkey : wallet.key with
    | none => simp [hkey] at h
    | some key =>
      simp only [hkey, mapError_eq_ok_iff] at h
      obtain ⟨y, r, s, hwritable, rfl⟩ := Transaction.sign_eq_ok h
      refine ⟨⟨chain, nonce, tip, limit, gas, client.address.octets, value, data, []⟩, ?_, rfl, rfl,
        rfl, rfl, rfl, rfl⟩
      show Wire.ofOctets? (2 :: Rlp.encode _) = _
      rw [Wire.ofOctets?, Rlp.decode?_encode _ hwritable]
      simp [Transaction.items, Transaction.accessItem, Rlp.Item.nat]

/-! ## Changes -/

/-- A call that changes a contract, with its arguments as callers give them. -/
inductive Change where
  | depositNative (salt : Octets) (amount : Nat)
  | depositErc20 (token : String) (salt : Octets) (amount : Nat)
  | processDeposits (lastProcessed : Nat) (hashes : List Octets)

namespace Change

/-- What a client does to carry out a change. -/
def session (client : Client) : Change → Session Octets
  | depositNative salt amount => client.depositNative (.bytes salt) (.int amount)
  | depositErc20 token salt amount => client.depositErc20 (.text token) (.bytes salt) (.int amount)
  | processDeposits lastProcessed hashes =>
    client.processDeposits (.int lastProcessed) (.list (hashes.map .bytes))

/-- The built-in interface of the contract that is changed. -/
def entries : Change → List Value
  | depositNative .. | depositErc20 .. => Abi.liquidityEntries
  | processDeposits .. => Abi.rollupEntries

/-- The signature of the function that is called. -/
def signature : Change → String
  | depositNative .. => "depositNativeToken(bytes32)"
  | depositErc20 .. => "depositERC20(address,bytes32,uint256)"
  | processDeposits .. => "processDeposits(uint256,bytes32[])"

/-- The types of the arguments. -/
def types : Change → List Abi.Ty
  | depositNative .. => [.fixedBytes 32]
  | depositErc20 .. => [.address, .fixedBytes 32, .uint 256]
  | processDeposits .. => [.uint 256, .array (.fixedBytes 32)]

/-- The arguments as data, when the text of an address writes one. -/
def data? : Change → Option (List Abi.Datum)
  | depositNative salt _ => some [.octets salt]
  | depositErc20 token salt amount =>
    (Address.ofText? token).map fun address => [.address address, .octets salt, .number amount]
  | processDeposits lastProcessed hashes =>
    some [.number lastProcessed, .list (hashes.map .octets)]

/-- The value that goes with the call. -/
def value : Change → Nat
  | depositNative _ amount => amount
  | depositErc20 .. | processDeposits .. => 0

/-- Carrying out a change is submitting a call whose data are the arguments, or nothing. -/
theorem transacts_of_runs {change : Change} {client : Client} {chain chain' : Option Int}
    {asked : Transcript} {result : Except Fault Octets}
    (hentries : client.entries = change.entries)
    (h : Runs (change.session client) chain asked result chain') :
    asked = [] ∨ ∃ label f data values amount,
      client.Transacts label ⟨f, data⟩ amount chain asked result chain' ∧
      f.signature = change.signature ∧ f.inputs = change.types ∧
      Abi.Ty.allOf? f.inputs values = some data ∧ Abi.isEncodable f.inputs data = true ∧
      change.data? = some data ∧ amountOf amount = .ok change.value := by
  cases change with
  | depositNative salt amount =>
    rw [session] at h
    rcases runs_depositNative h with ⟨_, -, rfl, -⟩ | ⟨call, hcall, htransacts⟩
    · exact .inl rfl
    rw [hentries, entries, Abi.findCall_depositNativeToken] at hcall
    obtain ⟨data, hdata, hencodable, rfl⟩ := hcall
    obtain ⟨-, rfl⟩ := Abi.allOf?_depositNativeToken.mp hdata
    exact .inr ⟨_, _, _, _, _, htransacts, rfl, rfl, hdata, hencodable, rfl, rfl⟩
  | depositErc20 token salt amount =>
    rw [session] at h
    rcases runs_depositErc20 h with
      ⟨_, -, rfl, -⟩ | ⟨v, hv, ⟨_, -, rfl, -⟩ | ⟨call, hcall, htransacts⟩⟩
    · exact .inl rfl
    · exact .inl rfl
    -- the client writes the address anew, and the interface reads what was written
    obtain ⟨address, haddress, rfl⟩ := addressArgument_eq_ok hv
    rw [hentries, entries, Abi.findCall_depositERC20] at hcall
    obtain ⟨data, hdata, hencodable, rfl⟩ := hcall
    obtain ⟨_, hsame, -, -, rfl⟩ := Abi.allOf?_depositERC20.mp hdata
    rw [Address.ofText?_text] at hsame
    cases hsame
    exact .inr ⟨_, _, _, _, _, htransacts, rfl, rfl, hdata, hencodable,
      by rw [data?, haddress]; rfl, rfl⟩
  | processDeposits lastProcessed hashes =>
    rw [session] at h
    rcases runs_processDeposits h with ⟨_, -, rfl, -⟩ | ⟨call, hcall, htransacts⟩
    · exact .inl rfl
    rw [hentries, entries, Abi.findCall_processDeposits] at hcall
    obtain ⟨data, hdata, hencodable, rfl⟩ := hcall
    obtain ⟨-, -, rfl⟩ := Abi.allOf?_processDeposits.mp hdata
    exact .inr ⟨_, _, _, _, _, htransacts, rfl, rfl, hdata, hencodable, rfl, rfl⟩

/-- The data of a call that a change submits are the selector of its function and its arguments. -/
theorem callData_reads_back {change : Change} {f : Abi.Function} {values : List Value}
    {data : List Abi.Datum} (hsignature : f.signature = change.signature)
    (hinputs : f.inputs = change.types) (hvalues : Abi.Ty.allOf? f.inputs values = some data)
    (hencodable : Abi.isEncodable f.inputs data = true) :
    (f.callData data).take 4 = Abi.selectorOf change.signature ∧
      Abi.decodeAll? change.types ((f.callData data).drop 4) = some data := by
  have hflat : f.inputs.all Abi.Ty.isFlat = true := by
    rw [hinputs]
    cases change <;> rfl
  obtain ⟨hselector, hdata⟩ := Abi.callData_reads_back hflat hvalues hencodable
  rw [hselector, Abi.Function.selector, hsignature, ← hinputs]
  exact ⟨rfl, hdata⟩

end Change

/-- What signed octets that a client submits say: they are a transaction for the chain that is
remembered, with the count that the node has answered, to the client's contract, without an access
list, of the value and with the function and the arguments of the change. -/
structure Says (client : Client) (wallet : Wallet) (change : Change) (chain' : Option Int)
    (asked : Transcript) (wire : Wire) : Prop where
  chainId : chain' = some (wire.chainId : Int)
  nonce : ∃ count, asked.sent client.connection "eth_getTransactionCount" =
    [(.transactionCount wallet.address, .result count)] ∧
    Read.quantity count = .ok (wire.nonce : Int)
  receiver : wire.receiver = client.address.octets
  value : wire.value = change.value
  accessList : wire.accessList = []
  selector : wire.data.take 4 = Abi.selectorOf change.signature
  arguments : ∃ data, change.data? = some data ∧
    Abi.decodeAll? change.types (wire.data.drop 4) = some data

theorem says_of_runs {client : Client} {wallet : Wallet} {change : Change}
    {chain chain' : Option Int} {asked : Transcript} {result : Except Fault Octets} {raw : Octets}
    {connection : Nat} {answer : Node.Answer}
    (hwallet : client.wallet = some wallet) (hsigns : wallet.canSign = true)
    (hentries : client.entries = change.entries)
    (h : Runs (change.session client) chain asked result chain')
    (hsent : (.request connection (.sendRaw raw), answer) ∈ asked) :
    ∃ wire, Wire.ofOctets? raw = some wire ∧ Says client wallet change chain' asked wire := by
  rcases Change.transacts_of_runs hentries h with
    rfl | ⟨label, f, data, values, amount, htransacts, hsignature, hinputs, hvalues, hencodable,
      hdata, hamount⟩
  · simp at hsent
  obtain ⟨number, nonce, gas, tip, baseFee, value, count, rfl, hcount, hnonce, hvalue, hsigned⟩ :=
    htransacts.signed hwallet hsigns hsent
  obtain ⟨wire, hwire, rfl, rfl, hreceiver, rfl, haccess, hcall⟩ := wire_of_signDraft hsigned
  obtain ⟨hselector, hargs⟩ := Change.callData_reads_back hsignature hinputs hvalues hencodable
  rw [hamount, Except.ok.injEq] at hvalue
  refine ⟨wire, hwire, rfl, ⟨count, hcount, hnonce⟩, hreceiver, by omega, haccess, ?_, data, hdata,
    ?_⟩
  · rw [hcall]
    exact hselector
  · rw [hcall]
    exact hargs

/-- Whatever a node answers, the octets that a client with a key submits for a change read back as
the change. -/
theorem submission_reads_back {client : Client} {wallet : Wallet} {key : Nat} {change : Change}
    {nodes : Program.Behaviour Node.Query Node.Answer} {history : Transcript} {chain : Option Int}
    {connection : Nat} {raw : Octets} {answer : Node.Answer} (hwallet : client.wallet = some wallet)
    (hkey : wallet.key = some key) (hentries : client.entries = change.entries)
    (hsent : (.request connection (.sendRaw raw), answer) ∈
      Program.askedOf (Program.runFrom nodes history ((change.session client).start chain)).1) :
    ∃ wire, Wire.ofOctets? raw = some wire ∧
      let run := Program.runFrom nodes history ((change.session client).start chain)
      Says client wallet change run.2.2 (Program.askedOf run.1) wire :=
  says_of_runs hwallet (by simp [Wallet.canSign, hkey]) hentries (Program.runs_runFrom history _)
    hsent

/-- The client of a contract on a development chain, with the smallest of all keys. -/
def sampleClient : Client :=
  ⟨0, "http://127.0.0.1:8545/", .zero, some ⟨Address.ofKey 1, some 1⟩, Abi.liquidityEntries,
    .standard⟩

/-- A deposit of the native token. -/
def sampleChange : Change := .depositNative (List.replicate 32 7) 1000

/-- What a development chain is asked when it takes the deposit. -/
def sampleAsked : Transcript :=
  Program.askedOf (Program.runFrom (Node.Script.behaviour []) []
    ((sampleChange.session sampleClient).start none)).1

theorem sampleAsked_submits :
    (sampleAsked.sent 0 "eth_sendRawTransaction").isEmpty = false := by
  decide +kernel

/-- A development chain is sent a transaction that reads back. -/
theorem submission_reads_back_sample :
    ∃ raw answer wire chain', (.request 0 (.sendRaw raw), answer) ∈ sampleAsked ∧
      Wire.ofOctets? raw = some wire ∧
      Says sampleClient ⟨Address.ofKey 1, some 1⟩ sampleChange chain' sampleAsked wire := by
  obtain ⟨⟨request, answer⟩, hmem⟩ :=
    List.exists_mem_of_ne_nil _ (List.isEmpty_eq_false_iff.mp sampleAsked_submits)
  obtain ⟨hsent, hmethod⟩ := Transcript.mem_sent.mp hmem
  obtain ⟨raw, rfl⟩ := eq_sendRaw_of_method hmethod
  obtain ⟨wire, hwire, hsays⟩ := submission_reads_back rfl rfl rfl hsent
  exact ⟨raw, answer, wire, _, hsent, hwire, hsays⟩

end Client

end DepositBridge
