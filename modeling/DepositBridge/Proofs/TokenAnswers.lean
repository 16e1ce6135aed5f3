import DepositBridge.Proofs.Address
import DepositBridge.Proofs.Interfaces
import DepositBridge.Proofs.Settlement

/-!
# What the contract says about a token

The answer of the call that tells the index of a token is read strictly. A flag and an index come of
it exactly if it has two words, the first of which is zero or one and the second of which fits into
the field of an index; what stands behind them is left unread (`decodeAll?_flag_index_iff`). So a
lookup ends in the index of such an answer, and fails for every other answer
(`Client.tokenIndex_tells`).
-/

namespace DepositBridge

namespace Abi

variable {octets : Octets} {place depth : Nat}

/-! ## Words -/

theorem numberAt?_eq_some_iff {n : Nat} :
    numberAt? octets place = some n ↔
      place + 32 ≤ octets.length ∧ Octets.toNat ((octets.drop place).take 32) = n := by
  have hlength : ((octets.drop place).take 32).length = 32 ↔ place + 32 ≤ octets.length := by
    rw [List.length_take, List.length_drop]
    omega
  simp only [numberAt?, wordAt?, hlength, Option.map_eq_some_iff, Option.ite_none_right_eq_some,
    Option.some.injEq]
  constructor
  · rintro ⟨_, ⟨hfits, rfl⟩, hn⟩
    exact ⟨hfits, hn⟩
  · rintro ⟨hfits, hn⟩
    exact ⟨_, ⟨hfits, rfl⟩, hn⟩

/-- A flag is the word zero or the word one. -/
theorem decodeBody_bool_iff {d : Datum} :
    decodeBody (depth + 1) .bool octets place = some d ↔
      ∃ b : Bool, numberAt? octets place = some b.toNat ∧ d = .flag b := by
  simp only [decodeBody, Option.bind_eq_bind, Option.bind_eq_some_iff]
  constructor
  · rintro ⟨n, hn, hd⟩
    split at hd
    · cases hd
      exact ⟨false, hn, rfl⟩
    · cases hd
      exact ⟨true, hn, rfl⟩
    · cases hd
  · rintro ⟨b, hn, rfl⟩
    cases b with
    | false => exact ⟨0, hn, rfl⟩
    | true => exact ⟨1, hn, rfl⟩

/-- A number is a word that fits into the bits of its type. -/
theorem decodeBody_uint_iff {bits : Nat} {d : Datum} :
    decodeBody (depth + 1) (.uint bits) octets place = some d ↔
      ∃ n : Nat, numberAt? octets place = some n ∧ n < 2 ^ bits ∧ d = .number n := by
  simp only [decodeBody, Option.bind_eq_bind, Option.bind_eq_some_iff, Option.pure_def,
    Option.ite_none_right_eq_some, Option.some.injEq]
  constructor
  · rintro ⟨n, hn, hsmall, rfl⟩
    exact ⟨n, hn, hsmall, rfl⟩
  · rintro ⟨n, hn, hsmall, rfl⟩
    exact ⟨n, hn, hsmall, rfl⟩

/-! ## A flag and an index -/

/-- An answer says whether a token is registered, and tells its index: a word that is zero or one,
and a word whose number fits into the field of an index. -/
structure TellsIndex (answer : Octets) (found : Bool) (index : Nat) : Prop where
  length : 64 ≤ answer.length
  flag : Octets.toNat (answer.take 32) = found.toNat
  number : Octets.toNat ((answer.drop 32).take 32) = index
  fits : index < 2 ^ 32

/-- Of an answer a flag and an index are read, whatever stands behind them. -/
theorem decodeAll?_flag_index_iff {answer : Octets} {data : List Datum} :
    decodeAll? [.bool, .uint 32] answer = some data ↔
      ∃ found index, TellsIndex answer found index ∧ data = [.flag found, .number index] := by
  simp only [decodeAll?, decodeList, decodeAt, Ty.isDynamic, Ty.headSize, Bool.false_eq_true,
    if_false, Nat.zero_add, List.drop_zero, Option.bind_eq_bind, Option.bind_eq_some_iff,
    Option.pure_def, Option.some.injEq, decodeBody_bool_iff, decodeBody_uint_iff,
    numberAt?_eq_some_iff]
  constructor
  · intro h
    obtain ⟨_, ⟨found, ⟨-, hflag⟩, rfl⟩, _, ⟨_, hindex, _, rfl, rfl⟩, rfl⟩ := h
    obtain ⟨index, ⟨hlength, hnumber⟩, hfits, rfl⟩ := hindex
    exact ⟨found, index, ⟨hlength, hflag, hnumber, hfits⟩, rfl⟩
  · intro h
    obtain ⟨found, index, ⟨hlength, hflag, hnumber, hfits⟩, rfl⟩ := h
    have hfirst : 32 ≤ answer.length := by omega
    exact ⟨_, ⟨found, ⟨hfirst, hflag⟩, rfl⟩, _,
      ⟨_, ⟨index, ⟨hlength, hnumber⟩, hfits, rfl⟩, _, rfl, rfl⟩, rfl⟩

end Abi

namespace Client

open Node (Transcript)
open Session (Runs runs_bind_iff)

variable {client : Client} {chain chain' : Option Int} {asked : Transcript}
  {nodes : Program.Behaviour Node.Query Node.Answer} {answer : Octets}

/-! ## Nodes that answer a call -/

/-- A node that tells the number of its chain, and answers every call by the same octets. -/
structure Answers (nodes : Program.Behaviour Node.Query Node.Answer) (client : Client)
    (answer : Octets) : Prop where
  chainId : ∀ earlier, ∃ v n,
    nodes earlier (.request client.connection .chainId) = .result v ∧ Read.quantity v = .ok n
  call : ∀ earlier fields, ∃ v,
    nodes earlier (.request client.connection (.call fields)) = .result v ∧
      Read.octets v = .ok answer

/-- Where calls are answered, the call of a lookup is made and answered. -/
theorem exists_call_of_answers {call : Abi.Call} {result : Except Fault (List Abi.Datum)}
    (hnodes : Answers nodes client answer)
    (h : Runs (client.ask call) chain asked result chain')
    (hasked : ∀ entry ∈ asked, ∃ earlier, nodes earlier entry.1 = entry.2) :
    ∃ fields v, (.request client.connection (.call fields), .result v) ∈ asked ∧
      Read.octets v = .ok answer := by
  rcases runs_bind_iff.mp h with ⟨_, -, hfails⟩ | ⟨first, _, _, rest, rfl, -, h₁⟩
  · -- the number of the chain is told, so the question for it does not fail
    obtain ⟨reply, rfl, hfault, -⟩ := (reads_checkChain none).mp hfails
    obtain ⟨earlier, hreply⟩ := hasked _ (List.mem_singleton_self _)
    obtain ⟨v, n, hv, hn⟩ := hnodes.chainId earlier
    obtain rfl : .result v = reply := hv.symm.trans hreply
    simp [resultOf, hn, compareChain] at hfault
  · have hfirst : ∃ fields reply more,
        rest = (.request client.connection (.call fields), reply) :: more := by
      rcases runs_bind_iff.mp h₁ with ⟨_, -, hfails⟩ | ⟨_, _, _, more, rfl, hsend, -⟩
      · obtain ⟨reply, rfl, -⟩ := (reads_send _).mp hfails
        exact ⟨_, reply, [], rfl⟩
      · obtain ⟨reply, rfl, -⟩ := (reads_send _).mp hsend
        exact ⟨_, reply, more, rfl⟩
    obtain ⟨fields, reply, more, rfl⟩ := hfirst
    obtain ⟨earlier, hreply⟩ := hasked (.request client.connection (.call fields), reply) (by simp)
    obtain ⟨v, hv, hoctets⟩ := hnodes.call earlier fields
    obtain rfl : .result v = reply := hv.symm.trans hreply
    exact ⟨fields, v, by simp, hoctets⟩

/-- Where calls are answered, the data of a lookup are those of the answer. -/
theorem runs_ask_of_answers {call : Abi.Call} {result : Except Fault (List Abi.Datum)}
    (hnodes : Answers nodes client answer)
    (h : Runs (client.ask call) chain asked result chain')
    (hasked : ∀ entry ∈ asked, ∃ earlier, nodes earlier entry.1 = entry.2)
    (data : List Abi.Datum) :
    result = .ok data ↔ Abi.decodeAll? call.function.outputs answer = some data := by
  obtain ⟨fields, v, hmem, hoctets⟩ := exists_call_of_answers hnodes h hasked
  constructor
  · rintro rfl
    obtain ⟨_, w, octets, rfl, hw, hdata⟩ := runs_ask_ok h
    obtain ⟨-, rfl⟩ : fields = client.lookupFields call ∧ v = w := by simpa using hmem
    cases hw.symm.trans hoctets
    exact hdata
  · exact runs_ask_of_answer h hmem hoctets

/-! ## Lookups -/

/-- A lookup submits nothing. -/
theorem submissions_of_looksUp (h : ∀ entry ∈ asked, client.LooksUp entry.1) :
    asked.submissions = [] := by
  refine List.filterMap_eq_nil_iff.mpr fun (query, reply) he => ?_
  obtain ⟨request, rfl, hlookup⟩ := h _ he
  cases request <;> first | rfl | cases hlookup

section Fitting

variable {token : String} {address : Address} {type : TokenType} {id : Int}

/-- With the built-in interface a lookup of a token whose address and number fit into the call ends
in the index that the answer of the call tells. -/
theorem runs_tokenIndex_of_answers {result : Except Fault Int}
    (hentries : client.entries = Abi.liquidityEntries)
    (htoken : Address.ofText? token = some address) (hid : 0 ≤ id ∧ id < Nat.pow 2 256)
    (hnodes : Answers nodes client answer)
    (h : Runs (client.tokenIndex type (.text token) (.int id)) chain asked result chain')
    (hasked : ∀ entry ∈ asked, ∃ earlier, nodes earlier entry.1 = entry.2) (index : Int) :
    result = .ok index ↔ ∃ found n, Abi.TellsIndex answer found n ∧ index = n := by
  have haddress : addressArgument (.text token) = .ok (.text address.text) := by
    simp only [addressArgument, Address.ofValue, htoken]
    rfl
  have hfits := Abi.findCall_getTokenIndex_of_fits (Address.ofText?_text address) type hid
  rcases tokenIndex_cases h with ⟨-, -, -, hnone⟩ | ⟨_, call, data, ha, hcall, hask, rfl⟩
  · exact absurd (hentries ▸ hfits) (hnone _ _ haddress)
  cases haddress.symm.trans ha
  cases (hentries ▸ hfits).symm.trans hcall
  have hdata := runs_ask_of_answers hnodes hask hasked
  rw [map_eq_ok_iff]
  constructor
  · rintro ⟨_, htold, rfl⟩
    obtain ⟨_, hread, htold⟩ := bind_eq_ok_iff.mp htold
    obtain ⟨found, n, htells, rfl⟩ := Abi.decodeAll?_flag_index_iff.mp ((hdata _).mp hread)
    cases htold
    exact ⟨found, n, htells, rfl⟩
  · rintro ⟨found, n, htells, rfl⟩
    have hread := (hdata _).mpr (Abi.decodeAll?_flag_index_iff.mpr ⟨found, n, htells, rfl⟩)
    exact ⟨(found, n), bind_eq_ok_iff.mpr ⟨_, hread, rfl⟩, rfl⟩

/-- A lookup with the built-in interface ends in the index that the answer of the call tells, and
fails if the answer tells none. It submits nothing, and what is remembered stays as it is. -/
theorem tokenIndex_tells (hentries : client.entries = Abi.liquidityEntries)
    (htoken : Address.ofText? token = some address) (hid : 0 ≤ id ∧ id < Nat.pow 2 256)
    (hnodes : Answers nodes client answer) (type : TokenType)
    (history : List (Node.Query × Node.Answer)) (chain : Option Int) :
    let run := Program.runFrom nodes history
      ((client.tokenIndex type (.text token) (.int id)).start chain)
    (∀ index, run.2.1 = .ok index ↔ ∃ found n, Abi.TellsIndex answer found n ∧ index = n) ∧
    ((∀ found n, ¬ Abi.TellsIndex answer found n) → ∃ fault, run.2.1 = .error fault) ∧
    run.2.2 = chain ∧ Transcript.submissions (Program.askedOf run.1) = [] := by
  intro run
  have hrun : Runs (client.tokenIndex type (.text token) (.int id)) chain (Program.askedOf run.1)
      run.2.1 run.2.2 := Program.runs_runFrom history _
  have htells := runs_tokenIndex_of_answers hentries htoken hid hnodes hrun
    fun _ hentry => Program.reply_of_mem_runFrom hentry
  obtain ⟨hkept, hlooksUp, -⟩ := runs_tokenIndex hrun
  refine ⟨htells, fun hnone => ?_, hkept, submissions_of_looksUp hlooksUp⟩
  refine exists_error_of_ne_ok fun index hindex => ?_
  obtain ⟨found, n, htold, -⟩ := (htells index).mp hindex
  exact hnone found n htold

end Fitting

/-- A node that does nothing but answer calls. -/
def tellingNode (answer : Octets) : Program.Behaviour Node.Query Node.Answer
  | _, .request _ .chainId => .result (.text (Hex.quantity 31337))
  | _, .request _ (.call _) => .result (.text (Hex.encodeMarked answer))
  | _, _ => .result .null

theorem answers_tellingNode (client : Client) (answer : Octets) :
    Answers (tellingNode answer) client answer :=
  ⟨fun _ => ⟨_, _, rfl, Read.quantity_quantity 31337⟩,
    fun _ _ => ⟨_, rfl, Read.octets_encodeMarked answer⟩⟩

/-- The client of a liquidity contract whose wallet has no key. -/
def readingClient : Client :=
  ⟨0, "http://127.0.0.1:8545", .zero, some ⟨.zero, none⟩, Abi.liquidityEntries, .standard⟩

/-- The largest index is told for a token that is not registered, with an octet behind it; by an
answer whose flag is two, or whose index is one too large, none is told. -/
theorem tokenIndex_tells_samples :
    let result (answer : Octets) := (Program.runFrom (tellingNode answer) []
      ((readingClient.tokenIndex .nft (.text Address.zero.text) (.int 7)).start none)).2.1
    result (Octets.ofNatWidth 32 0 ++ Octets.ofNatWidth 32 4294967295 ++ [1]) = .ok 4294967295 ∧
    (∃ fault, result (Octets.ofNatWidth 32 2 ++ Octets.ofNatWidth 32 3) = .error fault) ∧
    ∃ fault, result (Octets.ofNatWidth 32 1 ++ Octets.ofNatWidth 32 4294967296) =
      .error fault := by
  have hentries : readingClient.entries = Abi.liquidityEntries := rfl
  have hid : (0 : Int) ≤ 7 ∧ (7 : Int) < Nat.pow 2 256 := by decide
  have htells (answer : Octets) := tokenIndex_tells hentries (Address.ofText?_text .zero) hid
    (answers_tellingNode readingClient answer) .nft [] none
  refine ⟨((htells _).1 _).mpr ⟨false, 4294967295, ?_, rfl⟩, ?_, ?_⟩
  · exact ⟨by decide, by decide, by decide, by decide⟩
  · refine (htells _).2.1 fun found n htold => ?_
    have hflag : 2 = found.toNat := htold.flag
    cases found <;> cases hflag
  · refine (htells _).2.1 fun found n htold => ?_
    have hindex : 4294967296 = n := htold.number
    have hfits := htold.fits
    omega

end Client

end DepositBridge
