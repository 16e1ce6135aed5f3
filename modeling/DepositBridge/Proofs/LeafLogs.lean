import DepositBridge.Client.Rollup
import DepositBridge.Proofs.Hexadecimal
import DepositBridge.Proofs.Interfaces

/-!
# Logs of leaves

The logs by which the rollup announces its leaves, as nodes hand them out, and the leaves that are
read from them.
-/

namespace DepositBridge

/-! ## Members -/

namespace Value

variable {members : List (String × Value)} {name : String} {v : Value}

theorem foldl_member_of_not_mem (h : name ∉ members.map Prod.fst) (found : Option Value) :
    members.foldl (fun found (key, v) => if key = name then some v else found) found = found := by
  induction members with
  | nil => rfl
  | cons first rest ih =>
    simp only [List.map_cons, List.mem_cons, not_or] at h
    simp only [List.foldl_cons, if_neg (Ne.symm h.1)]
    exact ih h.2

theorem foldl_member_of_mem (h : (members.map Prod.fst).Nodup) (hmem : (name, v) ∈ members)
    (found : Option Value) :
    members.foldl (fun found (key, v) => if key = name then some v else found) found = some v := by
  induction members generalizing found with
  | nil => cases hmem
  | cons first rest ih =>
    obtain ⟨hfirst, hrest⟩ := List.nodup_cons.mp h
    rcases List.mem_cons.mp hmem with rfl | hmem
    · simp only [List.foldl_cons, if_true]
      exact foldl_member_of_not_mem hfirst _
    · exact ih hrest hmem _

/-- Of members with different names each is the one of its name. -/
theorem member?_of_mem (h : (members.map Prod.fst).Nodup) (hmem : (name, v) ∈ members) :
    member? members name = some v :=
  foldl_member_of_mem h hmem none

end Value

namespace Client.Read

variable {names : List String} {members members' : List (String × Value)} {name : String}
  {v w : Value}

/-- What is made of a member. -/
def numberMember (names : List String) (name : String) (v : Value) : Except Fault Value :=
  if names.contains name then numberIfText v else .ok v

theorem withNumbers_eq (names : List String) (members : List (String × Value)) :
    withNumbers names members =
      members.mapM fun entry => (numberMember names entry.1 entry.2).map (entry.1, ·) := by
  unfold withNumbers
  congr 1
  funext ⟨name, v⟩
  simp only [numberMember]
  split
  · cases numberIfText v <;> rfl
  · rfl

/-- Members are read if the texts under the names are numbers, and then all of them have the names
that they had. -/
theorem exists_withNumbers
    (h : ∀ name ∈ names, ∀ v, (name, v) ∈ members → ∃ w, numberIfText v = .ok w) :
    ∃ members', withNumbers names members = .ok members' := by
  rw [withNumbers_eq]
  refine exists_mapM_ok fun ⟨name, v⟩ hmem => ?_
  by_cases hname : name ∈ names
  · obtain ⟨w, hw⟩ := h name hname v hmem
    exact ⟨(name, w), by simp [numberMember, hname, hw, Except.map]⟩
  · exact ⟨(name, v), by simp [numberMember, hname, Except.map]⟩

theorem map_fst_withNumbers (h : withNumbers names members = .ok members') :
    members'.map Prod.fst = members.map Prod.fst := by
  rw [withNumbers_eq, mapM_eq_ok_iff] at h
  induction h with
  | nil => rfl
  | cons hfirst _ ih =>
    obtain ⟨w, -, rfl⟩ := map_eq_ok_iff.mp hfirst
    simp [ih]

theorem mem_withNumbers (h : withNumbers names members = .ok members') (hmem : (name, v) ∈ members)
    (hw : numberMember names name v = .ok w) : (name, w) ∈ members' := by
  rw [withNumbers_eq, mapM_eq_ok_iff] at h
  induction h with
  | nil => cases hmem
  | cons hfirst _ ih =>
    rcases List.mem_cons.mp hmem with rfl | hmem
    · obtain ⟨w', hw', rfl⟩ := map_eq_ok_iff.mp hfirst
      cases hw.symm.trans hw'
      exact List.mem_cons_self
    · exact List.mem_cons_of_mem _ (ih hmem)

/-- A field is read as a member was. -/
theorem field_withNumbers (hnodup : (members.map Prod.fst).Nodup)
    (h : withNumbers names members = .ok members') (hmem : (name, v) ∈ members)
    (hw : numberMember names name v = .ok w) : field members' name = .ok w := by
  rw [field, Value.member?_of_mem (by rwa [map_fst_withNumbers h]) (mem_withNumbers h hmem hw)]

end Client.Read

/-! ## The event -/

namespace Abi

/-- The event that announces a leaf. -/
def depositLeafInserted : Event where
  name := "DepositLeafInserted"
  parameters := [⟨"depositIndex", .uint 32, true⟩, ⟨"depositHash", .fixedBytes 32, true⟩]
  isAnonymous := false

/-- The topic of the event: the hash of its signature. -/
def leafTopic : Octets := Keccak.hash (Text.encodeUtf8 "DepositLeafInserted(uint32,bytes32)")

theorem topic_depositLeafInserted : depositLeafInserted.topic = leafTopic := by
  have hname : (Ty.tuple (depositLeafInserted.parameters.map (·.type))).name =
      "(uint32,bytes32)" := by
    decide +kernel
  rw [Event.topic, hname]
  rfl

/-- Data of one word read back from their word. -/
theorem decodeAll?_word {t : Ty} {d : Datum} (h : IsWord t d) :
    decodeAll? [t] (encode t d) = some [d] := by
  have hword : encodeAll [t] [d] = encode t d := by
    simp [encodeAll, assemble, parts, h.isDynamic_eq, places, tails]
  have hread := @decodeAll?_encodeAll [t] [d] (.cons (.word h) .nil)
    (by rw [hword, h.length_encode]; decide)
  rwa [hword] at hread

/-- The arguments of the event in its topics. -/
theorem arguments_depositLeafInserted {index : Nat} {hash : Octets} (hindex : index < 2 ^ 32)
    (hhash : hash.length = 32) :
    depositLeafInserted.arguments
      [leafTopic, Octets.ofNatWidth 32 index, hash] [] =
      .ok [("depositIndex", .number index), ("depositHash", .octets hash)] := by
  have hfirst : decodeAll? [.uint 32] (Octets.ofNatWidth 32 index) = some [.number index] := by
    have hword : encode (.uint 32) (.number index) = Octets.ofNatWidth 32 index := by
      have hsmall : index < 2 ^ 256 := Nat.lt_of_lt_of_le hindex (by decide)
      rw [encode, word, Int.emod_eq_of_lt (by omega) (by exact_mod_cast hsmall), Int.toNat_natCast]
    rw [← hword]
    exact decodeAll?_word (.uint (by decide) hindex)
  have hsecond : decodeAll? [.fixedBytes 32] hash = some [.octets hash] := by
    have hword : encode (.fixedBytes 32) (.octets hash) = hash := by
      simp [encode, Octets.padRight, hhash]
    have hread := decodeAll?_word (.fixedBytes (Nat.le_refl 32) hhash)
    rwa [hword] at hread
  have htopics : depositLeafInserted.argumentTopics
      [leafTopic, Octets.ofNatWidth 32 index, hash] = .ok [Octets.ofNatWidth 32 index, hash] := by
    have hanonymous : depositLeafInserted.isAnonymous = false := rfl
    simp [Event.argumentTopics, hanonymous, topic_depositLeafInserted]
  have hindexed : depositLeafInserted.indexed =
      [⟨"depositIndex", .uint 32, true⟩, ⟨"depositHash", .fixedBytes 32, true⟩] := rfl
  have hothers : depositLeafInserted.others = [] := rfl
  have hnone : decodeAll? [] [] = some [] := by simp [decodeAll?, decodeList]
  simp [Event.arguments, htopics, hindexed, hothers, Event.dataOf, Event.topicArgument,
    Event.topicType, hfirst, hsecond, hnone, Pure.pure, Except.pure]

end Abi

namespace Client

theorem leafEvent_eq {client : Client} (hentries : client.entries = Abi.rollupEntries) :
    client.leafEvent = .ok Abi.depositLeafInserted := by
  rw [leafEvent, hentries]
  rfl

/-! ## Logs -/

/-- A log that announces a leaf, as a node hands it out: it has the topics of the event, and no
data. What it has besides is left open. -/
structure LeafLog where
  index : Nat
  hash : Octets
  block : Nat
  place : Nat
  members : List (String × Value)
  index_lt : index < 2 ^ 32
  length_hash : hash.length = 32
  nodup : (members.map Prod.fst).Nodup
  topics : ("topics", .list ([Abi.leafTopic, Octets.ofNatWidth 32 index, hash].map fun topic =>
    .text (Hex.encodeMarked topic))) ∈ members
  data : ("data", .text "0x") ∈ members
  blockNumber : ("blockNumber", .text (Hex.quantity block)) ∈ members
  logIndex : ("logIndex", .text (Hex.quantity place)) ∈ members
  transactionIndex : ∃ n : Nat, ("transactionIndex", .text (Hex.quantity n)) ∈ members
  origin : ∀ name ∈ ["transactionHash", "address", "blockHash"], ∃ v, (name, v) ∈ members

namespace LeafLog

/-- What a node hands out. -/
def value (log : LeafLog) : Value := .object log.members

/-- The leaf that is announced. -/
def leaf (log : LeafLog) : Leaf := ⟨log.index, Hex.encodeMarked log.hash, log.block⟩

variable (log : LeafLog)

/-- The numbers of a log can be read. -/
theorem exists_withNumbers :
    ∃ members', Read.withNumbers ["blockNumber", "logIndex", "transactionIndex"] log.members =
      .ok members' := by
  obtain ⟨n, htransaction⟩ := log.transactionIndex
  have hquantity : ∀ {name : String} {v : Value} {n : Nat},
      (name, .text (Hex.quantity n)) ∈ log.members → (name, v) ∈ log.members →
      ∃ w, Read.numberIfText v = .ok w := by
    intro name v n hknown hmem
    -- a name stands for one member only, so the member is the known number
    have hsame := (Value.member?_of_mem log.nodup hmem).symm.trans
      (Value.member?_of_mem log.nodup hknown)
    cases hsame
    exact ⟨_, Read.numberIfText_quantity n⟩
  refine Read.exists_withNumbers fun name hname v hmem => ?_
  simp only [List.mem_cons, List.not_mem_nil, or_false] at hname
  rcases hname with rfl | rfl | rfl
  · exact hquantity log.blockNumber hmem
  · exact hquantity log.logIndex hmem
  · exact hquantity htransaction hmem

theorem fitWidth_of_length {width : Nat} {content : Octets} (h : content.length = width) :
    Read.fitWidth width content = .ok content := by
  simp [Read.fitWidth, h]

/-- All members that the reading of an event asks for are there. -/
theorem exists_fields {members' : List (String × Value)}
    (h : Read.withNumbers ["blockNumber", "logIndex", "transactionIndex"] log.members =
      .ok members') :
    ∃ values, logFields.mapM (Read.field members') = .ok values := by
  obtain ⟨n, htransaction⟩ := log.transactionIndex
  have hquantity : ∀ {name : String} {n : Nat}, (name, .text (Hex.quantity n)) ∈ log.members →
      name ∈ ["blockNumber", "logIndex", "transactionIndex"] →
      ∃ v, Read.field members' name = .ok v := by
    intro name n hmem hname
    have hw : Read.numberMember ["blockNumber", "logIndex", "transactionIndex"] name
        (.text (Hex.quantity n)) = .ok (.int n) := by
      rw [Read.numberMember, if_pos (List.contains_iff_mem.mpr hname)]
      exact Read.numberIfText_quantity n
    exact ⟨_, Read.field_withNumbers log.nodup h hmem hw⟩
  have horigin : ∀ name ∈ ["transactionHash", "address", "blockHash"],
      ∃ v, Read.field members' name = .ok v := by
    intro name hname
    obtain ⟨v, hv⟩ := log.origin name hname
    refine ⟨v, Read.field_withNumbers log.nodup h hv ?_⟩
    -- none of the three is a number, so it stays as it is
    simp only [List.mem_cons, List.not_mem_nil, or_false] at hname
    rcases hname with rfl | rfl | rfl <;> rfl
  refine exists_mapM_ok fun name hname => ?_
  simp only [logFields, List.mem_cons, List.not_mem_nil, or_false] at hname
  rcases hname with rfl | rfl | rfl | rfl | rfl | rfl
  · exact hquantity log.logIndex (by simp)
  · exact hquantity htransaction (by simp)
  · exact horigin _ (by simp)
  · exact horigin _ (by simp)
  · exact horigin _ (by simp)
  · exact hquantity log.blockNumber (by simp)

/-- A log is read as what it announces and its place. -/
theorem read : ∃ raw, Log.ofValue log.value = .ok raw ∧
    PlacedLeaf.ofLog Abi.depositLeafInserted raw = .ok ⟨log.leaf, log.place⟩ := by
  obtain ⟨members', hmembers⟩ := log.exists_withNumbers
  have htopics := Read.field_withNumbers log.nodup hmembers log.topics rfl
  have hdata := Read.field_withNumbers log.nodup hmembers log.data rfl
  have hblock := Read.field_withNumbers log.nodup hmembers log.blockNumber
    (Read.numberIfText_quantity log.block)
  have hplace := Read.field_withNumbers log.nodup hmembers log.logIndex
    (Read.numberIfText_quantity log.place)
  have htopic : Abi.leafTopic.length = 32 := Keccak.length_hash _
  have hword : (Octets.ofNatWidth 32 log.index).length = 32 := Octets.length_ofNatWidth _ _
  refine ⟨⟨[Abi.leafTopic, Octets.ofNatWidth 32 log.index, log.hash], [], members'⟩, ?_, ?_⟩
  · have hempty : Read.octets (.text "0x") = .ok [] := rfl
    simp [Log.ofValue, value, Read.record, hmembers, htopics, hdata, hempty,
      fitWidth_of_length htopic, fitWidth_of_length hword, fitWidth_of_length log.length_hash,
      Pure.pure, Except.pure]
  · obtain ⟨values, hfields⟩ := log.exists_fields hmembers
    have harguments := Abi.arguments_depositLeafInserted log.index_lt log.length_hash
    simp [PlacedLeaf.ofLog, harguments, hfields, hblock, hplace, leaf]
    rfl

/-- A log that was read. -/
def placed (log : LeafLog) : PlacedLeaf := ⟨log.leaf, log.place⟩

theorem exists_read_all (logs : List LeafLog) :
    ∃ raws, (logs.map value).mapM Log.ofValue = .ok raws ∧
      raws.mapM (PlacedLeaf.ofLog Abi.depositLeafInserted) = .ok (logs.map placed) := by
  induction logs with
  | nil => exact ⟨[], rfl, rfl⟩
  | cons log logs ih =>
    obtain ⟨raw, hraw, hplaced⟩ := log.read
    obtain ⟨raws, hraws, hrest⟩ := ih
    refine ⟨raw :: raws, ?_, ?_⟩
    · rw [List.map_cons, List.mapM_cons, hraw, hraws]
      rfl
    · rw [List.mapM_cons, hplaced, hrest]
      rfl

end LeafLog

/-- The order of a chain: by block, and in a block by place. -/
def InChainOrder (logs : List LeafLog) : Prop :=
  logs.Pairwise fun a b => a.block < b.block ∨ a.block = b.block ∧ a.place ≤ b.place

/-- Of logs in the order of the chain the leaves are read in this order. -/
theorem leavesOf_values {logs : List LeafLog} (h : InChainOrder logs) :
    leavesOf Abi.depositLeafInserted (.list (logs.map LeafLog.value)) =
      .ok (logs.map LeafLog.leaf) := by
  obtain ⟨raws, hraws, hplaced⟩ := LeafLog.exists_read_all logs
  have hsorted : (logs.map LeafLog.placed).mergeSort PlacedLeaf.isNotAfter =
      logs.map LeafLog.placed := by
    refine List.mergeSort_of_pairwise (List.pairwise_map.mpr (h.imp fun {a b} hab => ?_))
    simp only [PlacedLeaf.isNotAfter, Bool.or_eq_true, Bool.and_eq_true, decide_eq_true_eq]
    simp only [LeafLog.placed, LeafLog.leaf]
    omega
  simp only [leavesOf, pure_bind, hraws, ok_bind, hplaced, hsorted, List.map_map]
  rfl

end Client

end DepositBridge
