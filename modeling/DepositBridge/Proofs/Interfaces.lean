import DepositBridge.Abi.Artifact
import DepositBridge.Abi.Interface
import DepositBridge.Deposit.Token
import DepositBridge.Proofs.Codec
import DepositBridge.Proofs.Results

/-!
# The built-in interfaces

The functions that are found in the built-in interfaces by their names, and the data that arguments
give for them.
-/

namespace DepositBridge.Abi

/-! ## The functions -/

/-- The function that deposits the native token. -/
def depositNativeToken : Function := ⟨"depositNativeToken", [.fixedBytes 32], [], true⟩

/-- The function that deposits tokens of a contract. -/
def depositERC20 : Function := ⟨"depositERC20", [.address, .fixedBytes 32, .uint 256], [], false⟩

/-- The function that tells the index of a token. -/
def getTokenIndex : Function :=
  ⟨"getTokenIndex", [.uint 8, .address, .uint 256], [.bool, .uint 32], true⟩

/-- The function that tells the rollup about deposits. -/
def processDeposits : Function :=
  ⟨"processDeposits", [.uint 256, .array (.fixedBytes 32)], [], false⟩

/-- Without a directory the built-in interfaces are loaded. -/
theorem load_liquidity (tree : FileTree) :
    load tree liquidityName none = .ok liquidityEntries := rfl

theorem load_rollup (tree : FileTree) : load tree rollupName none = .ok rollupEntries := rfl

/-! ## Looking up -/

theorem callOf?_eq_some_iff {name : String} {entry : Value} {f : Function}
    (hf : Function.ofEntry? name entry = some f) {arguments : List Value} {call : Call} :
    callOf? name arguments entry = some call ↔
      ∃ data, Ty.allOf? f.inputs arguments = some data ∧ isEncodable f.inputs data = true ∧
        call = ⟨f, data⟩ := by
  simp only [callOf?, hf, Option.bind_eq_bind, Option.bind_some, Option.bind_eq_some_iff,
    Option.pure_def, Option.ite_none_right_eq_some, Option.some.injEq, @eq_comm _ call]

/-- Where one entry has a name and is a function, a call of the name is a call of the function with
the data that the arguments give. -/
theorem findCall_eq_ok_iff {entries : List Value} {name : String} {entry : Value} {f : Function}
    (hnamed : functionsNamed entries name = .ok [entry])
    (hf : Function.ofEntry? name entry = some f)
    {arguments : List Value} {call : Call} :
    findCall entries name arguments = .ok call ↔
      ∃ data, Ty.allOf? f.inputs arguments = some data ∧ isEncodable f.inputs data = true ∧
        call = ⟨f, data⟩ := by
  rw [← callOf?_eq_some_iff hf]
  simp only [findCall, hnamed, ok_bind]
  cases hcall : callOf? name arguments entry with
  | none => simp [List.filterMap, hcall, throw, throwThe, MonadExceptOf.throw]
  | some found => simp [List.filterMap, hcall, Pure.pure, Except.pure]

variable {arguments : List Value} {call : Call}

theorem findCall_depositNativeToken :
    findCall liquidityEntries "depositNativeToken" arguments = .ok call ↔
      ∃ data, Ty.allOf? depositNativeToken.inputs arguments = some data ∧
        isEncodable depositNativeToken.inputs data = true ∧ call = ⟨depositNativeToken, data⟩ :=
  findCall_eq_ok_iff rfl rfl

theorem findCall_depositERC20 :
    findCall liquidityEntries "depositERC20" arguments = .ok call ↔
      ∃ data, Ty.allOf? depositERC20.inputs arguments = some data ∧
        isEncodable depositERC20.inputs data = true ∧ call = ⟨depositERC20, data⟩ :=
  findCall_eq_ok_iff rfl rfl

theorem findCall_getTokenIndex :
    findCall liquidityEntries "getTokenIndex" arguments = .ok call ↔
      ∃ data, Ty.allOf? getTokenIndex.inputs arguments = some data ∧
        isEncodable getTokenIndex.inputs data = true ∧ call = ⟨getTokenIndex, data⟩ :=
  findCall_eq_ok_iff rfl rfl

theorem findCall_processDeposits :
    findCall rollupEntries "processDeposits" arguments = .ok call ↔
      ∃ data, Ty.allOf? processDeposits.inputs arguments = some data ∧
        isEncodable processDeposits.inputs data = true ∧ call = ⟨processDeposits, data⟩ :=
  findCall_eq_ok_iff rfl rfl

/-! ## Reading calls back -/

/-- Whether all data of a type that values give are one word. -/
def Ty.isWord : Ty → Bool
  | .uint bits => bits ≤ 256
  | .bool | .address => true
  | .fixedBytes size => size ≤ 32
  | _ => false

/-- Whether all data of a type that values give are one word, or lists of such data. -/
def Ty.isFlat : Ty → Bool
  | .array item => item.isWord
  | t => t.isWord

theorem isWord_of_ofValue? {t : Ty} {v : Value} {d : Datum} (ht : t.isWord = true)
    (h : Ty.ofValue? t v = some d) : IsWord t d := by
  cases t <;> simp only [Ty.isWord, Bool.false_eq_true, decide_eq_true_eq] at ht
  case uint bits =>
    cases v <;> simp only [Ty.ofValue?, reduceCtorEq] at h
    next n =>
      split at h
      · next hn =>
        obtain ⟨m, rfl⟩ := Int.eq_ofNat_of_zero_le hn.1
        cases h
        exact .uint ht (by exact_mod_cast hn.2)
      · cases h
  case bool =>
    cases v <;> simp only [Ty.ofValue?, reduceCtorEq] at h
    cases h
    exact .bool _
  case address =>
    cases v <;> simp only [Ty.ofValue?, reduceCtorEq, Option.map_eq_some_iff] at h <;>
      obtain ⟨a, -, rfl⟩ := h <;> exact .address a
  case fixedBytes size =>
    simp only [Ty.ofValue?, Option.bind_eq_some_iff] at h
    obtain ⟨octets, -, h⟩ := h
    split at h
    · next hlength =>
      cases h
      exact .fixedBytes ht hlength
    · cases h

theorem isWord_of_itemsOf? {item : Ty} {values : List Value} {data : List Datum}
    (hitem : item.isWord = true) (h : Ty.itemsOf? item values = some data) :
    ∀ d ∈ data, IsWord item d := by
  induction values generalizing data with
  | nil =>
    cases h
    simp
  | cons v values ih =>
    simp only [Ty.itemsOf?, Option.bind_eq_bind, Option.bind_eq_some_iff, Option.pure_def,
      Option.some.injEq] at h
    obtain ⟨d, hd, rest, hrest, rfl⟩ := h
    exact List.forall_mem_cons.mpr ⟨isWord_of_ofValue? hitem hd, ih hrest⟩

theorem isFlat_of_ofValue? {t : Ty} {v : Value} {d : Datum} (ht : t.isFlat = true)
    (h : Ty.ofValue? t v = some d) : IsFlat t d := by
  cases t with
  | array item =>
    cases v <;> simp only [Ty.ofValue?, reduceCtorEq, Option.map_eq_some_iff] at h
    obtain ⟨data, hdata, rfl⟩ := h
    exact .array (isWord_of_itemsOf? ht hdata)
  | _ => exact .word (isWord_of_ofValue? ht h)

theorem forall₂_isFlat {types : List Ty} {values : List Value} {data : List Datum}
    (htypes : types.all Ty.isFlat = true) (h : Ty.allOf? types values = some data) :
    List.Forall₂ IsFlat types data := by
  induction types generalizing values data with
  | nil =>
    cases values <;> simp only [Ty.allOf?, Option.some.injEq, reduceCtorEq] at h
    subst h
    exact .nil
  | cons t types ih =>
    cases values <;> simp only [Ty.allOf?, reduceCtorEq, Option.bind_eq_bind,
      Option.bind_eq_some_iff, Option.pure_def, Option.some.injEq] at h
    simp only [List.all_cons, Bool.and_eq_true] at htypes
    obtain ⟨d, hd, rest, hrest, rfl⟩ := h
    exact .cons (isFlat_of_ofValue? htypes.1 hd) (ih htypes.2 hrest)

@[simp] theorem length_selectorOf (signature : String) : (selectorOf signature).length = 4 := by
  simp [selectorOf]

/-- A call of a function is its selector and the arguments, which read back. -/
theorem callData_reads_back {f : Function} {values : List Value} {data : List Datum}
    (hflat : f.inputs.all Ty.isFlat = true) (h : Ty.allOf? f.inputs values = some data)
    (hencodable : isEncodable f.inputs data = true) :
    (f.callData data).take 4 = f.selector ∧
      decodeAll? f.inputs ((f.callData data).drop 4) = some data := by
  have hselector : f.selector.length = 4 := length_selectorOf _
  rw [Function.callData, List.take_left' hselector, List.drop_left' hselector]
  exact ⟨rfl, decodeAll?_encodeAll (forall₂_isFlat hflat h) (of_decide_eq_true hencodable)⟩

/-! ## Reading answers -/

/-- What is read of a type of one word is data of the type. -/
theorem isWord_of_decodeBody {t : Ty} {d : Datum} {octets : Octets} {depth place : Nat}
    (ht : t.isWord = true) (h : decodeBody depth t octets place = some d) : IsWord t d := by
  cases depth with
  | zero => simp [decodeBody] at h
  | succ depth =>
    cases t <;> simp only [Ty.isWord, Bool.false_eq_true, decide_eq_true_eq] at ht <;>
      simp only [decodeBody, Option.bind_eq_bind, Option.bind_eq_some_iff] at h
    case uint bits =>
      obtain ⟨n, -, hn⟩ := h
      split at hn
      · rename_i hsmall
        cases hn
        exact .uint ht hsmall
      · cases hn
    case bool =>
      obtain ⟨n, -, hn⟩ := h
      split at hn <;> cases hn <;> exact .bool _
    case address =>
      obtain ⟨found, -, hfound⟩ := h
      split at hfound
      · obtain ⟨a, -, rfl⟩ := Option.map_eq_some_iff.mp hfound
        exact .address a
      · cases hfound
    case fixedBytes size =>
      obtain ⟨found, hword, hfound⟩ := h
      have hlength := length_of_wordAt? hword
      split at hfound
      · cases hfound
        exact .fixedBytes ht (by rw [List.length_take]; omega)
      · cases hfound

theorem isWord_of_decodeAt {t : Ty} {d : Datum} {octets : Octets} {depth start place : Nat}
    (ht : t.isWord = true) (h : decodeAt depth t octets start place = some d) : IsWord t d := by
  have hstatic : t.isDynamic = false := by
    cases t <;> first | rfl | cases ht
  cases depth with
  | zero => simp [decodeAt] at h
  | succ depth =>
    rw [decodeAt, if_neg (by simp [hstatic])] at h
    exact isWord_of_decodeBody ht h

theorem isWord_of_decodeList {types : List Ty} {data : List Datum} {octets : Octets}
    {depth start place : Nat} (htypes : types.all Ty.isWord = true)
    (h : decodeList depth types octets start place = some data) :
    List.Forall₂ IsWord types data := by
  induction types generalizing depth place data with
  | nil =>
    cases depth <;> simp only [decodeList, Option.some.injEq] at h <;> subst h <;> exact .nil
  | cons t types ih =>
    simp only [List.all_cons, Bool.and_eq_true] at htypes
    cases depth with
    | zero => simp [decodeList] at h
    | succ depth =>
      simp only [decodeList, Option.bind_eq_bind, Option.bind_eq_some_iff, Option.pure_def,
        Option.some.injEq] at h
      obtain ⟨d, hd, rest, hrest, rfl⟩ := h
      exact .cons (isWord_of_decodeAt htypes.1 hd) (ih htypes.2 hrest)

/-- The index in an answer of the function that tells it fits into its field. -/
theorem index_of_answer {octets : Octets} {found : Bool} {index : Int}
    (h : decodeAll? getTokenIndex.outputs octets = some [.flag found, .number index]) :
    0 ≤ index ∧ index < Nat.pow 2 32 := by
  obtain - | ⟨-, - | ⟨hindex, -⟩⟩ := isWord_of_decodeList rfl h
  cases hindex with
  | uint _ hsmall => exact ⟨Int.natCast_nonneg _, Int.ofNat_lt.mpr hsmall⟩

/-! ## The arguments -/

variable {data : List Datum} {salt : Octets}

theorem ofValue?_bytes32 {d : Datum} :
    Ty.ofValue? (.fixedBytes 32) (.bytes salt) = some d ↔ salt.length = 32 ∧ d = .octets salt := by
  simp only [Ty.ofValue?, Ty.octetsOf?, Option.bind_some]
  split <;> simp_all [eq_comm]

theorem ofValue?_uint {bits : Nat} {n : Int} {d : Datum} :
    Ty.ofValue? (.uint bits) (.int n) = some d ↔ (0 ≤ n ∧ n < Nat.pow 2 bits) ∧ d = .number n := by
  simp only [Ty.ofValue?]
  rw [Option.ite_none_right_eq_some, Option.some.injEq, @eq_comm _ d]

theorem ofValue?_address {token : String} {d : Datum} :
    Ty.ofValue? .address (.text token) = some d ↔
      ∃ address, Address.ofText? token = some address ∧ d = .address address := by
  simp only [Ty.ofValue?, Option.map_eq_some_iff, @eq_comm _ d]

theorem ofValue?_bytes32s {hashes : List Octets} {d : Datum} :
    Ty.ofValue? (.array (.fixedBytes 32)) (.list (hashes.map .bytes)) = some d ↔
      (∀ hash ∈ hashes, hash.length = 32) ∧ d = .list (hashes.map .octets) := by
  -- for all lists of data at once, since the rest of the hashes gives the rest of the data
  have hitems : ∀ data, Ty.itemsOf? (.fixedBytes 32) (hashes.map .bytes) = some data ↔
      (∀ hash ∈ hashes, hash.length = 32) ∧ data = hashes.map .octets := by
    induction hashes with
    | nil => simp [Ty.itemsOf?, eq_comm]
    | cons hash rest ih =>
      intro data
      simp only [List.map_cons, Ty.itemsOf?, Option.bind_eq_bind, Option.bind_eq_some_iff,
        ofValue?_bytes32, ih, Option.pure_def, Option.some.injEq, List.forall_mem_cons]
      constructor
      · rintro ⟨_, ⟨hhash, rfl⟩, _, ⟨hrest, rfl⟩, rfl⟩
        exact ⟨⟨hhash, hrest⟩, rfl⟩
      · rintro ⟨⟨hhash, hrest⟩, rfl⟩
        exact ⟨_, ⟨hhash, rfl⟩, _, ⟨hrest, rfl⟩, rfl⟩
  simp only [Ty.ofValue?, Option.map_eq_some_iff, hitems]
  constructor
  · rintro ⟨_, ⟨hhashes, rfl⟩, rfl⟩
    exact ⟨hhashes, rfl⟩
  · rintro ⟨hhashes, rfl⟩
    exact ⟨_, ⟨hhashes, rfl⟩, rfl⟩

theorem allOf?_nil_iff : Ty.allOf? [] [] = some data ↔ data = [] := by
  simp [Ty.allOf?, eq_comm]

theorem allOf?_cons_iff {t : Ty} {types : List Ty} {v : Value} {values : List Value} :
    Ty.allOf? (t :: types) (v :: values) = some data ↔
      ∃ d rest, Ty.ofValue? t v = some d ∧ Ty.allOf? types values = some rest ∧
        data = d :: rest := by
  simp only [Ty.allOf?, Option.bind_eq_bind, Option.bind_eq_some_iff, Option.pure_def,
    Option.some.injEq]
  constructor
  · rintro ⟨d, hd, rest, hrest, rfl⟩
    exact ⟨d, rest, hd, hrest, rfl⟩
  · rintro ⟨d, rest, hd, hrest, rfl⟩
    exact ⟨d, hd, rest, hrest, rfl⟩

theorem allOf?_three_iff {t₁ t₂ t₃ : Ty} {v₁ v₂ v₃ : Value} :
    Ty.allOf? [t₁, t₂, t₃] [v₁, v₂, v₃] = some data ↔
      ∃ d₁ d₂ d₃, Ty.ofValue? t₁ v₁ = some d₁ ∧ Ty.ofValue? t₂ v₂ = some d₂ ∧
        Ty.ofValue? t₃ v₃ = some d₃ ∧ data = [d₁, d₂, d₃] := by
  simp only [allOf?_cons_iff, allOf?_nil_iff]
  constructor
  · rintro ⟨d₁, _, h₁, ⟨d₂, _, h₂, ⟨d₃, _, h₃, rfl, rfl⟩, rfl⟩, rfl⟩
    exact ⟨d₁, d₂, d₃, h₁, h₂, h₃, rfl⟩
  · rintro ⟨d₁, d₂, d₃, h₁, h₂, h₃, rfl⟩
    exact ⟨d₁, _, h₁, ⟨d₂, _, h₂, ⟨d₃, _, h₃, rfl, rfl⟩, rfl⟩, rfl⟩

theorem allOf?_depositNativeToken :
    Ty.allOf? depositNativeToken.inputs [.bytes salt] = some data ↔
      salt.length = 32 ∧ data = [.octets salt] := by
  simp only [depositNativeToken, allOf?_cons_iff, allOf?_nil_iff, ofValue?_bytes32]
  constructor
  · rintro ⟨_, _, ⟨hsalt, rfl⟩, rfl, rfl⟩
    exact ⟨hsalt, rfl⟩
  · rintro ⟨hsalt, rfl⟩
    exact ⟨_, _, ⟨hsalt, rfl⟩, rfl, rfl⟩

theorem allOf?_depositERC20 {token : String} {amount : Int} :
    Ty.allOf? depositERC20.inputs [.text token, .bytes salt, .int amount] = some data ↔
      ∃ address, Address.ofText? token = some address ∧ salt.length = 32 ∧
        (0 ≤ amount ∧ amount < Nat.pow 2 256) ∧
        data = [.address address, .octets salt, .number amount] := by
  simp only [depositERC20, allOf?_three_iff, ofValue?_bytes32, ofValue?_uint, ofValue?_address]
  constructor
  · rintro ⟨_, _, _, ⟨address, haddress, rfl⟩, ⟨hsalt, rfl⟩, ⟨hamount, rfl⟩, rfl⟩
    exact ⟨address, haddress, hsalt, hamount, rfl⟩
  · rintro ⟨address, haddress, hsalt, hamount, rfl⟩
    exact ⟨_, _, _, ⟨address, haddress, rfl⟩, ⟨hsalt, rfl⟩, ⟨hamount, rfl⟩, rfl⟩

theorem allOf?_getTokenIndex {token : String} {code id : Int} :
    Ty.allOf? getTokenIndex.inputs [.int code, .text token, .int id] = some data ↔
      ∃ address, (0 ≤ code ∧ code < Nat.pow 2 8) ∧ Address.ofText? token = some address ∧
        (0 ≤ id ∧ id < Nat.pow 2 256) ∧ data = [.number code, .address address, .number id] := by
  simp only [getTokenIndex, allOf?_three_iff, ofValue?_uint, ofValue?_address]
  constructor
  · rintro ⟨_, _, _, ⟨hcode, rfl⟩, ⟨address, haddress, rfl⟩, ⟨hid, rfl⟩, rfl⟩
    exact ⟨address, hcode, haddress, hid, rfl⟩
  · rintro ⟨address, hcode, haddress, hid, rfl⟩
    exact ⟨_, _, _, ⟨hcode, rfl⟩, ⟨address, haddress, rfl⟩, ⟨hid, rfl⟩, rfl⟩

theorem allOf?_processDeposits {last : Int} {hashes : List Octets} :
    Ty.allOf? processDeposits.inputs [.int last, .list (hashes.map .bytes)] = some data ↔
      (0 ≤ last ∧ last < Nat.pow 2 256) ∧ (∀ hash ∈ hashes, hash.length = 32) ∧
        data = [.number last, .list (hashes.map .octets)] := by
  simp only [processDeposits, allOf?_cons_iff, allOf?_nil_iff, ofValue?_uint, ofValue?_bytes32s]
  constructor
  · rintro ⟨_, _, ⟨hlast, rfl⟩, ⟨_, _, ⟨hhashes, rfl⟩, rfl, rfl⟩, rfl⟩
    exact ⟨hlast, hhashes, rfl⟩
  · rintro ⟨hlast, hhashes, rfl⟩
    exact ⟨_, _, ⟨hlast, rfl⟩, ⟨_, _, ⟨hhashes, rfl⟩, rfl, rfl⟩, rfl⟩

/-! ## The sizes of arguments -/

/-- Arguments of one word each take no more than these words. -/
theorem length_encodeAll_of_isWord {types : List Ty} (h : List.Forall₂ IsWord types data) :
    (encodeAll types data).length = 32 * types.length := by
  have hboth : ∀ offset, (places offset (parts types data)).length = 32 * types.length ∧
      tails (parts types data) = [] := by
    induction h with
    | nil => exact fun _ => ⟨rfl, rfl⟩
    | cons hword _ ih =>
      intro offset
      simp only [parts, hword.isDynamic_eq, Bool.false_eq_true, if_false, places, tails,
        List.length_append, hword.length_encode, List.length_cons, (ih offset).1]
      exact ⟨by omega, (ih offset).2⟩
  rw [encodeAll, assemble, List.length_append, (hboth _).1, (hboth 0).2, List.length_nil,
    Nat.add_zero]

theorem isEncodable_of_isWord {types : List Ty} (h : List.Forall₂ IsWord types data)
    (hfew : 32 * types.length < sizeLimit) : isEncodable types data = true := by
  rw [isEncodable, length_encodeAll_of_isWord h]
  exact decide_eq_true hfew

/-- The kind, the address and the number of a token fit into the call that tells its index. -/
theorem findCall_getTokenIndex_of_fits {token : String} {address : Address}
    (htoken : Address.ofText? token = some address) (type : TokenType) {id : Int}
    (hid : 0 ≤ id ∧ id < Nat.pow 2 256) :
    findCall liquidityEntries "getTokenIndex" [.int type.code, .text token, .int id] =
      .ok ⟨getTokenIndex, [.number type.code, .address address, .number id]⟩ := by
  have hcode : (type.code : Int) < Nat.pow 2 8 := by cases type <;> decide
  have hdata := allOf?_getTokenIndex.mpr
    ⟨address, ⟨Int.natCast_nonneg type.code, hcode⟩, htoken, hid, rfl⟩
  refine findCall_getTokenIndex.mpr ⟨_, hdata, isEncodable_of_isWord ?_ (by decide), rfl⟩
  obtain ⟨n, rfl⟩ := Int.eq_ofNat_of_zero_le hid.1
  exact .cons (.uint (by decide) (Int.ofNat_lt.mp hcode))
    (.cons (.address address) (.cons (.uint (Nat.le_refl 256) (Int.ofNat_lt.mp hid.2)) .nil))

/-- A batch takes a word for the number, an offset, a length, and a word for each hash. -/
theorem length_encodeAll_processDeposits (last : Int) {hashes : List Octets}
    (h : ∀ hash ∈ hashes, hash.length = 32) :
    (encodeAll processDeposits.inputs [.number last, .list (hashes.map .octets)]).length =
      96 + 32 * hashes.length := by
  have hwords : ∀ d ∈ hashes.map Datum.octets, IsWord (.fixedBytes 32) d := by
    simp only [List.mem_map, forall_exists_index, and_imp, forall_apply_eq_imp_iff₂]
    exact fun hash hhash => .fixedBytes (Nat.le_refl 32) (h hash hhash)
  have hlist := congrArg List.length (encode_list_eq hwords)
  rw [List.length_append, length_word, length_encodeEach hwords, List.length_map] at hlist
  have hnumber : encode (.uint 256) (.number last) = word last := by simp only [encode]
  simp only [encodeAll, assemble, processDeposits, parts, Ty.isDynamic, Bool.false_eq_true,
    if_false, if_true, places, placesSize, tails, List.length_append, List.length_nil, hnumber,
    length_word, hlist]
  omega

end DepositBridge.Abi
