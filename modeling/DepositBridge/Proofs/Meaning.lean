import DepositBridge.Proofs.PrivateKeys
import DepositBridge.Proofs.Spellings

/-!
# Deposits depend on what their fields mean

A request keeps the text of its key and the numeral of its token as they were spelled. What a bridge
asks of the nodes does not depend on the spelling: of two drafts that mean the same, the deposits
are the same program, so they ask the same, note the same and come to the same end whatever the
nodes answer (`Bridge.buildAndDeposit_of_sameMeaning`).
-/

namespace DepositBridge

/-! ## Fields that mean the same -/

namespace Field

/-- What a field means: what its value writes, or what it means to leave the field out. -/
def Means {β : Type} (writes : Value → β → Prop) (absent : Option β) : Option Value → β → Prop
  | some v, b => writes v b
  | none, b => absent = some b

/-- Two fields mean the same. -/
def Agree {β : Type} (writes : Value → β → Prop) (absent : Option β) (f g : Option Value) : Prop :=
  ∃ b, Means writes absent f b ∧ Means writes absent g b

variable {α β γ : Type} {read : Value → Except FieldFault α} {writes : Value → β → Prop}
  {meaning : β → γ} {f g : Option Value} {a a' : α}

/-- Of fields that have to be there and mean the same, readers make the same. -/
theorem Agree.required (value : α → γ)
    (hreads : ∀ v a b, read v = .ok a → writes v b → value a = meaning b)
    (h : Agree writes none f g) (hf : required read f = .ok a)
    (hg : Field.required read g = .ok a') : value a = value a' := by
  obtain ⟨b, hfb, hgb⟩ := h
  cases f with
  | none => cases hfb
  | some v =>
    cases g with
    | none => cases hgb
    | some w => exact (hreads v a b hf hfb).trans (hreads w a' b hg hgb).symm

/-- Of fields that may be absent and mean the same, readers make the same. -/
theorem Agree.withDefault {default_ : α} {absent : β} (value : α → γ)
    (hreads : ∀ v a b, read v = .ok a → writes v b → value a = meaning b)
    (hdefault : value default_ = meaning absent) (h : Agree writes (some absent) f g)
    (hf : withDefault default_ read f = .ok a) (hg : withDefault default_ read g = .ok a') :
    value a = value a' := by
  have hmeans : ∀ {field : Option Value} {a : α} {b : β}, Means writes (some absent) field b →
      Field.withDefault default_ read field = .ok a → value a = meaning b := by
    intro field a b hb ha
    cases field with
    | none =>
      cases hb
      cases ha
      exact hdefault
    | some v => exact hreads v a b ha hb
  obtain ⟨b, hfb, hgb⟩ := h
  exact (hmeans hfb hf).trans (hmeans hgb hg).symm

end Field

/-! ## Drafts that mean the same -/

namespace Request

/-- Two drafts mean the same: the same URLs, amount and kind of token, keys that are plain texts of
one key of the curve, and addresses, token identifiers and commitments that write the same. -/
structure Draft.SameMeaning (d e : Draft) : Prop where
  privateKey : Field.Agree Value.IsPlainKey none d.privateKey e.privateKey
  l1Url : urlField d.l1Url = urlField e.l1Url
  liquidityAddress : Field.Agree Value.WritesAddress none d.liquidityAddress e.liquidityAddress
  l2Url : urlField d.l2Url = urlField e.l2Url
  rollupAddress : Field.Agree Value.WritesAddress none d.rollupAddress e.rollupAddress
  amount : Field.required Field.amount d.amount = Field.required Field.amount e.amount
  tokenType : tokenField d.tokenType = tokenField e.tokenType
  tokenAddress :
    Field.Agree Value.WritesAddress (some Address.zero) d.tokenAddress e.tokenAddress
  tokenId : Field.Agree Value.WritesNumber (some 0) d.tokenId e.tokenId
  salt : Field.Agree Value.WritesWord none d.salt e.salt

/-- Two requests differ at most in the spelling of their keys and of their token identifiers. -/
structure Respells (request other : Request) : Prop where
  wallet : Wallet.ofKey (.text request.privateKey) = Wallet.ofKey (.text other.privateKey)
  l1Url : request.l1Url = other.l1Url
  liquidityAddress : request.liquidityAddress = other.liquidityAddress
  l2Url : request.l2Url = other.l2Url
  rollupAddress : request.rollupAddress = other.rollupAddress
  amount : request.amount = other.amount
  token : request.token = other.token
  tokenAddress : request.tokenAddress = other.tokenAddress
  tokenNumber : request.tokenId.number = other.tokenId.number
  salt : request.salt = other.salt

theorem address_of_writes (v : Value) (a b : Address) (hread : Field.address v = .ok a)
    (hwrites : v.WritesAddress b) : a = b :=
  Except.ok.inj (hread.symm.trans (Field.address_eq_ok_iff.mpr hwrites))

theorem salt_of_writes (v : Value) (octets other : Octets) (hread : Field.hash v = .ok octets)
    (hwrites : v.WritesWord other) : octets = other :=
  Except.ok.inj (hread.symm.trans (Field.hash_eq_ok_iff_writes.mpr hwrites))

/-- Drafts that mean the same and are accepted make requests that differ in spelling only. -/
theorem respells_of_sameMeaning {d e : Draft} {request other : Request}
    (hd : ofDraft d = .ok request) (he : ofDraft e = .ok other) (h : d.SameMeaning e) :
    Respells request other := by
  have hd := ofDraft_eq_ok_iff.mp hd
  have he := ofDraft_eq_ok_iff.mp he
  have hwallet : ∀ v text key, keyField v = .ok text → v.IsPlainKey key →
      Wallet.ofKey (.text text) = .ok (.ofNumber key) := by
    intro v text key hkey hplain
    exact (ofKey_iff_of_keyField hkey _).mpr ⟨key, hplain, rfl⟩
  have hnumber : ∀ v id n, tokenIdField v = .ok id → v.WritesNumber n → id.number = n := by
    intro v id n
    exact number_of_tokenIdField
  have htoken : Except.ok (Except.ok request.token) = Except.ok (Except.ok other.token) :=
    hd.token.symm.trans (h.tokenType.trans he.token)
  exact {
    wallet := h.privateKey.required (fun text => Wallet.ofKey (.text text)) hwallet hd.privateKey
      he.privateKey
    l1Url := Except.ok.inj (hd.l1Url.symm.trans (h.l1Url.trans he.l1Url))
    liquidityAddress :=
      h.liquidityAddress.required id address_of_writes hd.liquidityAddress he.liquidityAddress
    l2Url := Except.ok.inj (hd.l2Url.symm.trans (h.l2Url.trans he.l2Url))
    rollupAddress := h.rollupAddress.required id address_of_writes hd.rollupAddress he.rollupAddress
    amount := Except.ok.inj (hd.amount.symm.trans (h.amount.trans he.amount))
    token := Except.ok.inj (Except.ok.inj htoken)
    tokenAddress :=
      h.tokenAddress.withDefault id address_of_writes rfl hd.tokenAddress he.tokenAddress
    tokenNumber := h.tokenId.withDefault TokenId.number hnumber rfl hd.tokenId he.tokenId
    salt := h.salt.required id salt_of_writes hd.salt he.salt }

end Request

/-! ## The deposits of requests -/

namespace Bridge

variable {request other : Request}

/-- Nothing of a deposit is told by the spelling of its request. -/
theorem deposit_of_respells (h : request.Respells other) (relays : Bool) :
    deposit relays request = deposit relays other := by
  cases request
  cases other
  obtain ⟨-, rfl, rfl, rfl, rfl, rfl, rfl, rfl, hnumber, rfl⟩ := h
  simp only at hnumber
  simp only [deposit, depositCall, indexCall, depositOf, Request.asset, Request.saltText, hnumber]

theorem ofRequest_of_respells (h : request.Respells other) (options : Endpoints.Options) :
    Endpoints.ofRequest request options = Endpoints.ofRequest other options := by
  simp only [Endpoints.ofRequest, h.l1Url, h.liquidityAddress, h.l2Url, h.rollupAddress]

/-- Builds a bridge for a request and deposits what it asks for. -/
def buildAndDeposit (tree : FileTree) (options : Endpoints.Options) (relays : Bool)
    (request : Request) : Talk Outcome := do
  let bridge ← build tree (.ofRequest request options) (.text request.privateKey)
  bridge.carryOut (deposit relays request)

theorem buildAndDeposit_of_respells (h : request.Respells other) (tree : FileTree)
    (options : Endpoints.Options) (relays : Bool) :
    buildAndDeposit tree options relays request = buildAndDeposit tree options relays other := by
  simp only [buildAndDeposit, build, h.wallet, ofRequest_of_respells h, deposit_of_respells h]

/-- Two accepted drafts that mean the same, however they are spelled, are deposited alike: the same
is asked of both nodes, and the same outcome or failure comes of it, whatever the nodes answer. -/
theorem buildAndDeposit_of_sameMeaning {d e : Request.Draft} (hd : Request.ofDraft d = .ok request)
    (he : Request.ofDraft e = .ok other) (h : d.SameMeaning e) (tree : FileTree)
    (options : Endpoints.Options) (relays : Bool)
    (nodes : Program.Behaviour Node.Query Node.Answer)
    (history : List (Node.Query × Node.Answer)) :
    Program.runFrom nodes history (buildAndDeposit tree options relays request).run =
      Program.runFrom nodes history (buildAndDeposit tree options relays other).run := by
  rw [buildAndDeposit_of_respells (Request.respells_of_sameMeaning hd he h)]

/-- The key of the sample request without a mark. -/
def sampleKeyDigits : String := String.ofList (Hex.encodeChars (Octets.ofNatWidth 32 1))

/-- The commitment of the sample request in pairs of digits with blanks between them. -/
def sampleSpacedSalt : String := "0X" ++ String.ofList (List.replicate 32 [' ', '0', '7']).flatten

/-- A draft of the sample request that is spelled differently: the marks are others, the commitment
is a text with blanks, and what may be left out is there. -/
def sampleRespelled : Request.Draft where
  privateKey := some (.text sampleKeyDigits)
  l1Url := some (.parsed sampleRequest.l1Url)
  liquidityAddress := some (.text ("0X" ++ String.ofList (List.replicate 40 '0')))
  l2Url := some (.parsed sampleRequest.l2Url)
  rollupAddress := some (.text (String.ofList (List.replicate 40 '0')))
  amount := some (.int 1000)
  tokenType := some (.int 0)
  tokenAddress := some (.text Address.zero.text)
  tokenId := some (.text "0X00")
  salt := some (.text sampleSpacedSalt)

/-- The two drafts of the sample request are accepted and kept differently, and are deposited
alike. -/
theorem buildAndDeposit_of_sameMeaning_sample :
    ∃ request other, Request.ofDraft (sampleDraft sampleRequest.privateKey) = .ok request ∧
      Request.ofDraft sampleRespelled = .ok other ∧
      request.privateKey ≠ other.privateKey ∧ request.tokenId ≠ other.tokenId ∧
      ∀ tree options relays nodes history,
        Program.runFrom nodes history (buildAndDeposit tree options relays request).run =
          Program.runFrom nodes history (buildAndDeposit tree options relays other).run := by
  have hword := ofText_sampleKey
  have hword' : Bytes32.ofText sampleKeyDigits = .ok (Octets.ofNatWidth 32 1) := by decide +kernel
  have hkey := Request.keyField_text hword'
  have hzero := Field.address_text .zero
  have hliquidity : Field.address (.text ("0X" ++ String.ofList (List.replicate 40 '0'))) =
      .ok .zero := rfl
  have hrollup : Field.address (.text (String.ofList (List.replicate 40 '0'))) = .ok .zero := rfl
  have hnumber : TokenId.readNumber "0X00" = .ok 0 := by decide +kernel
  have hid : Field.withDefault TokenId.zero Request.tokenIdField (some (.text "0X00")) =
      .ok ⟨"0X00", 0⟩ := by
    rw [Field.withDefault, Request.tokenIdField_text]
    exact Request.tokenIdOfText_eq_ok_iff.mpr ⟨rfl, hnumber, by decide⟩
  have hspaced : Bytes32.ofText sampleSpacedSalt = .ok sampleRequest.salt := by decide +kernel
  have hsalt : Field.hash (.text sampleSpacedSalt) = .ok sampleRequest.salt := by
    simp only [Field.hash, hspaced]
  have haccepted := ofDraft_sampleDraft hword
  have hother : Request.ofDraft sampleRespelled = .ok { sampleRequest with
      privateKey := sampleKeyDigits, tokenId := ⟨"0X00", 0⟩ } :=
    Request.ofDraft_eq_ok_iff.mpr
      ⟨hkey, rfl, hliquidity, rfl, hrollup, rfl, rfl, hzero, hid, hsalt⟩
  have hplain := Value.isPlainKey_encodeMarked (show Secp256k1.isKey 1 = true from rfl)
  have hsolid : ∀ c ∈ sampleKeyDigits.toList, Hex.isBlank c = false := by
    intro c hc
    rw [sampleKeyDigits, String.toList_ofList] at hc
    exact Hex.not_isBlank_of_isDigit (Hex.isDigit_of_mem_encodeChars c hc)
  have hplain' : (Value.text sampleKeyDigits).IsPlainKey 1 :=
    ⟨_, _, rfl, hsolid, hword', Octets.toNat_ofNatWidth_of_lt (by decide), rfl⟩
  refine ⟨_, _, haccepted, hother, by decide +kernel, by decide, ?_⟩
  refine buildAndDeposit_of_sameMeaning haccepted hother ?_
  have hzero := Field.address_eq_ok_iff.mp hzero
  exact {
    privateKey := ⟨1, hplain, hplain'⟩
    l1Url := rfl
    liquidityAddress := ⟨.zero, hzero, Field.address_eq_ok_iff.mp hliquidity⟩
    l2Url := rfl
    rollupAddress := ⟨.zero, hzero, Field.address_eq_ok_iff.mp hrollup⟩
    amount := rfl
    tokenType := rfl
    tokenAddress := ⟨.zero, rfl, hzero⟩
    tokenId := ⟨0, rfl, .inr ⟨_, rfl, hnumber⟩⟩
    salt := ⟨sampleRequest.salt, ⟨rfl, .inl rfl⟩, Field.hash_eq_ok_iff_writes.mp hsalt⟩ }

end Bridge

end DepositBridge
