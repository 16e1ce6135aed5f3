import DepositBridge.Proofs.Settlement
import DepositBridge.Proofs.Stranding

/-!
# Requests in normal form

The fields of a draft are read leniently, but what a request keeps can be read again by anyone:
addresses have their checksum, the commitment is in small digits behind the mark, the numbers are in
range, and the numeral of the token is one that has been read before. So a request that is checked
once more comes out as it went in (`Request.normal_of_ofDraft`).
-/

namespace DepositBridge

/-! ## Texts that read as themselves -/

/-- The text of an address is left as it is. -/
@[simp] theorem Address.checksum_text (a : Address) : checksum (.text a.text) = .ok a.text := by
  simp only [checksum, ofValue, ofText?_text]
  rfl

/-- The marked digits of octets are small, and two for each octet. -/
theorem Hex.exists_smallDigits (bytes : Octets) :
    ∃ digits, (encodeMarked bytes).toList = '0' :: 'x' :: digits ∧
      digits.length = 2 * bytes.length ∧ ∀ c ∈ digits, c ∈ "0123456789abcdef".toList := by
  obtain ⟨digits, htext, hsmall⟩ := isSmallMarked_encodeMarked bytes
  have hdigits : encodeChars bytes = digits := by
    have hchars := (toList_encodeMarked bytes).symm.trans htext
    exact (List.cons.inj (List.cons.inj hchars).2).2
  exact ⟨digits, htext, hdigits ▸ length_encodeChars bytes, hsmall⟩

/-- The field of a hash takes what gives thirty-two octets. -/
theorem Field.hash_eq_ok_iff_ofValue {v : Value} {octets : Octets} :
    hash v = .ok octets ↔ Bytes32.ofValue v = .ok octets := by
  cases v with
  | text s => cases h : Bytes32.ofText s <;> simp [hash, Bytes32.ofValue, h]
  | bytes content => cases h : Bytes32.ofOctets content <;> simp [hash, Bytes32.ofValue, h]
  | _ => simp [hash, Bytes32.ofValue]

namespace Request

/-! ## Normal form -/

/-- The numbers of a request are in range, and each of its texts can be read again, to what the
request has kept of it. -/
structure IsNormal (request : Request) : Prop where
  amount : request.amount < Nat.pow 2 256
  code : request.token.toTokenType.code = 0 ∨ request.token.toTokenType.code = 1
  native : request.asset = .native ↔ request.token.toTokenType.code = 0
  erc20 : request.token.toTokenType.code ≠ 0 → request.asset = .erc20 request.tokenAddress
  liquidityAddress : Address.checksum (.text request.liquidityAddress.text) =
    .ok request.liquidityAddress.text
  rollupAddress : Address.checksum (.text request.rollupAddress.text) =
    .ok request.rollupAddress.text
  tokenAddress : Address.checksum (.text request.tokenAddress.text) = .ok request.tokenAddress.text
  saltText : ∃ digits, request.saltText.toList = '0' :: 'x' :: digits ∧ digits.length = 64 ∧
    ∀ c ∈ digits, c ∈ "0123456789abcdef".toList
  salt : Bytes32.ofText request.saltText = .ok request.salt
  tokenId : TokenId.readNumber request.tokenId.text = .ok (request.tokenId.number : Int)
  tokenNumber : request.tokenId.number < Nat.pow 2 256

/-- The number of a kind decides what a request deposits. -/
theorem asset_eq (request : Request) :
    request.asset = if request.token.toTokenType.code = 0 then .native
      else .erc20 request.tokenAddress := by
  unfold asset
  cases request.token <;> rfl

/-- What is accepted is in normal form. -/
theorem Accepts.isNormal {draft : Draft} {request : Request} (h : Accepts draft request) :
    request.IsNormal := by
  have hfits := fits_of_ofDraft (ofDraft_eq_ok_iff.mpr h)
  obtain ⟨-, hread, hnumber⟩ := tokenIdOfText_eq_ok_iff.mp (tokenIdOfText_text h.tokenId)
  exact {
    amount := hfits.amount
    code := by
      cases request.token with
      | native => exact .inl rfl
      | erc20 => exact .inr rfl
    native := by simp [asset_eq]
    erc20 := fun hcode => by rw [asset_eq, if_neg hcode]
    liquidityAddress := Address.checksum_text _
    rollupAddress := Address.checksum_text _
    tokenAddress := Address.checksum_text _
    saltText := by
      obtain ⟨digits, htext, hlength, hsmall⟩ := Hex.exists_smallDigits request.salt
      exact ⟨digits, htext, by rw [hlength, hfits.salt], hsmall⟩
    salt := Bytes32.ofText_encodeMarked hfits.salt
    tokenId := hread
    tokenNumber := hnumber }

/-! ## Checking once more -/

/-- The draft of a request's own values. The URLs are given apart. -/
def toDraft (request : Request) (l1Url l2Url : Option Given) : Draft where
  privateKey := some (.text request.privateKey)
  l1Url := l1Url
  liquidityAddress := some (.text request.liquidityAddress.text)
  l2Url := l2Url
  rollupAddress := some (.text request.rollupAddress.text)
  amount := some (.int request.amount)
  tokenType := some (.int request.token.toTokenType.code)
  tokenAddress := some (.text request.tokenAddress.text)
  tokenId := some (.text request.tokenId.text)
  salt := some (.text request.saltText)

/-- The number of a kind that can be deposited is read as the kind. -/
theorem tokenField_code (token : DepositToken) :
    tokenField (some (.int token.toTokenType.code)) = .ok (.ok token) := by cases token <;> rfl

/-- A URL that has been read stands for the field it was read from. -/
theorem urlField_of_mem_pair {given field : Option Given} {url : Url}
    (hgiven : urlField given = .ok url) (h : field ∈ [given, some (.parsed url)]) :
    urlField field = .ok url := by
  rcases List.mem_pair.mp h with rfl | rfl
  · exact hgiven
  · rfl

/-- The own values of a request in normal form are accepted, and make the request again. -/
theorem IsNormal.accepts_toDraft {request : Request} {l1Url l2Url : Option Given}
    {octets : Octets} (h : request.IsNormal)
    (hkey : Bytes32.ofText request.privateKey = .ok octets)
    (hl1Url : urlField l1Url = .ok request.l1Url) (hl2Url : urlField l2Url = .ok request.l2Url) :
    Accepts (request.toDraft l1Url l2Url) request := by
  have hamount : Field.amount (.int request.amount) = .ok request.amount :=
    Field.amount_eq_ok_iff.mpr ⟨rfl, Int.ofNat_lt.mpr h.amount⟩
  have hid : tokenIdField (.text request.tokenId.text) = .ok request.tokenId := by
    rw [tokenIdField_text, tokenIdOfText_eq_ok_iff]
    exact ⟨rfl, h.tokenId, h.tokenNumber⟩
  have hsalt : Field.hash (.text request.saltText) = .ok request.salt :=
    Field.hash_eq_ok_iff_ofValue.mpr h.salt
  exact {
    privateKey := keyField_text hkey
    l1Url := hl1Url
    liquidityAddress := Field.address_text _
    l2Url := hl2Url
    rollupAddress := Field.address_text _
    amount := Field.required_eq_ok_iff.mpr hamount
    token := tokenField_code _
    tokenAddress := Field.address_text _
    tokenId := Field.withDefault_eq_ok_iff.mpr hid
    salt := hsalt }

/-- Every request whose key was given as text is in normal form and has the commitment that was
given. Checked once more, from its own values and each URL as it was given or as it was read, it is
accepted and comes out the same. -/
theorem normal_of_ofDraft {draft : Draft} {request : Request} {key : String}
    (haccepted : ofDraft draft = .ok request) (hkey : draft.privateKey = some (.text key)) :
    request.IsNormal ∧ request.privateKey = key ∧
    (∃ given, draft.salt = some given ∧ Bytes32.ofValue given = .ok request.salt) ∧
    ∀ l1Url ∈ [draft.l1Url, some (.parsed request.l1Url)],
    ∀ l2Url ∈ [draft.l2Url, some (.parsed request.l2Url)],
      ofDraft (request.toDraft l1Url l2Url) = .ok request := by
  have haccepts := ofDraft_eq_ok_iff.mp haccepted
  obtain ⟨given, hgiven, hsalt⟩ := Field.exists_of_required haccepts.salt
  obtain ⟨rfl, octets, hoctets⟩ :
      request.privateKey = key ∧ ∃ octets, Bytes32.ofText key = .ok octets := by
    rcases keyField_eq_ok (keyField_of_ofDraft haccepted hkey) with ⟨hsame, hword⟩ | ⟨_, hbytes, -⟩
    · cases hsame
      exact ⟨rfl, hword⟩
    · cases hbytes
  refine ⟨haccepts.isNormal, rfl, ⟨given, hgiven, Field.hash_eq_ok_iff_ofValue.mp hsalt⟩, ?_⟩
  intro l1Url hl1Url l2Url hl2Url
  have hread1 := urlField_of_mem_pair haccepts.l1Url hl1Url
  have hread2 := urlField_of_mem_pair haccepts.l2Url hl2Url
  exact ofDraft_eq_ok_iff.mpr (haccepts.isNormal.accepts_toDraft hoctets hread1 hread2)

/-- A draft with an address without checksum, a commitment in capitals and an amount as text. -/
def spelledDraft : Draft where
  privateKey := some (.text Bridge.sampleRequest.privateKey)
  l1Url := some (.parsed Bridge.sampleRequest.l1Url)
  liquidityAddress := some (.text (String.ofList (List.replicate 40 'a')))
  l2Url := some (.parsed Bridge.sampleRequest.l2Url)
  rollupAddress := some (.text Address.zero.text)
  amount := some (.text "1_000")
  tokenType := some (.int 1)
  tokenAddress := none
  tokenId := some (.text "0X2A")
  salt := some (.text (String.ofList (List.replicate 64 'A')))

/-- The request of the sample draft. -/
def spelledRequest : Request :=
  { Bridge.sampleRequest with
    liquidityAddress := ⟨List.replicate 20 0xaa, rfl⟩
    token := .erc20
    tokenId := ⟨"0X2A", 42⟩
    salt := List.replicate 32 0xaa }

theorem ofDraft_spelledDraft : ofDraft spelledDraft = .ok spelledRequest := by
  have hamount : Field.amount (.text "1_000") = .ok 1000 := by
    have hnumber : Field.int (.text "1_000") = .ok 1000 := rfl
    simp only [Field.amount, Field.intBelow, hnumber, ok_bind]
    rfl
  have hid : tokenIdField (.text "0X2A") = .ok ⟨"0X2A", 42⟩ := by
    have hread : TokenId.readNumber "0X2A" = .ok 42 := rfl
    rw [tokenIdField_text, tokenIdOfText_eq_ok_iff]
    exact ⟨rfl, hread, by decide⟩
  exact ofDraft_eq_ok_iff.mpr {
    privateKey := keyField_text Bridge.ofText_sampleKey
    l1Url := rfl
    liquidityAddress := rfl
    l2Url := rfl
    rollupAddress := Field.address_text _
    amount := Field.required_eq_ok_iff.mpr hamount
    token := rfl
    tokenAddress := rfl
    tokenId := Field.withDefault_eq_ok_iff.mpr hid
    salt := rfl }

/-- The request of the sample draft is in normal form, though the draft is not, and is made again
from what it keeps. -/
theorem normal_of_ofDraft_spelled :
    ofDraft spelledDraft = .ok spelledRequest ∧
    spelledRequest.IsNormal ∧
    ofDraft (spelledRequest.toDraft spelledDraft.l1Url spelledDraft.l2Url) =
      .ok spelledRequest := by
  obtain ⟨hnormal, -, -, hagain⟩ := normal_of_ofDraft ofDraft_spelledDraft rfl
  exact ⟨ofDraft_spelledDraft, hnormal, hagain _ (by simp) _ (by simp)⟩

end Request

end DepositBridge
