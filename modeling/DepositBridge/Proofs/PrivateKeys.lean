import DepositBridge.Proofs.Bridge
import DepositBridge.Proofs.Fields
import DepositBridge.Proofs.Hexadecimal

/-!
# Keys of requests

A request takes a key if thirty-two octets can be read from it. A wallet reads the key anew, with a
reader of its own: no blank may stand in the text, octets that came as octets are read as the text
they spell, and the number has to be a key of the curve (`Request.wallet_of_accepted`). So a bridge
cannot be built for every request (`build_ofRequest`).
-/

namespace DepositBridge

/-! ## Octets as text -/

/-- A text has no more characters than octets. -/
theorem Text.length_decodeUtf8From_le {bytes : Octets} {position skip : Nat} {text : List Char}
    (h : decodeUtf8From position skip bytes = .ok text) : text.length ≤ bytes.length := by
  induction bytes generalizing position skip text with
  | nil =>
    cases h
    simp
  | cons b rest ih =>
    cases skip with
    | succ skip => exact Nat.le_succ_of_le (ih h)
    | zero =>
      simp only [decodeUtf8From] at h
      split at h
      · cases h
      · obtain ⟨more, hmore, rfl⟩ := map_eq_ok_iff.mp h
        exact Nat.succ_le_succ (ih hmore)

theorem Text.length_decodeUtf8_le {bytes : Octets} {text : String}
    (h : decodeUtf8 bytes = .ok text) : text.toList.length ≤ bytes.length := by
  obtain ⟨chars, hchars, rfl⟩ := map_eq_ok_iff.mp h
  rw [String.toList_ofList]
  exact length_decodeUtf8From_le hchars

/-! ## The two readers -/

theorem Hex.length_dropMark_le (text : List Char) : (dropMark text).length ≤ text.length := by
  unfold dropMark
  split
  · simp only [List.length_cons]
    omega
  · simp only [List.length_cons]
    omega
  · exact Nat.le_refl _

/-- A mark is no blank. -/
theorem Hex.forall_mem_dropMark {text : List Char} :
    (∀ c ∈ dropMark text, isBlank c = false) ↔ ∀ c ∈ text, isBlank c = false := by
  unfold dropMark
  split
  · have h0 : isBlank '0' = false := by decide
    have hx : isBlank 'x' = false := by decide
    simp [h0, hx]
  · have h0 : isBlank '0' = false := by decide
    have hx : isBlank 'X' = false := by decide
    simp [h0, hx]
  · exact Iff.rfl

theorem Hex.length_decodeLoose?_le {text : String} {bytes : Octets}
    (h : decodeLoose? text = some bytes) : 2 * bytes.length ≤ text.toList.length + 1 := by
  have hlength := (digits_of_decodePairs? h).1
  have hdrop := length_dropMark_le text.toList
  split at hlength
  · simp only [List.length_cons] at hlength
    omega
  · omega

/-- The reader that takes no blanks reads a text of thirty-two octets exactly if there are none. -/
theorem Hex.decodeLoose?_iff_of_ofText {text : String} {bytes other : Octets}
    (htext : Bytes32.ofText text = .ok bytes) :
    decodeLoose? text = some other ↔ (∀ c ∈ text.toList, isBlank c = false) ∧ other = bytes := by
  obtain ⟨hspaced, -⟩ := Bytes32.ofText_eq_ok_iff.mp htext
  rw [← forall_mem_dropMark]
  -- without blanks both readers see pairs, so there is no odd digit that a zero is put in front of
  have hloose : (∀ c ∈ dropMark text.toList, isBlank c = false) →
      decodeLoose? text = some bytes := by
    intro hblank
    rw [decodeSpaced?_eq hblank] at hspaced
    have hlength := (digits_of_decodePairs? hspaced).1
    rw [decodeLoose?, if_neg (by omega), hspaced]
  constructor
  · intro h
    have hblank : ∀ c ∈ dropMark text.toList, isBlank c = false := by
      intro c hc
      refine not_isBlank_of_isDigit ((digits_of_decodePairs? h).2 c ?_)
      split
      · exact List.mem_cons_of_mem _ hc
      · exact hc
    exact ⟨hblank, Option.some.inj (h.symm.trans (hloose hblank))⟩
  · rintro ⟨hblank, rfl⟩
    exact hloose hblank

/-! ## Blanks behind a text -/

theorem Hex.decodeSpaced?_blanks {blanks : List Char} (h : ∀ c ∈ blanks, isBlank c = true) :
    decodeSpaced? blanks = some [] := by
  induction blanks using decodeSpaced?.induct with
  | case1 => rfl
  | case2 c hblank => simp [decodeSpaced?, hblank]
  | case3 c hblank => exact absurd (h c (by simp)) hblank
  | case4 c next rest hblank ih =>
    simp only [decodeSpaced?, hblank, if_true]
    exact ih fun c' hc' => h c' (List.mem_cons_of_mem _ hc')
  | case5 c next rest hblank ih => exact absurd (h c (by simp)) hblank

theorem Hex.decodeSpaced?_append {text blanks : List Char} {bytes : Octets}
    (h : decodePairs? text = some bytes) (hblanks : ∀ c ∈ blanks, isBlank c = true) :
    decodeSpaced? (text ++ blanks) = some bytes := by
  induction text using decodePairs?.induct generalizing bytes with
  | case1 =>
    cases h
    exact decodeSpaced?_blanks hblanks
  | case2 c => cases h
  | case3 high low rest ih =>
    simp only [decodePairs?, Option.bind_eq_bind, Option.bind_eq_some_iff, Option.pure_def,
      Option.some.injEq] at h
    obtain ⟨n, hhigh, m, hlow, more, hmore, rfl⟩ := h
    have hplain : isBlank high = false := not_isBlank_of_isDigit (by simp [isDigit, hhigh])
    simp only [List.cons_append, decodeSpaced?, hplain, Bool.false_eq_true, if_false, hhigh, hlow,
      ih hmore, Option.bind_eq_bind, Option.bind_some, Option.pure_def]

/-- Blanks behind a text of thirty-two octets make no difference to the reader of a request. -/
theorem Bytes32.ofText_append {bytes : Octets} (hlength : bytes.length = 32) (blanks : String)
    (hblanks : ∀ c ∈ blanks.toList, Hex.isBlank c = true) :
    ofText (Hex.encodeMarked bytes ++ blanks) = .ok bytes := by
  have hchars : Hex.dropMark (Hex.encodeMarked bytes ++ blanks).toList =
      Hex.encodeChars bytes ++ blanks.toList := by
    rw [String.toList_append, Hex.toList_encodeMarked]
    rfl
  rw [ofText_eq_ok_iff, hchars]
  exact ⟨Hex.decodeSpaced?_append (Hex.decodePairs?_encodeChars bytes) hblanks, hlength⟩

theorem Bytes32.ofText_encodeMarked {bytes : Octets} (hlength : bytes.length = 32) :
    ofText (Hex.encodeMarked bytes) = .ok bytes := by
  simpa using ofText_append hlength "" (by simp)

/-- The marked octets of a number are read as a word. -/
theorem Bytes32.ofText_ofNatWidth (n : Nat) :
    ofText (Hex.encodeMarked (Octets.ofNatWidth 32 n)) = .ok (Octets.ofNatWidth 32 n) :=
  ofText_encodeMarked (Octets.length_ofNatWidth 32 n)

/-! ## Keys -/

/-- A value is the plain text of a key: a text without blanks, which may be hidden, that writes
thirty-two octets, whose number is a key of the curve. -/
def Value.IsPlainKey (v : Value) (key : Nat) : Prop :=
  ∃ text octets, v.revealed = .text text ∧ (∀ c ∈ text.toList, Hex.isBlank c = false) ∧
    Bytes32.ofText text = .ok octets ∧ Octets.toNat octets = key ∧ Secp256k1.isKey key = true

/-- The marked octets of a key of the curve are its plain text. -/
theorem Value.isPlainKey_encodeMarked {key : Nat} (h : Secp256k1.isKey key = true) :
    (text (Hex.encodeMarked (Octets.ofNatWidth 32 key))).IsPlainKey key := by
  have hword := Bytes32.ofText_ofNatWidth key
  have hnumber : Octets.toNat (Octets.ofNatWidth 32 key) = key := by
    refine Octets.toNat_ofNatWidth_of_lt ?_
    simp only [Secp256k1.isKey, Bool.and_eq_true, decide_eq_true_eq] at h
    exact Nat.lt_trans h.2 (by decide)
  have hloose := Hex.decodeLoose?_encodeMarked (Octets.ofNatWidth 32 key)
  exact ⟨_, _, rfl, ((Hex.decodeLoose?_iff_of_ofText hword).mp hloose).1, hword, hnumber, h⟩

namespace Wallet

theorem keyOctets?_text_eq_some_iff {text : String} {octets : Octets} :
    keyOctets? (.text text) = some octets ↔
      Hex.decodeLoose? text = some octets ∧ octets.length = 32 := by
  simp only [keyOctets?, Option.filter_eq_some_iff, decide_eq_true_eq]

theorem ofKey_eq_error {v : Value} {fault : Fault} (h : ofKey v = .error fault) :
    fault = .invalidKey := by
  unfold ofKey at h
  cases hoctets : keyOctets? v with
  | none =>
    rw [hoctets] at h
    cases h
    rfl
  | some octets =>
    simp only [hoctets] at h
    split at h
    · cases h
    · cases h
      rfl

end Wallet

namespace Request

/-- The key of a request is a text that writes thirty-two octets, or the text that thirty-two octets
spell. -/
theorem keyField_eq_ok {v : Value} {text : String} (h : keyField v = .ok text) :
    (v.revealed = .text text ∧ ∃ octets, Bytes32.ofText text = .ok octets) ∨
    ∃ octets, v = .bytes octets ∧ octets.length = 32 ∧ Text.decodeUtf8 octets = .ok text := by
  cases v with
  | text s =>
    cases hword : Bytes32.ofText s with
    | error fault => simp [keyField, Bytes32.ofValue, hword] at h
    | ok octets =>
      simp only [keyField, Bytes32.ofValue, Value.revealed_text, hword, Except.ok.injEq] at h
      subst h
      exact .inl ⟨rfl, octets, hword⟩
  | hidden s =>
    cases hword : Bytes32.ofText s with
    | error fault => simp [keyField, Bytes32.ofValue, hword] at h
    | ok octets =>
      simp only [keyField, Bytes32.ofValue, Value.revealed_hidden, hword, Except.ok.injEq] at h
      subst h
      exact .inl ⟨rfl, octets, hword⟩
  | bytes octets =>
    cases hword : Bytes32.ofOctets octets with
    | error fault => simp [keyField, Bytes32.ofValue, hword] at h
    | ok content =>
      cases htext : Text.decodeUtf8 octets with
      | error fault => simp [keyField, Bytes32.ofValue, hword, htext] at h
      | ok s =>
        simp only [keyField, Bytes32.ofValue, Value.revealed_bytes, hword, htext,
          Except.ok.injEq] at h
        subst h
        exact .inr ⟨octets, rfl, (Bytes32.ofOctets_eq_ok_iff.mp hword).1, htext⟩
  | _ => simp [keyField, Bytes32.ofValue, Value.revealed] at h

/-- The key of a request makes a wallet exactly if it was given as the plain text of a key. -/
theorem ofKey_iff_of_keyField {v : Value} {text : String} (h : keyField v = .ok text)
    (wallet : Wallet) : Wallet.ofKey (.text text) = .ok wallet ↔
      ∃ key, v.IsPlainKey key ∧ wallet = .ofNumber key := by
  simp only [Wallet.ofKey_eq_ok_iff, Wallet.keyOctets?_text_eq_some_iff]
  rcases keyField_eq_ok h with ⟨htext, octets, hoctets⟩ | ⟨octets, rfl, hlength, hspelled⟩
  · simp only [Hex.decodeLoose?_iff_of_ofText hoctets]
    constructor
    · rintro ⟨_, ⟨⟨hblank, rfl⟩, -⟩, hkey, rfl⟩
      exact ⟨_, ⟨text, _, htext, hblank, hoctets, rfl, hkey⟩, rfl⟩
    · rintro ⟨_, ⟨other', other, htext', hblank, hother, rfl, hkey⟩, rfl⟩
      cases htext.symm.trans htext'
      obtain rfl : octets = other := Except.ok.inj (hoctets.symm.trans hother)
      exact ⟨octets, ⟨⟨hblank, rfl⟩, (Bytes32.ofText_eq_ok_iff.mp hoctets).2⟩, hkey, rfl⟩
  · -- thirty-two octets spell a text that is too short to write as many
    have hshort := Text.length_decodeUtf8_le hspelled
    constructor
    · rintro ⟨other, ⟨hother, hwidth⟩, -⟩
      have hlong := Hex.length_decodeLoose?_le hother
      omega
    · rintro ⟨_, ⟨_, _, ⟨⟩, -⟩, -⟩

theorem ofKey_of_not_plainKey {v : Value} {text : String} (h : keyField v = .ok text)
    (hnone : ∀ key, ¬ v.IsPlainKey key) : Wallet.ofKey (.text text) = .error .invalidKey := by
  obtain ⟨fault, hfault⟩ := exists_error_of_ne_ok fun wallet hok => by
    obtain ⟨key, hplain, -⟩ := (ofKey_iff_of_keyField h wallet).mp hok
    exact hnone key hplain
  rw [hfault, Wallet.ofKey_eq_error hfault]

/-- A text that writes thirty-two octets is taken as a key, whatever blanks it has. -/
theorem keyField_text {text : String} {octets : Octets} (h : Bytes32.ofText text = .ok octets) :
    keyField (.text text) = .ok text := by
  simp only [keyField, Value.revealed_text, Bytes32.ofValue, h]

theorem keyField_hidden {text : String} {octets : Octets} (h : Bytes32.ofText text = .ok octets) :
    keyField (.hidden text) = .ok text := by
  simp only [keyField, Value.revealed_hidden, Bytes32.ofValue, h]

end Request

/-! ## Bridges of requests -/

namespace Bridge

/-- A bridge whose key makes no wallet is not built, and nothing is asked. -/
theorem runFrom_build_error {tree : FileTree} {endpoints : Endpoints} {key : Value}
    {fault : Wallet.Fault} (h : Wallet.ofKey key = .error fault)
    (nodes : Program.Behaviour Node.Query Node.Answer)
    (history : List (Node.Query × Node.Answer)) :
    Program.runFrom nodes history (build tree endpoints key).run =
      ([], .error (.wallet fault)) := by
  simp only [build, h, Except.mapError]
  rfl

/-- A bridge can be built for a request exactly if the key was given as the plain text of a key of
the curve. For any other request building ends before a node is asked. -/
theorem build_ofRequest {draft : Request.Draft} {request : Request} {options : Endpoints.Options}
    (haccepted : Request.ofDraft draft = .ok request) (hbundled : options.abiDirectory = none)
    (tree : FileTree) (nodes : Program.Behaviour Node.Query Node.Answer)
    (history : List (Node.Query × Node.Answer)) :
    let endpoints : Endpoints := .ofRequest request options
    let run := Program.runFrom nodes history
      (build tree endpoints (.text request.privateKey)).run
    (∀ v key, draft.privateKey = some v → v.IsPlainKey key →
      run.2 = .ok (ofWallet endpoints (.ofNumber key))) ∧
    ((∀ v key, draft.privateKey = some v → ¬ v.IsPlainKey key) →
      run = ([], .error (.wallet .invalidKey))) := by
  intro endpoints run
  have hfield := (Request.ofDraft_eq_ok_iff.mp haccepted).privateKey
  cases hkey : draft.privateKey with
  | none =>
    rw [hkey] at hfield
    cases hfield
  | some v =>
    rw [hkey] at hfield
    have hfield := Field.required_eq_ok_iff.mp hfield
    constructor
    · rintro _ key ⟨⟩ hplain
      have hwallet := (Request.ofKey_iff_of_keyField hfield _).mpr ⟨key, hplain, rfl⟩
      exact runFrom_build tree nodes history hbundled hwallet
    · intro hnone
      have hwallet := Request.ofKey_of_not_plainKey hfield fun key => hnone v key rfl
      exact runFrom_build_error hwallet nodes history

/-- The draft of the sample request with another key. -/
def sampleDraft (key : String) : Request.Draft where
  privateKey := some (.text key)
  l1Url := some (.parsed sampleRequest.l1Url)
  liquidityAddress := some (.text Address.zero.text)
  l2Url := some (.parsed sampleRequest.l2Url)
  rollupAddress := some (.text Address.zero.text)
  amount := some (.int 1000)
  tokenType := some (.int 0)
  tokenAddress := none
  tokenId := none
  salt := some (.bytes (List.replicate 32 7))

theorem ofText_sampleKey :
    Bytes32.ofText sampleRequest.privateKey = .ok (Octets.ofNatWidth 32 1) :=
  Bytes32.ofText_ofNatWidth 1

/-- Any text that writes thirty-two octets is accepted as a key. -/
theorem ofDraft_sampleDraft {key : String} {octets : Octets}
    (h : Bytes32.ofText key = .ok octets) :
    Request.ofDraft (sampleDraft key) = .ok { sampleRequest with privateKey := key } := by
  have hkey := Request.keyField_text h
  have hzero := Field.address_text .zero
  exact Request.ofDraft_eq_ok_iff.mpr ⟨hkey, rfl, hzero, rfl, hzero, rfl, rfl, rfl, rfl, rfl⟩

/-- The sample request has the plain text of the smallest key, so its bridge is built. -/
theorem build_ofRequest_sample :
    Request.ofDraft (sampleDraft sampleRequest.privateKey) = .ok sampleRequest ∧
    (Program.runFrom (fun _ _ => .result .null) []
      (build .empty (.ofRequest sampleRequest ⟨none, none, 0, none⟩)
        (.text sampleRequest.privateKey)).run).2 =
      .ok (ofWallet (.ofRequest sampleRequest ⟨none, none, 0, none⟩) sampleWallet) := by
  have haccepted := ofDraft_sampleDraft ofText_sampleKey
  have hplain := Value.isPlainKey_encodeMarked (show Secp256k1.isKey 1 = true from rfl)
  exact ⟨haccepted, (build_ofRequest haccepted rfl .empty _ []).1 _ 1 rfl hplain⟩

/-- A key with a blank behind it is accepted, but no bridge is built. -/
theorem build_ofRequest_blank :
    ∃ request, Request.ofDraft (sampleDraft (sampleRequest.privateKey ++ "\n")) = .ok request ∧
      ∀ tree options nodes history, (Program.runFrom nodes history
        (build tree (.ofRequest request options) (.text request.privateKey)).run).2 =
          .error (.wallet .invalidKey) := by
  have hword : Bytes32.ofText (sampleRequest.privateKey ++ "\n") =
      .ok (Octets.ofNatWidth 32 1) :=
    Bytes32.ofText_append (Octets.length_ofNatWidth 32 1) "\n" (by simp [Hex.isBlank])
  refine ⟨_, ofDraft_sampleDraft hword, fun tree options nodes history => ?_⟩
  have hwallet : Wallet.ofKey (.text (sampleRequest.privateKey ++ "\n")) = .error .invalidKey := by
    refine Request.ofKey_of_not_plainKey (Request.keyField_text hword) ?_
    rintro key ⟨_, _, ⟨⟩, hplain, -⟩
    cases hplain '\n' (by simp)
  rw [runFrom_build_error hwallet]

end Bridge

/-! ## The keys that make a wallet -/

theorem Secp256k1.isKey_iff {key : Nat} : isKey key = true ↔ 1 ≤ key ∧ key < order := by
  simp only [isKey, Bool.and_eq_true, decide_eq_true_eq]
  omega

/-- A value is a text without blanks. A hidden text is a text all the same, which is read like one
that is not hidden. -/
def Value.IsSolidText (v : Value) : Prop :=
  ∃ text, (v = .text text ∨ v = .hidden text) ∧ ∀ c ∈ text.toList, Hex.isBlank c = false

/-- The plain text of a key is a text without blanks whose number is a key of the curve. -/
theorem Value.isPlainKey_iff {v : Value} {octets : Octets}
    (h : Bytes32.ofValue v.revealed = .ok octets) {key : Nat} : v.IsPlainKey key ↔
      v.IsSolidText ∧ key = octets.toNat ∧ 1 ≤ key ∧ key < Secp256k1.order := by
  rw [← Secp256k1.isKey_iff]
  constructor
  · intro hplain
    obtain ⟨text, other, htext, hblank, hother, hnumber, hkey⟩ := hplain
    rw [htext] at h
    have hsame : octets = other := Except.ok.inj (h.symm.trans hother)
    exact ⟨⟨text, revealed_eq_text_iff.mp htext, hblank⟩, by rw [hsame, hnumber], hkey⟩
  · intro hsolid
    obtain ⟨⟨text, htext, hblank⟩, hnumber, hkey⟩ := hsolid
    have htext := revealed_eq_text_iff.mpr htext
    rw [htext] at h
    exact ⟨text, octets, htext, hblank, h, hnumber.symm, hkey⟩

/-- A key that a request takes gives thirty-two octets. -/
theorem Request.exists_ofValue_of_keyField {v : Value} {text : String}
    (h : keyField v = .ok text) : ∃ octets, Bytes32.ofValue v.revealed = .ok octets := by
  rcases keyField_eq_ok h with ⟨htext, octets, hoctets⟩ | ⟨octets, rfl, hlength, -⟩
  · rw [htext]
    exact ⟨octets, hoctets⟩
  · exact ⟨octets, Bytes32.ofOctets_eq_ok_iff.mpr ⟨hlength, rfl⟩⟩

/-- The value of an accepted draft's key is taken by the field of the key. -/
theorem Request.keyField_of_ofDraft {draft : Draft} {request : Request} {v : Value}
    (haccepted : ofDraft draft = .ok request) (hkey : draft.privateKey = some v) :
    keyField v = .ok request.privateKey := by
  have hfield := (ofDraft_eq_ok_iff.mp haccepted).privateKey
  rwa [hkey, Field.required_eq_ok_iff] at hfield

/-- Of the keys that a request takes, exactly those make a wallet that were given as a text without
blanks, hidden or not, whose number is a key of the curve, and then the wallet is the one of the
number. Every other key is refused, and so is every key that was given as octets. -/
theorem Request.wallet_of_accepted {draft : Draft} {request : Request} {v : Value}
    (haccepted : ofDraft draft = .ok request) (hkey : draft.privateKey = some v) :
    ∃ octets, Bytes32.ofValue v.revealed = .ok octets ∧
      let fits := v.IsSolidText ∧ 1 ≤ octets.toNat ∧ octets.toNat < Secp256k1.order
      let outcome := Wallet.ofKey (.text request.privateKey)
      (∀ wallet, outcome = .ok wallet ↔ fits ∧ wallet = .ofNumber octets.toNat) ∧
      (¬ fits → outcome = .error .invalidKey) ∧
      ∀ content, v = .bytes content → outcome = .error .invalidKey := by
  have hfield := keyField_of_ofDraft haccepted hkey
  obtain ⟨octets, hoctets⟩ := exists_ofValue_of_keyField hfield
  refine ⟨octets, hoctets, ?_⟩
  intro fits outcome
  have hrefused : ¬ fits → outcome = .error .invalidKey := by
    intro hnone
    refine ofKey_of_not_plainKey hfield fun key hplain => hnone ?_
    obtain ⟨hsolid, rfl, hrange⟩ := (Value.isPlainKey_iff hoctets).mp hplain
    exact ⟨hsolid, hrange⟩
  refine ⟨fun wallet => ?_, hrefused, ?_⟩
  · refine (ofKey_iff_of_keyField hfield wallet).trans ?_
    constructor
    · intro h
      obtain ⟨key, hplain, rfl⟩ := h
      obtain ⟨hsolid, rfl, hrange⟩ := (Value.isPlainKey_iff hoctets).mp hplain
      exact ⟨⟨hsolid, hrange⟩, rfl⟩
    · intro h
      obtain ⟨⟨hsolid, hrange⟩, rfl⟩ := h
      exact ⟨octets.toNat, (Value.isPlainKey_iff hoctets).mpr ⟨hsolid, rfl, hrange⟩, rfl⟩
  · -- octets are no text at all
    intro content hbytes
    refine hrefused fun hfits => ?_
    obtain ⟨⟨text, htext | htext, -⟩, -⟩ := hfits
    · cases hbytes.symm.trans htext
    · cases hbytes.symm.trans htext

/-- A sample draft with another key. -/
theorem Request.ofDraft_sampleDraft_key {v : Value} {text : String} (h : keyField v = .ok text) :
    ofDraft { Bridge.sampleDraft "" with privateKey := some v } =
      .ok { Bridge.sampleRequest with privateKey := text } := by
  have hzero := Field.address_text .zero
  exact ofDraft_eq_ok_iff.mpr ⟨h, rfl, hzero, rfl, hzero, rfl, rfl, rfl, rfl, rfl⟩

/-- The text of the smallest key makes its wallet, hidden or not, and a key given as octets is
accepted but makes none. -/
theorem Request.wallet_of_accepted_samples :
    (∀ v ∈ [.text Bridge.sampleRequest.privateKey, .hidden Bridge.sampleRequest.privateKey],
      ∃ request, ofDraft { Bridge.sampleDraft "" with privateKey := some v } = .ok request ∧
        Wallet.ofKey (.text request.privateKey) = .ok (.ofNumber 1)) ∧
    ∃ request, ofDraft { Bridge.sampleDraft "" with
        privateKey := some (.bytes (List.replicate 32 97)) } = .ok request ∧
      Wallet.ofKey (.text request.privateKey) = .error .invalidKey := by
  have hword := Bridge.ofText_sampleKey
  constructor
  · intro v hv
    have hrevealed : v.revealed = .text Bridge.sampleRequest.privateKey :=
      Value.revealed_eq_text_iff.mpr (List.mem_pair.mp hv)
    have hfield : keyField v = .ok Bridge.sampleRequest.privateKey := by
      rcases List.mem_pair.mp hv with rfl | rfl
      · exact keyField_text hword
      · exact keyField_hidden hword
    have haccepted := ofDraft_sampleDraft_key hfield
    refine ⟨_, haccepted, ?_⟩
    obtain ⟨octets, hoctets, hwallet, -⟩ := wallet_of_accepted haccepted rfl
    rw [hrevealed] at hoctets
    obtain rfl : Octets.ofNatWidth 32 1 = octets := Except.ok.inj (hword.symm.trans hoctets)
    have hone : Octets.toNat (Octets.ofNatWidth 32 1) = 1 :=
      Octets.toNat_ofNatWidth_of_lt (by decide)
    obtain ⟨text, _, htext, hblank, -⟩ :=
      Value.isPlainKey_encodeMarked (show Secp256k1.isKey 1 = true from rfl)
    cases htext
    rw [hone] at hwallet
    exact (hwallet _).mpr ⟨⟨⟨_, List.mem_pair.mp hv, hblank⟩, by decide, by decide⟩, rfl⟩
  · have hfield : keyField (.bytes (List.replicate 32 97)) =
        .ok (String.ofList (List.replicate 32 'a')) := rfl
    have haccepted := ofDraft_sampleDraft_key hfield
    obtain ⟨octets, -, -, -, hoctets⟩ := wallet_of_accepted haccepted rfl
    exact ⟨_, haccepted, hoctets _ rfl⟩

end DepositBridge
