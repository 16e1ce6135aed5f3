import DepositBridge.Proofs.Meaning
import DepositBridge.Proofs.NormalForm

/-!
# Words and their canonical text

A word of thirty-two octets is given by the octets themselves or by a text of their digits, and each
word has one text that stands for all its spellings. The values that are read as a word, the reasons
why others are not, and what the records keep of a word are told by `Bytes32.ofValue_canonical`.
-/

namespace DepositBridge

/-! ## Values that are no words -/

namespace Bytes32

/-- A value is no word, for a reason that a fault tells: a text does not write octets at all, the
octets that are written or given are not thirty-two, or the value is neither text nor octets. -/
inductive Refuses : Value → Fault → Prop where
  | malformed {text : String}
      (hwrites : ∀ octets, ¬ Hex.WritesSpaced (Hex.dropMark text.toList) octets) :
      Refuses (.text text) (.malformed text)
  | textLength {text : String} {octets : Octets}
      (hwrites : Hex.WritesSpaced (Hex.dropMark text.toList) octets)
      (hlength : octets.length ≠ 32) : Refuses (.text text) (.wrongLength octets.length)
  | length {octets : Octets} (hlength : octets.length ≠ 32) :
      Refuses (.bytes octets) (.wrongLength octets.length)
  | kind {v : Value} (htext : ∀ text, v ≠ .text text) (hoctets : ∀ octets, v ≠ .bytes octets) :
      Refuses v .wrongKind

theorem ofOctets_eq_error_iff {octets : Octets} {fault : Fault} :
    ofOctets octets = .error fault ↔ octets.length ≠ 32 ∧ fault = .wrongLength octets.length := by
  by_cases h : octets.length = 32
  · simp [ofOctets, h]
  · simp [ofOctets, h, eq_comm]

/-- A value is read as the word that it writes. -/
theorem ofValue_eq_ok_iff {v : Value} {octets : Octets} :
    ofValue v = .ok octets ↔ v.WritesWord octets :=
  Field.hash_eq_ok_iff_ofValue.symm.trans Field.hash_eq_ok_iff_writes

/-- A text is refused as a word if it writes no octets, or not thirty-two. -/
theorem ofText_eq_error_iff {text : String} {fault : Fault} :
    ofText text = .error fault ↔ Refuses (.text text) fault := by
  cases hread : Hex.decodeSpaced? (Hex.dropMark text.toList) with
  | none =>
    have hwrites : ∀ octets, ¬ Hex.WritesSpaced (Hex.dropMark text.toList) octets := by
      intro octets h
      rw [← Hex.decodeSpaced?_eq_some_iff, hread] at h
      cases h
    simp only [ofText, hread, Except.error.injEq]
    constructor
    · intro h
      subst h
      exact .malformed hwrites
    · intro h
      cases h with
      | malformed _ => rfl
      | textLength h _ => exact absurd h (hwrites _)
      | kind htext _ => exact absurd rfl (htext text)
  | some octets =>
    have hwrites := Hex.decodeSpaced?_eq_some_iff.mp hread
    simp only [ofText, hread, ofOctets_eq_error_iff]
    constructor
    · intro h
      obtain ⟨hlength, rfl⟩ := h
      exact .textLength hwrites hlength
    · intro h
      cases h with
      | malformed h => exact absurd hwrites (h octets)
      | textLength h hlength =>
        -- a text writes no other octets than those that are read
        rw [← Hex.decodeSpaced?_eq_some_iff, hread] at h
        cases h
        exact ⟨hlength, rfl⟩
      | kind htext _ => exact absurd rfl (htext text)

/-- A value is refused as a word for the reason that its fault tells. -/
theorem ofValue_eq_error_iff {v : Value} {fault : Fault} :
    ofValue v = .error fault ↔ Refuses v fault := by
  cases v with
  | text text => exact ofText_eq_error_iff
  | bytes octets =>
    rw [ofValue, ofOctets_eq_error_iff]
    constructor
    · intro h
      obtain ⟨hlength, rfl⟩ := h
      exact .length hlength
    · intro h
      cases h with
      | length hlength => exact ⟨hlength, rfl⟩
      | kind _ hoctets => exact absurd rfl (hoctets octets)
  | _ =>
    simp only [ofValue, Except.error.injEq]
    constructor
    · intro h
      subst h
      exact .kind (by simp) (by simp)
    · intro h
      cases h
      rfl

end Bytes32

/-! ## What records keep of a word -/

/-- The draft with another commitment. -/
def Request.Draft.withSalt (draft : Draft) (v : Value) : Draft := { draft with salt := some v }

/-- The text of a deposit's commitment. -/
def Deposit.saltText (deposit : Deposit) : String := Hex.encodeMarked deposit.salt

variable {v w : Value} {octets : Octets}

/-- The field of a commitment takes the same from two spellings of a word. -/
theorem Field.hash_eq_of_ofValue (hv : Bytes32.ofValue v = .ok octets)
    (hw : Bytes32.ofValue w = .ok octets) : hash v = hash w := by
  rw [hash_eq_ok_iff_ofValue.mpr hv, hash_eq_ok_iff_ofValue.mpr hw]

/-- But for the inputs of its problems, a draft depends on its commitment as far as the field of the
commitment does. -/
theorem Request.ofDraft_withSalt_congr (h : Field.hash v = Field.hash w) (draft : Draft) :
    (ofDraft (draft.withSalt v)).mapError Fault.withoutInputs =
      (ofDraft (draft.withSalt w)).mapError Fault.withoutInputs := by
  simp only [ofDraft, Draft.withSalt, Field.required, h]
  cases tokenField draft.tokenType with
  | error fault => rfl
  | ok token =>
    have hrejected : ∀ problems : List Problem,
        Fault.withoutInputs (.rejected ⟨.request, problems⟩) =
          .rejected ⟨.request, problems.map Problem.withoutInput⟩ := fun _ => rfl
    simp only [ok_bind, Checked.mapError_toExcept hrejected, Checked.withoutInputs_field]

theorem Deposit.ofFields_congr (h : Field.hash v = Field.hash w) (index amount : Option Value) :
    (ofFields (some v) index amount).mapError Rejection.withoutInputs =
      (ofFields (some w) index amount).mapError Rejection.withoutInputs := by
  have hrejected : ∀ problems : List Problem, Rejection.withoutInputs ⟨.deposit, problems⟩ =
      ⟨.deposit, problems.map Problem.withoutInput⟩ := fun _ => rfl
  simp only [ofFields, Field.required, h, Checked.mapError_toExcept hrejected,
    Checked.withoutInputs_field]

/-- A request keeps the marked digits of the word that is given. -/
theorem Request.saltText_of_ofDraft {draft : Draft} {request : Request}
    (hv : Bytes32.ofValue v = .ok octets) (h : ofDraft (draft.withSalt v) = .ok request) :
    request.saltText = Hex.encodeMarked octets := by
  have hsalt : Field.hash v = .ok request.salt := (ofDraft_eq_ok_iff.mp h).salt
  rw [Field.hash_eq_ok_iff_ofValue.mpr hv] at hsalt
  rw [saltText, ← Except.ok.inj hsalt]

/-- So does a deposit. -/
theorem Deposit.saltText_of_ofFields {index amount : Option Value} {deposit : Deposit}
    (hv : Bytes32.ofValue v = .ok octets)
    (h : ofFields (some v) index amount = .ok deposit) :
    deposit.saltText = Hex.encodeMarked octets := by
  simp only [ofFields, Checked.toExcept_eq_ok_iff, Checked.field_eq_valid_iff,
    Field.required_eq_ok_iff] at h
  obtain ⟨_, _, ⟨_, _, ⟨_, salt, ⟨⟩, hsalt, rfl⟩, _, rfl⟩, _, rfl⟩ := h
  rw [Field.hash_eq_ok_iff_ofValue.mpr hv] at hsalt
  rw [saltText, ← Except.ok.inj hsalt]

/-! ## The canonical text -/

namespace Bytes32

/-- How a value is read as a word, and what becomes of the word. -/
structure Canonical (v : Value) : Prop where
  /-- Exactly the values that write a word are read. -/
  accepts : ∀ octets, ofValue v = .ok octets ↔ v.WritesWord octets
  /-- The others are refused, each for its own reason. -/
  refuses : ∀ fault, ofValue v = .error fault ↔ Refuses v fault
  /-- The kind of the value is the reason for no text and for no octets. -/
  kind : ofValue v = .error .wrongKind ↔
    (∀ text, v ≠ .text text) ∧ ∀ octets, v ≠ .bytes octets
  /-- The marked digits of what is read are read as the same. -/
  again : ∀ octets, ofValue v = .ok octets →
    ofValue (.text (Hex.encodeMarked octets)) = .ok octets
  /-- A request cannot tell the spellings of a word apart, but where it repeats its input, and keeps
  the marked digits. -/
  request : ∀ w octets, ofValue v = .ok octets → ofValue w = .ok octets → ∀ draft : Request.Draft,
    (Request.ofDraft (draft.withSalt v)).mapError Request.Fault.withoutInputs =
      (Request.ofDraft (draft.withSalt w)).mapError Request.Fault.withoutInputs ∧
    ∀ request, Request.ofDraft (draft.withSalt v) = .ok request →
      request.saltText = Hex.encodeMarked octets
  /-- Neither can a deposit. -/
  deposit : ∀ w octets, ofValue v = .ok octets → ofValue w = .ok octets → ∀ index amount,
    (Deposit.ofFields (some v) index amount).mapError Rejection.withoutInputs =
      (Deposit.ofFields (some w) index amount).mapError Rejection.withoutInputs ∧
    ∀ deposit, Deposit.ofFields (some v) index amount = .ok deposit →
      deposit.saltText = Hex.encodeMarked octets

/-- Every value is read as the word that it writes or refused for its own reason, and the spellings
of a word come to the same text. -/
theorem ofValue_canonical (v : Value) : Canonical v where
  accepts octets := ofValue_eq_ok_iff
  refuses fault := ofValue_eq_error_iff
  kind := by
    rw [ofValue_eq_error_iff]
    constructor
    · intro h
      cases h with
      | kind htext hoctets => exact ⟨htext, hoctets⟩
    · intro h
      exact .kind h.1 h.2
  again octets h := ofText_encodeMarked (ofValue_eq_ok_iff.mp h).1
  request w octets hv hw draft :=
    ⟨Request.ofDraft_withSalt_congr (Field.hash_eq_of_ofValue hv hw) draft,
      fun _ hrequest => Request.saltText_of_ofDraft hv hrequest⟩
  deposit w octets hv hw index amount :=
    ⟨Deposit.ofFields_congr (Field.hash_eq_of_ofValue hv hw) index amount,
      fun _ hdeposit => Deposit.saltText_of_ofFields hv hdeposit⟩

/-- A request keeps the same for a word in pairs of digits with blanks between them and for its
octets. A pair with a blank in it, and thirty-one octets, are no word. -/
theorem ofValue_canonical_spaced :
    ofValue (.text Bridge.sampleSpacedSalt) = .ok (List.replicate 32 7) ∧
      ofValue (.bytes (List.replicate 32 7)) = .ok (List.replicate 32 7) ∧
      (∀ draft : Request.Draft,
        (Request.ofDraft (draft.withSalt (.text Bridge.sampleSpacedSalt))).mapError
            Request.Fault.withoutInputs =
          (Request.ofDraft (draft.withSalt (.bytes (List.replicate 32 7)))).mapError
            Request.Fault.withoutInputs) ∧
      Refuses (.text "0x0 7") (.malformed "0x0 7") ∧
      Refuses (.bytes (List.replicate 31 7)) (.wrongLength 31) := by
  have hspaced : ofValue (.text Bridge.sampleSpacedSalt) = .ok (List.replicate 32 7) := by
    decide +kernel
  have hplain : ofValue (.bytes (List.replicate 32 7)) = .ok (List.replicate 32 7) := rfl
  refine ⟨hspaced, hplain, ?_, ?_, ?_⟩
  · intro draft
    exact ((ofValue_canonical _).request _ _ hspaced hplain draft).1
  · exact ((ofValue_canonical _).refuses _).mp rfl
  · exact ((ofValue_canonical _).refuses _).mp rfl

end Bytes32

end DepositBridge
