import DepositBridge.Proofs.NormalForm
import DepositBridge.Proofs.Outcomes

/-!
# Identifiers of tokens

A number that fits may be given as itself, as its decimal text or in hexadecimal digits behind a
mark, and a request takes each of them as the same number. The numeral is read twice, when a request
is checked and whenever its number is asked for, and both readings agree for all that is accepted
(`Request.ofDraft_readsTokenIds`).
-/

namespace DepositBridge

/-! ## Spellings of a number -/

/-- A value spells a number: as itself, in decimal digits behind a minus sign or none, or in
hexadecimal digits of either case behind a mark, with any number of zeros in front. -/
inductive Value.SpellsNumber : Value → Int → Prop where
  | number (n : Int) : SpellsNumber (.int n) n
  | decimal (n : Int) : SpellsNumber (.text (toString n)) n
  | hexadecimal {text : String} {mark : Char} {digits : List Char} {zeros n : Nat}
      (hmark : mark = 'x' ∨ mark = 'X') (htext : text.toList = '0' :: mark :: digits)
      (hdigits : digits.map Char.toLower = List.replicate zeros '0' ++ Nat.toDigits 16 n) :
      SpellsNumber (.text text) n

namespace Numeral

/-- Digits have the values of their small cases. -/
theorem map_value?_of_toLower {digits : List Char} {ds : List Nat} (hds : ∀ d ∈ ds, d < 16)
    (h : digits.map Char.toLower = ds.map Hex.digit) : digits.map Hex.value? = ds.map some := by
  induction digits generalizing ds with
  | nil =>
    obtain rfl : ds = [] := List.map_eq_nil_iff.mp h.symm
    rfl
  | cons c digits ih =>
    cases ds with
    | nil => cases h
    | cons d ds =>
      obtain ⟨hc, hrest⟩ := List.cons.inj h
      have hvalue : Hex.value? c = some d := Hex.value?_eq_some_iff.mpr ⟨hds d (by simp), hc⟩
      rw [List.map_cons, List.map_cons, hvalue, ih (fun d hd => hds d (by simp [hd])) hrest]

/-- A number in hexadecimal digits is read as the number, whatever its size. -/
theorem readNumber_marked {text : String} {mark : Char} {digits : List Char} {zeros n : Nat}
    (hmark : mark = 'x' ∨ mark = 'X') (htext : text.toList = '0' :: mark :: digits)
    (hdigits : digits.map Char.toLower = List.replicate zeros '0' ++ Nat.toDigits 16 n) :
    TokenId.readNumber text = .ok (n : Int) := by
  obtain ⟨ds, hne, hds, hrow, hvalue⟩ := exists_digits_behind_zeros zeros n
  have hvalues : digits.map Hex.value? = ds.map some :=
    map_value?_of_toLower hds (hdigits.trans hrow)
  have hbase : TokenId.baseOf text = .sixteen := by
    rw [TokenId.baseOf, htext]
    rcases hmark with rfl | rfl <;> rfl
  have hascii : ('0' :: mark :: digits).all (fun c => c.toNat < 128) = true := by
    simp only [List.all_cons, List.all_eq_true, Bool.and_eq_true, decide_eq_true_eq]
    refine ⟨by decide, by rcases hmark with rfl | rfl <;> decide, ?_⟩
    intro c hc
    -- beyond ASCII there are no digits
    by_contra hbeyond
    have hnone : none ∈ digits.map Hex.value? :=
      List.mem_map.mpr ⟨c, hc, Hex.value?_of_le (by omega)⟩
    simp [hvalues] at hnone
  simp only [TokenId.readNumber, hbase, read, htext, hascii, if_true,
    readAscii_marked hmark hne hvalues, hvalue]

end Numeral

namespace Request

variable {v : Value} {n : Int} {id : TokenId}

/-! ## The field of an identifier -/

/-- What the field takes from a spelling of a number is the number. -/
theorem number_of_spells (hspells : v.SpellsNumber n) (htaken : tokenIdField v = .ok id) :
    (id.number : Int) = n := by
  cases hspells with
  | number =>
    obtain ⟨text, hwrite, htext⟩ := exists_write_of_tokenIdField htaken
    exact number_of_tokenIdOfText htext (Numeral.readNumber_write hwrite)
  | decimal =>
    rw [tokenIdField_text] at htaken
    have hnumber := (tokenIdOfText_eq_ok_iff.mp htaken).2.1
    rw [Numeral.readNumber_toString] at hnumber
    split at hnumber
    · cases hnumber
    · exact (Except.ok.inj hnumber).symm
  | hexadecimal hmark htext hdigits =>
    rw [tokenIdField_text] at htaken
    exact number_of_tokenIdOfText htaken (Numeral.readNumber_marked hmark htext hdigits)

/-- A numeral of a number that fits is taken. -/
theorem exists_tokenIdOfText_of_readNumber {text : String} (hread : TokenId.readNumber text = .ok n)
    (hzero : 0 ≤ n) (hlimit : n < Nat.pow 2 256) : ∃ id, tokenIdOfText text = .ok id := by
  refine ⟨⟨text, n.toNat⟩, tokenIdOfText_eq_ok_iff.mpr ⟨rfl, ?_, (Int.toNat_lt hzero).mpr hlimit⟩⟩
  rw [hread, Int.toNat_of_nonneg hzero]

/-- Every spelling of a number that fits is taken by the field. -/
theorem exists_tokenIdField (hspells : v.SpellsNumber n) (hzero : 0 ≤ n)
    (hlimit : n < Nat.pow 2 256) : ∃ id, tokenIdField v = .ok id := by
  have hwrite : Numeral.write n = .ok (toString n) := by
    have hsmall : n.natAbs < Nat.pow 2 256 := by
      generalize Nat.pow 2 256 = limit at hlimit ⊢
      omega
    exact Numeral.write_of_lt (Nat.lt_trans hsmall (by decide))
  have hdecimal := Numeral.readNumber_write hwrite
  cases hspells with
  | number =>
    rw [tokenIdField_of_write hwrite]
    exact exists_tokenIdOfText_of_readNumber hdecimal hzero hlimit
  | decimal =>
    rw [tokenIdField_text]
    exact exists_tokenIdOfText_of_readNumber hdecimal hzero hlimit
  | hexadecimal hmark htext hdigits =>
    rw [tokenIdField_text]
    have hread := Numeral.readNumber_marked hmark htext hdigits
    exact exists_tokenIdOfText_of_readNumber hread hzero hlimit

/-- The field breaks no other rules than those of the domain. -/
theorem exists_refusal_of_tokenIdField {fault : FieldFault} (h : tokenIdField v = .error fault) :
    ∃ refusal, fault = .refused refusal := by
  have htext : ∀ text, tokenIdOfText text = .error fault → ∃ refusal, fault = .refused refusal := by
    intro text h
    unfold tokenIdOfText at h
    split at h
    · exact ⟨_, (Except.error.inj h).symm⟩
    · split at h
      · cases h
      · exact ⟨_, (Except.error.inj h).symm⟩
  cases v with
  | text text => exact htext text (tokenIdField_text text ▸ h)
  | int n =>
    cases hwrite : Numeral.write n with
    | error fault =>
      rw [tokenIdField_of_write_error hwrite] at h
      exact ⟨_, (Except.error.inj h).symm⟩
    | ok text =>
      rw [tokenIdField_of_write hwrite] at h
      exact htext text h
  | _ =>
    delta tokenIdField at h
    exact ⟨_, (Except.error.inj h).symm⟩

/-! ## Requests -/

/-- The draft with another identifier, or without one. -/
def Draft.withTokenId (draft : Draft) (field : Option Value) : Draft :=
  { draft with tokenId := field }

variable {draft : Draft} {request : Request}

theorem ofDraft_withTokenId_ok (h : ofDraft (draft.withTokenId none) = .ok request)
    (hid : tokenIdField v = .ok id) :
    ofDraft (draft.withTokenId (some v)) = .ok { request with tokenId := id } := by
  have haccepts := ofDraft_eq_ok_iff.mp h
  exact ofDraft_eq_ok_iff.mpr { haccepts with tokenId := Field.withDefault_eq_ok_iff.mpr hid }

/-- An identifier that is not taken is the only problem of a draft that is accepted without it. -/
theorem ofDraft_withTokenId_error {fault : FieldFault}
    (h : ofDraft (draft.withTokenId none) = .ok request) (hid : tokenIdField v = .error fault) :
    ofDraft (draft.withTokenId (some v)) =
      .error (.rejected ⟨.request, [⟨"token_id", fault, .field (.raw v)⟩]⟩) := by
  have haccepts := ofDraft_eq_ok_iff.mp h
  simp only [Draft.withTokenId] at haccepts
  have hid : Field.withDefault TokenId.zero tokenIdField (some v) = .error fault := hid
  simp only [ofDraft, Draft.withTokenId, haccepts.privateKey, haccepts.l1Url,
    haccepts.liquidityAddress, haccepts.l2Url, haccepts.rollupAddress, haccepts.amount,
    haccepts.token, haccepts.tokenAddress, haccepts.salt, hid, ok_bind]
  rfl

/-- How a draft's identifier is taken, and read again. -/
structure ReadsTokenIds (draft : Draft) : Prop where
  /-- If nothing else is wrong with the draft, every spelling of a number that fits is taken, and
  is the number when it is read again. -/
  accepts : ∀ request, ofDraft (draft.withTokenId none) = .ok request →
    ∀ (v : Value) (n : Int), v.SpellsNumber n → 0 ≤ n → n < Nat.pow 2 256 →
      ∃ id, ofDraft (draft.withTokenId (some v)) = .ok { request with tokenId := id } ∧
        TokenId.readNumber id.text = .ok n ∧ (id.number : Int) = n
  /-- The spellings of other numbers are refused, whatever their sizes are. -/
  refuses : ∀ request, ofDraft (draft.withTokenId none) = .ok request →
    ∀ (v : Value) (n : Int), v.SpellsNumber n → n < 0 ∨ Nat.pow 2 256 ≤ n →
      ∃ refusal, ofDraft (draft.withTokenId (some v)) =
        .error (.rejected ⟨.request, [⟨"token_id", .refused refusal, .field (.raw v)⟩]⟩)
  /-- Whatever is taken is read again, as the number that it was taken for. -/
  reads : ∀ field request, ofDraft (draft.withTokenId field) = .ok request →
    TokenId.readNumber request.tokenId.text = .ok (request.tokenId.number : Int) ∧
      request.tokenId.number < Nat.pow 2 256

/-- Identifiers survive in every spelling. -/
theorem ofDraft_readsTokenIds (draft : Draft) : ReadsTokenIds draft where
  accepts request hrequest v n hspells hzero hlimit := by
    obtain ⟨id, hid⟩ := exists_tokenIdField hspells hzero hlimit
    have haccepted := ofDraft_withTokenId_ok hrequest hid
    have hnumber := number_of_spells hspells hid
    have hread := (ofDraft_eq_ok_iff.mp haccepted).isNormal.tokenId
    exact ⟨id, haccepted, hnumber ▸ hread, hnumber⟩
  refuses request hrequest v n hspells hrange := by
    cases hfield : tokenIdField v with
    | ok id =>
      -- what is taken fits, so the number that is spelled would fit
      have hnumber := number_of_spells hspells hfield
      have haccepted := ofDraft_withTokenId_ok hrequest hfield
      have hlimit := (ofDraft_eq_ok_iff.mp haccepted).isNormal.tokenNumber
      generalize Nat.pow 2 256 = limit at hrange hlimit
      simp only at hlimit
      omega
    | error fault =>
      obtain ⟨refusal, rfl⟩ := exists_refusal_of_tokenIdField hfield
      exact ⟨refusal, ofDraft_withTokenId_error hrequest hfield⟩
  reads field request hrequest := by
    have hnormal := (ofDraft_eq_ok_iff.mp hrequest).isNormal
    exact ⟨hnormal.tokenId, hnormal.tokenNumber⟩

/-- In the sample draft 255 is taken in capitals with zeros in front. A negative number and the
decimal text of the least number that does not fit are refused. -/
theorem ofDraft_readsTokenIds_sample :
    (∃ id, ofDraft ((Bridge.sampleDraft Bridge.sampleRequest.privateKey).withTokenId
        (some (.text "0X00fF"))) = .ok { Bridge.sampleRequest with tokenId := id } ∧
      TokenId.readNumber id.text = .ok 255 ∧ (id.number : Int) = 255) ∧
    (∃ refusal, ofDraft ((Bridge.sampleDraft Bridge.sampleRequest.privateKey).withTokenId
        (some (.int (-1)))) =
      .error (.rejected ⟨.request,
        [⟨"token_id", .refused refusal, .field (.raw (.int (-1)))⟩]⟩)) ∧
    ∃ refusal, ofDraft ((Bridge.sampleDraft Bridge.sampleRequest.privateKey).withTokenId
        (some (.text (toString (Nat.pow 2 256 : Int))))) =
      .error (.rejected ⟨.request, [⟨"token_id", .refused refusal,
        .field (.raw (.text (toString (Nat.pow 2 256 : Int))))⟩]⟩) := by
  have hword := Bridge.ofText_sampleKey
  have hvalid : ofDraft ((Bridge.sampleDraft Bridge.sampleRequest.privateKey).withTokenId none) =
      .ok Bridge.sampleRequest := Bridge.ofDraft_sampleDraft hword
  have hspells : (Value.text "0X00fF").SpellsNumber (255 : Nat) :=
    @Value.SpellsNumber.hexadecimal _ 'X' "00fF".toList 2 255 (.inr rfl) rfl rfl
  have hids := ofDraft_readsTokenIds (Bridge.sampleDraft Bridge.sampleRequest.privateKey)
  refine ⟨?_, ?_, ?_⟩
  · exact hids.accepts _ hvalid _ _ hspells (by decide) (by decide)
  · exact hids.refuses _ hvalid _ _ (.number (-1)) (.inl (by decide))
  · exact hids.refuses _ hvalid _ _ (.decimal _) (.inr (Int.le_refl _))

end Request

end DepositBridge
