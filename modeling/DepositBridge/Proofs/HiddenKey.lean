import DepositBridge.Proofs.TokenRefusal

/-!
# What a request tells of its key

The reason for which a key is refused leaves the key out, and a key that is taken is shown as a
mask. So drafts that differ in their keys only make requests that look alike, or are refused in the
same words (`Request.ofDraft_hides_key`). The list of the problems is another matter: each problem
comes with its input, which is the key that is refused, or all that was given if a field is missing
(`Request.ofDraft_repeats_key`).
-/

namespace DepositBridge

/-! ## Two records, field by field -/

namespace Checked

variable {α β γ ε : Type}

/-- Two records have problems that are alike, one by one, or both have none and their values are
related. -/
inductive Agree (alike : Problem → Problem → Prop) (related : α → β → Prop) :
    Checked α → Checked β → Prop where
  | valid {a : α} {b : β} (h : related a b) : Agree alike related (.valid a) (.valid b)
  | invalid {problems others : List Problem} (h : List.Forall₂ alike problems others) :
    Agree alike related (.invalid problems) (.invalid others)

variable {alike : Problem → Problem → Prop} {related : β → γ → Prop}

/-- One more field with the same value in both adds the same to both, but for the input. -/
theorem Agree.field {record : Checked (α → β)} {other : Checked (α → γ)} (name : String)
    (input input' : Input) (value : Except FieldFault α)
    (h : Agree alike (fun make make' => ∀ a, related (make a) (make' a)) record other)
    (halike : ∀ fault, value = .error fault → alike ⟨name, fault, input⟩ ⟨name, fault, input'⟩) :
    Agree alike related (record.field name input value) (other.field name input' value) := by
  cases h with
  | valid hmake =>
    cases value with
    | ok a => exact .valid (hmake a)
    | error fault => exact .invalid (.cons (halike fault rfl) .nil)
  | invalid hproblems =>
    cases value with
    | ok a => exact .invalid hproblems
    | error fault => exact .invalid (List.rel_append hproblems (.cons (halike fault rfl) .nil))

theorem Agree.toExcept {record : Checked β} {other : Checked γ}
    (h : Agree alike related record other) (wrap : List Problem → ε) :
    (∃ problems others, List.Forall₂ alike problems others ∧
      record.toExcept wrap = .error (wrap problems) ∧
        other.toExcept wrap = .error (wrap others)) ∨
    ∃ b c, record.toExcept wrap = .ok b ∧ other.toExcept wrap = .ok c ∧ related b c := by
  cases h with
  | valid hrelated => exact .inr ⟨_, _, rfl, rfl, hrelated⟩
  | invalid hproblems => exact .inl ⟨_, _, hproblems, rfl, rfl⟩

end Checked

namespace Request

/-! ## Requests that look alike -/

/-- A draft with another key. -/
def Draft.withKey (draft : Draft) (v : Value) : Draft := { draft with privateKey := some v }

/-- A request with the text of another key. -/
def withKeyText (request : Request) (text : String) : Request := { request with privateKey := text }

/-- Two requests differ at most in their keys, and nothing that is shown of them or derived from
them differs. -/
structure LooksLike (request other : Request) : Prop where
  fields : other = request.withKeyText other.privateKey
  asset : other.asset = request.asset
  saltText : other.saltText = request.saltText
  tokenNumber : other.tokenId.number = request.tokenId.number
  quoted : other.quoted = request.quoted
  shown : other.shown = request.shown

/-- Another key with the same mask makes a request that looks alike. -/
theorem looksLike_withKeyText {request : Request} {text : String}
    (h : Text.mask text = Text.mask request.privateKey) :
    LooksLike request (request.withKeyText text) := by
  have hshown : (request.withKeyText text).shownFields = request.shownFields := by
    simp only [shownFields, withKeyText, h]
    rfl
  exact {
    fields := rfl
    asset := rfl
    saltText := rfl
    tokenNumber := rfl
    quoted := by
      -- the equation of the definition would be slow to make
      delta quoted
      rw [hshown]
    shown := by simp only [shown, hshown] }

/-- The text of a word is not empty, so its mask is the mask of any other. -/
theorem mask_of_ofText {text : String} {octets : Octets}
    (h : Bytes32.ofText text = .ok octets) : Text.mask text = "**********" := by
  obtain ⟨hread, hlength⟩ := Bytes32.ofText_eq_ok_iff.mp h
  have hne : text.isEmpty = false := by
    by_contra hempty
    obtain rfl : text = "" := by simpa using hempty
    cases hread
    simp at hlength
  simp [Text.mask, hne]

/-! ## The field of the key -/

/-- Whatever is refused as a key is refused with the same words. -/
theorem keyField_of_refused {v : Value} {fault : Bytes32.Fault}
    (h : Bytes32.ofValue v.revealed = .error fault) :
    keyField v = .error (.refused .privateKey) := by
  cases v <;> simp only [keyField, h]

/-- A word that is no byte string is a text, which is kept. -/
theorem keyField_of_taken {v : Value} {octets : Octets} (hv : ∀ content, v ≠ .bytes content)
    (h : Bytes32.ofValue v.revealed = .ok octets) :
    ∃ text, keyField v = .ok text ∧ Bytes32.ofText text = .ok octets := by
  cases v with
  | text text => exact ⟨text, keyField_text h, h⟩
  | hidden text => exact ⟨text, keyField_hidden h, h⟩
  | bytes content => exact absurd rfl (hv content)
  | _ => cases h

/-! ## Problems and faults that are alike -/

variable {draft : Draft} {v w : Value}

/-- Two problems of drafts that differ in their keys say the same of the same field. So do their
inputs, unless they are the keys, or all that was given. -/
inductive Alike (draft : Draft) (v w : Value) : Problem → Problem → Prop where
  | same (problem : Problem) : Alike draft v w problem problem
  | key {fault : FieldFault} (hv : keyField v = .error fault) (hw : keyField w = .error fault) :
    Alike draft v w ⟨"private_key", fault, .field (.raw v)⟩
      ⟨"private_key", fault, .field (.raw w)⟩
  | missing (name : String) :
    Alike draft v w ⟨name, .missing, .record (draft.withKey v).given⟩
      ⟨name, .missing, .record (draft.withKey w).given⟩

/-- Fields of which nothing is given are missing, and all others have the same input. -/
theorem alike_ofField {name : String} {fault : FieldFault} {given : Option Given}
    (h : given = none → fault = .missing) :
    Alike draft v w ⟨name, fault, .ofField (draft.withKey v).given given⟩
      ⟨name, fault, .ofField (draft.withKey w).given given⟩ := by
  cases given with
  | none =>
    obtain rfl := h rfl
    exact .missing name
  | some given => exact .same _

theorem Alike.withoutInput_eq {problem other : Problem} (h : Alike draft v w problem other) :
    other.withoutInput = problem.withoutInput := by
  cases h <;> rfl

/-- Without a missing field, drafts with keys that are taken have the same problems. -/
theorem Alike.eq_of_taken {problem other : Problem} {text : String}
    (h : Alike draft v w problem other) (htaken : keyField v = .ok text)
    (hgiven : problem.fault ≠ .missing) : other = problem := by
  cases h with
  | same => rfl
  | key hv => cases htaken.symm.trans hv
  | missing => exact absurd rfl hgiven

/-- The faults of drafts that differ in their keys are alike. -/
inductive FaultsAlike (draft : Draft) (v w : Value) : Fault → Fault → Prop where
  | unsupportedToken (value : Value) (shown : String) :
    FaultsAlike draft v w (.unsupportedToken value shown) (.unsupportedToken value shown)
  | rejected {problems others : List Problem}
    (h : List.Forall₂ (Alike draft v w) problems others) :
    FaultsAlike draft v w (.rejected ⟨.request, problems⟩) (.rejected ⟨.request, others⟩)

/-- Without inputs, faults that are alike are the same. -/
theorem FaultsAlike.withoutInputs_eq {fault other : Fault}
    (h : FaultsAlike draft v w fault other) : other.withoutInputs = fault.withoutInputs := by
  cases h with
  | unsupportedToken => rfl
  | @rejected problems others h =>
    have hsame : others.map Problem.withoutInput = problems.map Problem.withoutInput := by
      induction h with
      | nil => rfl
      | cons hproblem _ ih => rw [List.map_cons, List.map_cons, ih, hproblem.withoutInput_eq]
    simp only [Fault.withoutInputs, Rejection.withoutInputs, hsame]

/-- Faults that are alike are told in the same words. -/
theorem FaultsAlike.message_eq {fault other : Fault} (h : FaultsAlike draft v w fault other) :
    other.message = fault.message := by
  rw [← other.message_withoutInputs, h.withoutInputs_eq, fault.message_withoutInputs]

/-- Where nothing is missing, keys that are taken make no difference to the faults. -/
theorem FaultsAlike.eq_of_taken {fault other : Fault} {text : String}
    (h : FaultsAlike draft v w fault other) (htaken : keyField v = .ok text)
    (hgiven : ∀ rejection, fault = .rejected rejection →
      ∀ problem ∈ rejection.problems, problem.fault ≠ .missing) : other = fault := by
  cases h with
  | unsupportedToken => rfl
  | @rejected problems others h =>
    have hsame : others = problems := by
      replace hgiven := hgiven _ rfl
      induction h with
      | nil => rfl
      | cons hproblem _ ih =>
        simp only [List.forall_mem_cons] at hgiven
        rw [hproblem.eq_of_taken htaken hgiven.1, ih hgiven.2]
    rw [hsame]

/-! ## Fields of which nothing is given -/

/-- Where nothing is given, a field is missing or has a value of its own. -/
theorem missing_of_none {α γ : Type} {read : Option γ → Except FieldFault α} {field : Option γ}
    {fault : FieldFault} (hnone : read none = .error .missing ∨ ∃ a, read none = .ok a)
    (h : read field = .error fault) : field = none → fault = .missing := by
  rintro rfl
  rcases hnone with hmissing | ⟨a, ha⟩
  · exact Except.error.inj (h.symm.trans hmissing)
  · cases ha.symm.trans h

theorem missing_of_required {α : Type} {read : Value → Except FieldFault α} {field : Option Value}
    {fault : FieldFault} (h : Field.required read field = .error fault) :
    field.map Given.raw = none → fault = .missing :=
  fun hnone => missing_of_none (.inl rfl) h (Option.map_eq_none_iff.mp hnone)

theorem missing_of_withDefault {α : Type} {default_ : α} {read : Value → Except FieldFault α}
    {field : Option Value} {fault : FieldFault}
    (h : Field.withDefault default_ read field = .error fault) :
    field.map Given.raw = none → fault = .missing :=
  fun hnone => missing_of_none (.inr ⟨default_, rfl⟩) h (Option.map_eq_none_iff.mp hnone)

theorem missing_of_tokenField {field : Option Value} {fault : FieldFault}
    (h : tokenField field = .ok (.error fault)) :
    field.map Given.raw = none → fault = .missing := by
  cases field with
  | none =>
    cases h
    exact fun _ => rfl
  | some v => exact nofun

/-! ## Drafts that differ in their keys -/

/-- Drafts that differ in their keys have faults that are alike, or make requests that are related,
as soon as their first field does its part. -/
theorem ofDraft_withKey_agree (draft : Draft) (related : Request → Request → Prop)
    (hkey : Checked.Agree (Alike draft v w) (fun make make' => ∀ a b c d e f g h i,
        related (make a b c d e f g h i) (make' a b c d e f g h i))
      ((Checked.valid Request.mk).field "private_key" (.field (.raw v)) (keyField v))
      ((Checked.valid Request.mk).field "private_key" (.field (.raw w)) (keyField w))) :
    (∃ fault other, ofDraft (draft.withKey v) = .error fault ∧
      ofDraft (draft.withKey w) = .error other ∧ FaultsAlike draft v w fault other) ∨
    ∃ request other, ofDraft (draft.withKey v) = .ok request ∧
      ofDraft (draft.withKey w) = .ok other ∧ related request other := by
  simp only [ofDraft, Draft.withKey]
  cases htoken : tokenField draft.tokenType with
  | error fault =>
    obtain ⟨value, shown, -, -, -, rfl⟩ := tokenField_eq_error_iff.mp htoken
    exact .inl ⟨_, _, rfl, rfl, .unsupportedToken _ _⟩
  | ok token =>
    simp only [ok_bind]
    refine Or.imp ?_ id (Checked.Agree.toExcept (?_ : Checked.Agree (Alike draft v w) _ _ _) _)
    · rintro ⟨problems, others, hproblems, hv, hw⟩
      exact ⟨_, _, hv, hw, .rejected hproblems⟩
    -- the fields in their order from the last to the first, which is the key
    refine .field _ _ _ _ ?_ fun _ h => alike_ofField (missing_of_required h)
    refine .field _ _ _ _ ?_ fun _ h => alike_ofField (missing_of_withDefault h)
    refine .field _ _ _ _ ?_ fun _ h => alike_ofField (missing_of_withDefault h)
    refine .field _ _ _ token ?_ fun _ h => alike_ofField (missing_of_tokenField (h ▸ htoken))
    refine .field _ _ _ _ ?_ fun _ h => alike_ofField (missing_of_required h)
    refine .field _ _ _ _ ?_ fun _ h => alike_ofField (missing_of_required h)
    refine .field _ _ _ _ ?_ fun _ h => alike_ofField (missing_of_none (.inl rfl) h)
    refine .field _ _ _ _ ?_ fun _ h => alike_ofField (missing_of_required h)
    refine .field _ _ _ _ ?_ fun _ h => alike_ofField (missing_of_none (.inl rfl) h)
    exact hkey

/-- With keys that are refused, a draft makes no request, and the two faults are alike. -/
theorem ofDraft_withKey_refused (draft : Draft) {fault : FieldFault}
    (hv : keyField v = .error fault) (hw : keyField w = .error fault) :
    ∃ fault other, ofDraft (draft.withKey v) = .error fault ∧
      ofDraft (draft.withKey w) = .error other ∧ FaultsAlike draft v w fault other := by
  have hagree := ofDraft_withKey_agree (v := v) (w := w) draft fun _ _ => False
  rw [hv, hw] at hagree
  obtain hfaults | ⟨_, _, -, -, ⟨⟩⟩ := hagree (.invalid (.cons (.key hv hw) .nil))
  exact hfaults

/-- With keys that are taken, two drafts have faults that are alike, or make requests that are equal
but for their keys. -/
theorem ofDraft_withKey_taken (draft : Draft) {s t : String} (hv : keyField v = .ok s)
    (hw : keyField w = .ok t) :
    (∃ fault other, ofDraft (draft.withKey v) = .error fault ∧
      ofDraft (draft.withKey w) = .error other ∧ FaultsAlike draft v w fault other) ∨
    ∃ request other, ofDraft (draft.withKey v) = .ok request ∧
      ofDraft (draft.withKey w) = .ok other ∧ request.privateKey = s ∧
        other = request.withKeyText t := by
  refine ofDraft_withKey_agree draft _ ?_
  rw [hv, hw]
  exact .valid fun _ _ _ _ _ _ _ _ _ => ⟨rfl, rfl⟩

/-- A key that is refused stands in the list of the problems. -/
theorem mem_problems_of_refused {rejection : Rejection} {fault : Bytes32.Fault}
    (hrefused : Bytes32.ofValue v.revealed = .error fault)
    (h : ofDraft (draft.withKey v) = .error (.rejected rejection)) :
    ⟨"private_key", .refused .privateKey, .field (.raw v)⟩ ∈ rejection.problems := by
  rw [ofDraft, bind_eq_error_iff] at h
  obtain htoken | ⟨token, -, hrecord⟩ := h
  · obtain ⟨_, _, -, -, -, ⟨⟩⟩ := tokenField_eq_error_iff.mp htoken
  · obtain ⟨rfl⟩ := Checked.toExcept_eq_error hrecord
    have hfield : Field.required keyField (some v) = _ := keyField_of_refused hrefused
    -- the key is read first, and its problem stays in the list
    iterate 9 refine Checked.mem_problems_field ?_
    simp only [Draft.withKey, hfield]
    exact List.mem_singleton.mpr rfl

/-! ## What is hidden, and what is not -/

/-- What is seen of two keys in what comes of a draft. -/
structure HidesKeys (draft : Draft) (v w : Value) : Prop where
  /-- Of two keys that are refused, the faults say the same in the same words. -/
  refused : ∀ reason reason', Bytes32.ofValue v.revealed = .error reason →
    Bytes32.ofValue w.revealed = .error reason' →
    ∃ fault other, ofDraft (draft.withKey v) = .error fault ∧
      ofDraft (draft.withKey w) = .error other ∧ FaultsAlike draft v w fault other ∧
        other.message = fault.message
  /-- But a key that is refused is itself the input of its problem. -/
  repeats : ∀ reason rejection, Bytes32.ofValue v.revealed = .error reason →
    ofDraft (draft.withKey v) = .error (.rejected rejection) →
      ⟨"private_key", .refused .privateKey, .field (.raw v)⟩ ∈ rejection.problems
  /-- Two keys that are taken make requests that look alike, or faults that say the same in the same
  words, and are the same unless a field is missing. -/
  taken : ∀ octets octets', Bytes32.ofValue v.revealed = .ok octets →
    Bytes32.ofValue w.revealed = .ok octets' →
    (∃ fault other, ofDraft (draft.withKey v) = .error fault ∧
      ofDraft (draft.withKey w) = .error other ∧ FaultsAlike draft v w fault other ∧
        other.message = fault.message ∧
          ((∀ rejection, fault = .rejected rejection → ∀ problem ∈ rejection.problems,
            problem.fault ≠ .missing) → other = fault)) ∨
    ∃ request other, ofDraft (draft.withKey v) = .ok request ∧
      ofDraft (draft.withKey w) = .ok other ∧ LooksLike request other

/-- The key does not show in words: two keys that are no byte strings are refused alike, or make
requests that look alike. The list of the problems tells a key that is refused from all others, and
keys that are taken where a field is missing. -/
theorem ofDraft_hides_key (draft : Draft) (hv : ∀ content, v ≠ .bytes content)
    (hw : ∀ content, w ≠ .bytes content) : HidesKeys draft v w where
  refused reason reason' hrefused hrefused' := by
    obtain ⟨fault, other, hfault, hother, halike⟩ := ofDraft_withKey_refused draft
      (keyField_of_refused hrefused) (keyField_of_refused hrefused')
    exact ⟨fault, other, hfault, hother, halike, halike.message_eq⟩
  repeats reason rejection hrefused h := mem_problems_of_refused hrefused h
  taken octets octets' htaken htaken' := by
    obtain ⟨s, hs, hword⟩ := keyField_of_taken hv htaken
    obtain ⟨t, ht, hword'⟩ := keyField_of_taken hw htaken'
    obtain ⟨fault, other, hfault, hother, halike⟩ | ⟨request, other, hrequest, hother, rfl, rfl⟩ :=
      ofDraft_withKey_taken draft hs ht
    · exact .inl ⟨fault, other, hfault, hother, halike, halike.message_eq, halike.eq_of_taken hs⟩
    · have hmask : Text.mask t = Text.mask request.privateKey := by
        rw [mask_of_ofText hword, mask_of_ofText hword']
      exact .inr ⟨request, _, hrequest, hother, looksLike_withKeyText hmask⟩

/-- Two keys of the curve, of which one is hidden, make sample requests that look alike; a text that
is no word and null are refused in the same words. -/
theorem ofDraft_hides_key_sample :
    (∃ request other, ofDraft ((Bridge.sampleDraft "").withKey (.text (Hex.encodeMarked
        (Octets.ofNatWidth 32 1)))) = .ok request ∧
      ofDraft ((Bridge.sampleDraft "").withKey (.hidden (Hex.encodeMarked
        (Octets.ofNatWidth 32 2)))) = .ok other ∧ LooksLike request other) ∧
    ∃ fault other, ofDraft ((Bridge.sampleDraft "").withKey (.text "hunter2")) = .error fault ∧
      ofDraft ((Bridge.sampleDraft "").withKey .null) = .error other ∧
        other.message = fault.message := by
  have hword := Bytes32.ofText_ofNatWidth
  have hvalue : ∀ n, Bytes32.ofValue (.text (Hex.encodeMarked (Octets.ofNatWidth 32 n))) =
      .ok (Octets.ofNatWidth 32 n) := by
    intro n
    rw [Bytes32.ofValue, hword]
  have htext : ∀ (text : String) content, Value.text text ≠ .bytes content := by simp
  constructor
  · have hhidden : ∀ (text : String) content, Value.hidden text ≠ .bytes content := by simp
    obtain ⟨fault, _, hfault, -⟩ | hrequests := (ofDraft_hides_key (Bridge.sampleDraft "")
      (htext _) (hhidden _)).taken _ _ (hvalue 1) (hvalue 2)
    · rw [Draft.withKey, ofDraft_sampleDraft_key (keyField_text (hword 1))] at hfault
      cases hfault
    · exact hrequests
  · have hrefused : Bytes32.ofValue (Value.text "hunter2").revealed =
        .error (.malformed "hunter2") := by
      decide +kernel
    have hnull : ∀ content, Value.null ≠ .bytes content := by simp
    obtain ⟨fault, other, hfault, hother, -, hmessage⟩ := (ofDraft_hides_key
      (Bridge.sampleDraft "") (htext _) hnull).refused _ _ hrefused rfl
    exact ⟨fault, other, hfault, hother, hmessage⟩

/-! ## Lists of problems that differ -/

/-- A key that is refused is the only problem of a draft that is accepted with another. -/
theorem ofDraft_withKey_error {request : Request} {fault : Bytes32.Fault}
    (h : ofDraft (draft.withKey w) = .ok request)
    (hrefused : Bytes32.ofValue v.revealed = .error fault) :
    ofDraft (draft.withKey v) = .error (.rejected ⟨.request,
      [⟨"private_key", .refused .privateKey, .field (.raw v)⟩]⟩) := by
  have haccepts := ofDraft_eq_ok_iff.mp h
  have hfield : Field.required keyField (some v) = _ := keyField_of_refused hrefused
  simp only [Draft.withKey] at haccepts
  simp only [ofDraft, Draft.withKey, hfield, haccepts.l1Url, haccepts.liquidityAddress,
    haccepts.l2Url, haccepts.rollupAddress, haccepts.amount, haccepts.token,
    haccepts.tokenAddress, haccepts.tokenId, haccepts.salt, ok_bind]
  rfl

/-- The draft without an amount. -/
def Draft.withoutAmount (draft : Draft) : Draft := { draft with amount := none }

/-- Without an amount, a draft that is accepted otherwise has one problem, with all that is given. -/
theorem ofDraft_withoutAmount {request : Request} (h : ofDraft draft = .ok request) :
    ofDraft draft.withoutAmount = .error (.rejected ⟨.request,
      [⟨"amount", .missing, .record draft.withoutAmount.given⟩]⟩) := by
  have haccepts := ofDraft_eq_ok_iff.mp h
  simp only [ofDraft, Draft.withoutAmount, haccepts.privateKey, haccepts.l1Url,
    haccepts.liquidityAddress, haccepts.l2Url, haccepts.rollupAddress, haccepts.token,
    haccepts.tokenAddress, haccepts.tokenId, haccepts.salt, ok_bind]
  rfl

/-- What is given tells the key. -/
theorem given_withKey_inj (h : (draft.withKey v).given = (draft.withKey w).given) : v = w := by
  have hfirst : ("private_key", Given.raw v) = ("private_key", Given.raw w) := (List.cons.inj h).1
  simpa using hfirst

/-- Two texts that are no words are refused with lists of problems that differ: each list has the
text that was given. Where the amount is missing, two words are refused with lists that differ too,
since the problem has all that was given. -/
theorem ofDraft_repeats_key :
    let draft := Bridge.sampleDraft ""
    let refusal (text : String) : Problem :=
      ⟨"private_key", .refused .privateKey, .field (.raw (.text text))⟩
    let word (n : Nat) : Value := .text (Hex.encodeMarked (Octets.ofNatWidth 32 n))
    let lack (n : Nat) : Problem :=
      ⟨"amount", .missing, .record (draft.withKey (word n)).withoutAmount.given⟩
    (Bytes32.ofText "hunter2" = .error (.malformed "hunter2") ∧
      Bytes32.ofText "swordfish" = .error (.malformed "swordfish") ∧
      ofDraft (draft.withKey (.text "hunter2")) =
        .error (.rejected ⟨.request, [refusal "hunter2"]⟩) ∧
      ofDraft (draft.withKey (.text "swordfish")) =
        .error (.rejected ⟨.request, [refusal "swordfish"]⟩) ∧
      refusal "hunter2" ≠ refusal "swordfish") ∧
    (∀ n, Bytes32.ofValue (word n) = .ok (Octets.ofNatWidth 32 n)) ∧
    (∀ n, ofDraft (draft.withKey (word n)).withoutAmount =
      .error (.rejected ⟨.request, [lack n]⟩)) ∧
    lack 1 ≠ lack 2 := by
  intro draft refusal word lack
  have hword := Bytes32.ofText_ofNatWidth
  have haccepted : ∀ n, ofDraft (draft.withKey (word n)) = .ok _ :=
    fun n => ofDraft_sampleDraft_key (keyField_text (hword n))
  have hhunter : Bytes32.ofText "hunter2" = .error (.malformed "hunter2") := by decide +kernel
  have hsword : Bytes32.ofText "swordfish" = .error (.malformed "swordfish") := by decide +kernel
  refine ⟨⟨hhunter, hsword, ofDraft_withKey_error (haccepted 1) hhunter,
    ofDraft_withKey_error (haccepted 1) hsword, by simp [refusal]⟩, fun n => ?_,
    fun n => ofDraft_withoutAmount (haccepted n), ?_⟩
  · simp only [word, Bytes32.ofValue, hword]
  · -- equal keys would be read as equal octets
    intro hsame
    have hgiven := Input.record.inj (Problem.mk.inj hsame).2.2
    have hkeys : word 1 = word 2 := @given_withKey_inj draft.withoutAmount _ _ hgiven
    have hone := hword 1
    rw [Value.text.inj hkeys, hword 2] at hone
    exact absurd hone (by decide)

end Request

end DepositBridge
