import DepositBridge.Proofs.Checks
import DepositBridge.Proofs.PrivateKeys

/-!
# Tokens that are refused

A kind of token that cannot be deposited is refused before all other problems of a request, and
nothing is asked of a node. The refusal shows the value that it refuses. A value with a number that
has too many digits to be written cannot be shown: it is no refusal of the token but one problem
among those of the other fields (`Request.ofDraft_checksToken`, `Request.ofDraft_longToken`).
-/

namespace DepositBridge

open CommandLine (IsLong write_eq_error_iff)

/-! ## Values that can be shown -/

namespace Value

mutual

/-- The whole numbers that occur in a value. -/
def numbers : Value → List Int
  | int n => [n]
  | list items => itemsNumbers items
  | object members => membersNumbers members
  | _ => []

/-- The whole numbers that occur in the items of a list. -/
def itemsNumbers : List Value → List Int
  | [] => []
  | v :: rest => v.numbers ++ itemsNumbers rest

/-- The whole numbers that occur in the members of an object. -/
def membersNumbers : List (String × Value) → List Int
  | [] => []
  | (_, v) :: rest => v.numbers ++ membersNumbers rest

end

/-- A wording spells numbers: it fails exactly if one of them has too many digits. -/
def Spells {α : Type} (wording : Except Numeral.Fault α) (numbers : List Int) : Prop :=
  ∀ fault, wording = .error fault ↔ (∃ n ∈ numbers, IsLong n) ∧ fault = .tooLarge

section Spells

variable {α β : Type} {numbers more : List Int}

theorem spells_ok (a : α) : Spells (.ok a) [] := by
  intro fault
  simp

theorem Spells.bind {wording : Except Numeral.Fault α} {next : α → Except Numeral.Fault β}
    (h : Spells wording numbers) (hnext : ∀ a, Spells (next a) more) :
    Spells (wording >>= next) (numbers ++ more) := by
  intro fault
  cases hwording : wording with
  | error fault' =>
    obtain ⟨⟨n, hn, hlong⟩, rfl⟩ := (h fault').mp hwording
    constructor
    · intro hfault
      cases hfault
      exact ⟨⟨n, List.mem_append_left _ hn, hlong⟩, rfl⟩
    · rintro ⟨-, rfl⟩
      rfl
  | ok a =>
    -- what is worded first has no long number, so the fault is one of what follows
    have hshort : ¬ ∃ n ∈ numbers, IsLong n := fun hlong =>
      nomatch hwording.symm.trans ((h .tooLarge).mpr ⟨hlong, rfl⟩)
    simp only [ok_bind, hnext a fault, List.mem_append, or_and_right, exists_or, hshort, false_or]

theorem Spells.map {wording : Except Numeral.Fault α} (h : Spells wording numbers) (f : α → β) :
    Spells (wording >>= fun a => pure (f a)) numbers := by
  rw [← List.append_nil numbers]
  exact h.bind fun a => spells_ok (f a)

theorem Spells.exists_ok_iff {wording : Except Numeral.Fault α} (h : Spells wording numbers) :
    (∃ a, wording = .ok a) ↔ ∀ n ∈ numbers, ¬ IsLong n := by
  cases hwording : wording with
  | error fault =>
    obtain ⟨⟨n, hn, hlong⟩, -⟩ := (h fault).mp hwording
    exact iff_of_false (fun hok => nomatch hok) fun hshort => hshort n hn hlong
  | ok a =>
    refine iff_of_true ⟨a, rfl⟩ fun n hn hlong => ?_
    cases hwording.symm.trans ((h .tooLarge).mpr ⟨⟨n, hn, hlong⟩, rfl⟩)

end Spells

mutual

theorem spells_quoted : ∀ v : Value, Spells v.quoted v.numbers
  | null => spells_ok _
  | bool true => spells_ok _
  | bool false => spells_ok _
  | int n => by
    intro fault
    simp [quoted, numbers, write_eq_error_iff]
  | float x => spells_ok _
  | text s => spells_ok _
  | bytes octets => spells_ok _
  | list items => by
    rw [quoted, numbers]
    exact (spells_quotedItems items).map _
  | object members => by
    rw [quoted, numbers]
    exact (spells_quotedMembers members).map _
  | hidden s => spells_ok _

theorem spells_quotedItems : ∀ items : List Value, Spells (quotedItems items) (itemsNumbers items)
  | [] => spells_ok _
  | v :: rest => by
    rw [quotedItems, itemsNumbers]
    exact (spells_quoted v).bind fun first => (spells_quotedItems rest).map _

theorem spells_quotedMembers : ∀ members : List (String × Value),
    Spells (quotedMembers members) (membersNumbers members)
  | [] => spells_ok _
  | (key, v) :: rest => by
    rw [quotedMembers, membersNumbers]
    exact (spells_quoted v).bind fun first => (spells_quotedMembers rest).map _

end

/-- A value can be shown exactly if none of its numbers has too many digits. -/
theorem spells_shown (v : Value) : Spells v.shown v.numbers := by
  cases v with
  | text s => exact spells_ok s
  | hidden s => exact spells_ok _
  | _ => exact spells_quoted _

end Value

/-! ## The field of the token -/

theorem DepositToken.ofValue?_eq_none_iff {v : Value} :
    ofValue? v = none ↔ v ≠ .int 0 ∧ v ≠ .int 1 := by
  unfold ofValue?
  split
  · simp
  · simp
  · next hzero hone => exact iff_of_true rfl ⟨hzero, hone⟩

namespace Request

variable {draft : Draft} {v : Value}

theorem tokenField_of_none (h : DepositToken.ofValue? v = none) :
    tokenField (some v) = match v.shown with
      | .ok shown => .error (.unsupportedToken v shown)
      | .error fault => .ok (.error (.refused (.numeral fault))) := by
  cases hshown : v.shown <;> simp only [tokenField, h, hshown]

theorem tokenField_eq_error_iff {field : Option Value} {fault : Fault} :
    tokenField field = .error fault ↔ ∃ v shown, field = some v ∧
      DepositToken.ofValue? v = none ∧ v.shown = .ok shown ∧ fault = .unsupportedToken v shown := by
  cases field with
  | none => simp [tokenField]
  | some v =>
    cases hvalue : DepositToken.ofValue? v with
    | some token => simp [tokenField, hvalue]
    | none =>
      rw [tokenField_of_none hvalue]
      cases hshown : v.shown with
      | ok shown => simp [hvalue, hshown, eq_comm]
      | error fault' => simp [hshown]

/-- A request refuses the token that its field refuses. -/
theorem ofDraft_eq_unsupported_iff {shown : String} :
    ofDraft draft = .error (.unsupportedToken v shown) ↔
      draft.tokenType = some v ∧ DepositToken.ofValue? v = none ∧ v.shown = .ok shown := by
  rw [ofDraft, bind_eq_error_iff, tokenField_eq_error_iff]
  constructor
  · rintro (⟨w, shown', htype, hvalue, hshown, ⟨⟩⟩ | ⟨_, -, hrecord⟩)
    · exact ⟨htype, hvalue, hshown⟩
    · cases Checked.toExcept_eq_error hrecord
  · rintro ⟨htype, hvalue, hshown⟩
    exact .inl ⟨v, shown, htype, hvalue, hshown, rfl⟩

/-- A problem of the token's field is reported with the problems of the other fields. -/
theorem ofDraft_of_tokenField {fault : FieldFault}
    (h : tokenField draft.tokenType = .ok (.error fault)) :
    ∃ problems, ofDraft draft = .error (.rejected ⟨.request, problems⟩) ∧
      ⟨"token_type", fault, .ofField draft.given (draft.tokenType.map .raw)⟩ ∈ problems := by
  rw [ofDraft, h, ok_bind]
  refine ⟨_, Checked.toExcept_of_problems ?_ _, ?_⟩
  · simp [Checked.problem?]
  · simp [Checked.problem?]

end Request

/-- Of a draft that makes no request nothing is asked. -/
theorem Bridge.runFrom_depositDraft_error {draft : Request.Draft} {fault : Request.Fault}
    (h : Request.ofDraft draft = .error fault) (options : Endpoints.Options) (relays : Bool)
    (nodes : Program.Behaviour Node.Query Node.Answer)
    (history : List (Node.Query × Node.Answer)) :
    Program.runFrom nodes history (depositDraft draft options relays).run =
      ([], .error (.request fault)) := by
  simp only [depositDraft, h, Except.mapError]
  rfl

/-! ## Refusals -/

namespace Request

/-- A value is no kind of token that can be deposited: it is neither of the numbers zero and one. A
truth value, a float or a text is no number. -/
def IsUnsupported (v : Value) : Prop := v ≠ .int 0 ∧ v ≠ .int 1

/-- How the kind of token of a draft is judged, whatever the other fields are. -/
structure ChecksToken (draft : Draft) : Prop where
  /-- The refusals are those of the values that cannot be deposited but can be shown. -/
  refuses : ∀ v, (∃ shown, ofDraft draft = .error (.unsupportedToken v shown)) ↔
    draft.tokenType = some v ∧ IsUnsupported v ∧ ∀ n ∈ v.numbers, ¬ IsLong n
  /-- A refusal shows the value. -/
  shows : ∀ v shown, ofDraft draft = .error (.unsupportedToken v shown) → v.shown = .ok shown
  /-- A value that cannot be shown is a problem among those of the other fields. -/
  rejects : ∀ v, draft.tokenType = some v → IsUnsupported v → (∃ n ∈ v.numbers, IsLong n) →
    ∃ problems, ofDraft draft = .error (.rejected ⟨.request, problems⟩) ∧
      ⟨"token_type", .refused (.numeral .tooLarge), .field (.raw v)⟩ ∈ problems
  /-- In either case a deposit ends with the fault, and no node is asked anything. -/
  silent : ∀ v, draft.tokenType = some v → IsUnsupported v → ∃ fault,
    ofDraft draft = .error fault ∧ ∀ options relays nodes history,
      Program.runFrom nodes history (Bridge.depositDraft draft options relays).run =
        ([], .error (.request fault))

/-- A draft is refused for its kind of token exactly if the field holds a value that can be shown
and is neither of the numbers zero and one. -/
theorem ofDraft_checksToken (draft : Draft) : ChecksToken draft := by
  have hrefuses : ∀ v, (∃ shown, ofDraft draft = .error (.unsupportedToken v shown)) ↔
      draft.tokenType = some v ∧ IsUnsupported v ∧ ∀ n ∈ v.numbers, ¬ IsLong n := by
    intro v
    simp only [ofDraft_eq_unsupported_iff, DepositToken.ofValue?_eq_none_iff, exists_and_left,
      v.spells_shown.exists_ok_iff, IsUnsupported]
  have hrejects : ∀ v, draft.tokenType = some v → IsUnsupported v →
      (∃ n ∈ v.numbers, IsLong n) →
      ∃ problems, ofDraft draft = .error (.rejected ⟨.request, problems⟩) ∧
        ⟨"token_type", .refused (.numeral .tooLarge), .field (.raw v)⟩ ∈ problems := by
    intro v htype hvalue hlong
    have hshown : v.shown = .error .tooLarge := (v.spells_shown _).mpr ⟨hlong, rfl⟩
    have hfield : tokenField draft.tokenType = .ok (.error (.refused (.numeral .tooLarge))) := by
      rw [htype, tokenField_of_none (DepositToken.ofValue?_eq_none_iff.mpr hvalue), hshown]
    have hproblem := ofDraft_of_tokenField hfield
    rwa [htype] at hproblem
  refine ⟨hrefuses, fun v shown h => (ofDraft_eq_unsupported_iff.mp h).2.2, hrejects, ?_⟩
  intro v htype hvalue
  obtain ⟨fault, hfault⟩ : ∃ fault, ofDraft draft = .error fault := by
    by_cases hlong : ∃ n ∈ v.numbers, IsLong n
    · obtain ⟨problems, hproblems, -⟩ := hrejects v htype hvalue hlong
      exact ⟨_, hproblems⟩
    · obtain ⟨shown, hshown⟩ := (hrefuses v).mpr
        ⟨htype, hvalue, fun n hn hn' => hlong ⟨n, hn, hn'⟩⟩
      exact ⟨_, hshown⟩
  exact ⟨fault, hfault, fun options relays nodes history =>
    Bridge.runFrom_depositDraft_error hfault options relays nodes history⟩

/-- The least number that has too many digits to be written. -/
def longNumber : Int := Int.ofNat (Nat.pow 10 Numeral.digitLimit)

/-- The sample draft with a kind of token that has too many digits. -/
def longTokenDraft : Draft :=
  { Bridge.sampleDraft Bridge.sampleRequest.privateKey with tokenType := some (.int longNumber) }

/-- The power is kept general here: it is too large to be computed. -/
theorem isLong_longNumber : IsLong longNumber ∧ 1 < longNumber := by
  have hlimit : Numeral.digitLimit ≠ 0 := by decide
  unfold IsLong longNumber
  generalize Numeral.digitLimit = limit at hlimit
  exact ⟨Nat.le_refl _, Int.ofNat_lt.mpr (Nat.one_lt_pow hlimit (by decide))⟩

/-- The number is no kind of token that can be deposited, but it is not refused as one: the only
problem of the draft is that the number cannot be written. -/
theorem ofDraft_longToken :
    longTokenDraft.tokenType = some (.int longNumber) ∧ IsUnsupported (.int longNumber) ∧
      ofDraft longTokenDraft = .error (.rejected ⟨.request,
        [⟨"token_type", .refused (.numeral .tooLarge), .field (.raw (.int longNumber))⟩]⟩) := by
  obtain ⟨hlong, hone⟩ := isLong_longNumber
  have hword := Bridge.ofText_sampleKey
  have haccepts := ofDraft_eq_ok_iff.mp (Bridge.ofDraft_sampleDraft hword)
  unfold longTokenDraft
  generalize longNumber = n at hlong hone
  have hvalue : IsUnsupported (.int n) := by
    constructor
    · rintro ⟨⟩
      omega
    · rintro ⟨⟩
      omega
  have hshown : (Value.int n).shown = .error .tooLarge :=
    ((Value.int n).spells_shown _).mpr ⟨⟨n, List.mem_singleton.mpr rfl, hlong⟩, rfl⟩
  have htoken := tokenField_of_none (DepositToken.ofValue?_eq_none_iff.mpr hvalue)
  rw [hshown] at htoken
  refine ⟨rfl, hvalue, ?_⟩
  simp only [ofDraft, htoken, ok_bind, haccepts.privateKey, haccepts.l1Url,
    haccepts.liquidityAddress, haccepts.l2Url, haccepts.rollupAddress, haccepts.amount,
    haccepts.tokenAddress, haccepts.tokenId, haccepts.salt]
  rfl

end Request

end DepositBridge
