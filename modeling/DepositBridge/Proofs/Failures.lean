import DepositBridge.Failure

/-!
# Failures that are reported

The failures that are errors of the five classes that the command line looks after, one by one, and
the proof that no others are reported (`Failure.isReported_iff`). An error of a class below one of
the five, such as fields that make no record, is an error of that class too.
-/

namespace DepositBridge

/-! ## The class that is looked after -/

/-- The one of the five that a class is, or is below. Only the class of values has any below it. -/
def ErrorClass.reportedAs? : ErrorClass → Option ErrorClass
  | configuration => some configuration
  | unsupportedTokenType => some unsupportedTokenType
  | wallet => some wallet
  | remoteCall => some remoteCall
  | value => some value
  | validation => some value
  | decoding => some value
  | digits => some value
  | remoteValue => some value
  | other _ => none

theorem ErrorClass.isWithin_iff {c d : ErrorClass} (hd : d ∈ reported) :
    c.isWithin d = true ↔ c.reportedAs? = some d := by
  simp only [reported, List.mem_cons, List.not_mem_nil, or_false] at hd
  rcases hd with rfl | rfl | rfl | rfl | rfl <;> cases c <;> simp [isWithin, above?, reportedAs?]

/-! ## Errors of the five classes -/

/-- The faults of a wallet that are errors of a class that is looked after. -/
inductive Wallet.Fault.IsA : Wallet.Fault → ErrorClass → Prop where
  | invalidKey : IsA .invalidKey .wallet
  | invalidAddress (refusal : Refusal) : IsA (.invalidAddress refusal) .wallet
  | readOnly (address : Address) : IsA (.readOnly address) .wallet
  | noNonce : IsA (.signing .noNonce) .wallet
  | unformattable (field quoted : String) : IsA (.transaction (.unformattable field quoted)) .value

/-- The faults of a client that are errors of a class that is looked after. What the remote side
refuses to carry out has a class of its own; the others are values that are not what they have to
be. -/
inductive Client.Fault.IsA : Client.Fault → ErrorClass → Prop where
  | wallet {fault : Wallet.Fault} {c : ErrorClass} (h : fault.IsA c) : IsA (.wallet fault) c
  | noAccount (url : String) : IsA (.noAccount url) .remoteCall
  | reverted (label : String) (hash : Octets) : IsA (.reverted label hash) .remoteCall
  | foreign (kind text : String) : IsA (.foreign kind text true) .remoteCall
  | refused (refusal : Refusal) : IsA (.refused refusal) .value
  | numeral (fault : Numeral.Fault) : IsA (.numeral fault) .value
  | notHexadecimal : IsA .notHexadecimal .value
  | width (octets : Octets) (expected : Nat) : IsA (.width octets expected) .value
  | gasLimit (estimate limit : Int) : IsA (.gasLimit estimate limit) .value

namespace Failure

/-- The failures that are errors of a class that is looked after. -/
inductive IsA : Failure → ErrorClass → Prop where
  | settings (fault : Settings.Fault) : IsA (.settings fault) .configuration
  | notFound (path : Path) : IsA (.artifact (.notFound path)) .configuration
  | notBundled (name : String) : IsA (.artifact (.notBundled name)) .configuration
  | malformed (name report : String) : IsA (.artifact (.malformed name report)) .configuration
  | noEntries (name : String) : IsA (.artifact (.noEntries name)) .configuration
  | unsupportedToken (value : Value) (shown : String) :
    IsA (.request (.unsupportedToken value shown)) .unsupportedTokenType
  | wallet {fault : Wallet.Fault} {c : ErrorClass} (h : fault.IsA c) : IsA (.wallet fault) c
  | client {fault : Client.Fault} {c : ErrorClass} (h : fault.IsA c) : IsA (.client fault) c
  | environment (fault : EnvFile.Fault) : IsA (.environment fault) .value
  | encoding (fault : Text.Utf8Fault) : IsA (.artifact (.encoding fault)) .value
  | longNumber (fault : Numeral.Fault) : IsA (.artifact (.numeral fault)) .value
  | rejectedRequest (rejection : Rejection) : IsA (.request (.rejected rejection)) .value
  | notObjects : IsA (.interface .notObjects) .value
  | collision (groups : List (Octets × List String)) : IsA (.interface (.collision groups)) .value
  | rejected (rejection : Rejection) : IsA (.rejected rejection) .value
  | nothingToRelay : IsA .nothingToRelay .value
  | numeral (fault : Numeral.Fault) : IsA (.numeral fault) .value

/-- A failure is an error of one of the five classes that are looked after. -/
def IsLookedAfter (failure : Failure) : Prop :=
  ∃ c ∈ [.configuration, .unsupportedTokenType, .wallet, .remoteCall, .value], failure.IsA c

/-! ## What is reported -/

variable {c : ErrorClass}

theorem reportedAs?_walletClass_iff {fault : Wallet.Fault} :
    (walletClass fault).reportedAs? = some c ↔ fault.IsA c := by
  constructor
  · intro h
    rcases fault with _ | _ | _ | ⟨_ | _ | _⟩ | ⟨_ | _⟩ <;> cases h <;> constructor
  · rintro ⟨⟩ <;> rfl

theorem reportedAs?_clientClass_iff {fault : Client.Fault} :
    (clientClass fault).reportedAs? = some c ↔ fault.IsA c := by
  constructor
  · intro h
    cases fault with
    | wallet fault => exact .wallet (reportedAs?_walletClass_iff.mp h)
    | lookup fault => cases fault <;> cases h
    | node fault => cases fault <;> cases h
    | log fault => cases fault <;> cases h
    | foreign kind text isRemote =>
      cases isRemote <;> cases h
      exact .foreign kind text
    | _ => cases h <;> constructor
  · intro h
    cases h with
    | wallet h => exact reportedAs?_walletClass_iff.mpr h
    | _ => rfl

/-- The class of a failure counts as another exactly if the failure is an error of that other. -/
theorem reportedAs?_errorClass_iff {failure : Failure} :
    failure.errorClass.reportedAs? = some c ↔ failure.IsA c := by
  constructor
  · intro h
    cases failure with
    | wallet fault => exact .wallet (reportedAs?_walletClass_iff.mp h)
    | client fault => exact .client (reportedAs?_clientClass_iff.mp h)
    | environment fault => cases fault <;> cases h <;> constructor
    | request fault => cases fault <;> cases h <;> constructor
    | artifact fault => cases fault <;> cases h <;> constructor
    | interface fault => cases fault <;> cases h <;> constructor
    | _ =>
      cases h
      constructor
  · intro h
    cases h with
    | wallet h => exact reportedAs?_walletClass_iff.mpr h
    | client h => exact reportedAs?_clientClass_iff.mpr h
    | environment fault => cases fault <;> rfl
    | _ => rfl

/-- The command line reports the errors of the five classes, and no other failures. -/
theorem isReported_iff {failure : Failure} :
    failure.isReported = true ↔ failure.IsLookedAfter := by
  have hreported : [.configuration, .unsupportedTokenType, .wallet, .remoteCall, .value] =
      ErrorClass.reported := rfl
  rw [isReported, List.any_eq_true, IsLookedAfter, hreported]
  constructor
  · rintro ⟨c, hc, h⟩
    exact ⟨c, hc, reportedAs?_errorClass_iff.mp ((ErrorClass.isWithin_iff hc).mp h)⟩
  · rintro ⟨c, hc, h⟩
    exact ⟨c, hc, (ErrorClass.isWithin_iff hc).mpr (reportedAs?_errorClass_iff.mpr h)⟩

end Failure

end DepositBridge
