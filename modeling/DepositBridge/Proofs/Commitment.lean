import DepositBridge.Proofs.Fields
import DepositBridge.Proofs.Hexadecimal
import Mathlib.Data.Nat.Digits.Defs

/-!
# What a deposit's hash commits to

The octets that are hashed for a deposit have the length of the three fields exactly if both numbers
fit into their fields, and then they tell the commitment, the index and the amount apart. A number
that is too large only makes them longer, so it is never taken for one that fits.
-/

namespace DepositBridge

/-! ## Counting digits -/

namespace Hex

/-- So many digits are enough for a number if it is below that power of sixteen, and only then. -/
theorem length_digits_le_iff {n count : Nat} (hcount : 0 < count) :
    (digits n).length ≤ count ↔ n < 16 ^ count :=
  Nat.length_toDigits_le_iff (by decide) hcount

@[simp] theorem length_digitsPadded (width n : Nat) :
    (digitsPadded width n).length = max width (digits n).length := by
  simp only [digitsPadded, List.length_append, List.length_replicate]
  omega

/-! ## Reading digits -/

/-- A row of digits stands for digit values that write the number. -/
theorem exists_digitsPadded (width n : Nat) :
    ∃ ds : List Nat, (∀ d ∈ ds, d < 16) ∧ digitsPadded width n = ds.map digit ∧
      Numeral.ofDigits .sixteen ds = n := by
  obtain ⟨ds, -, hds⟩ := Numeral.exists_digits_behind_zeros (width - (digits n).length) n
  exact ⟨ds, hds⟩

theorem exists_digit_of_mem_digitsPadded {width n : Nat} {c : Char}
    (h : c ∈ digitsPadded width n) : ∃ d, d < 16 ∧ c = digit d := by
  obtain ⟨ds, hds, hdigits, -⟩ := exists_digitsPadded width n
  rw [hdigits] at h
  obtain ⟨d, hd, rfl⟩ := List.mem_map.mp h
  exact ⟨d, hds d hd, rfl⟩

theorem isDigit_of_mem_digitsPadded {width n : Nat} :
    ∀ c ∈ digitsPadded width n, isDigit c = true := by
  intro c hc
  obtain ⟨d, hd, rfl⟩ := exists_digit_of_mem_digitsPadded hc
  exact isDigit_digit d hd

/-- Digits are read if they come in pairs. -/
theorem exists_decodePairs? {text : List Char} (heven : text.length % 2 = 0)
    (hdigits : ∀ c ∈ text, isDigit c = true) : ∃ bytes, decodePairs? text = some bytes := by
  induction text using decodePairs?.induct with
  | case1 => exact ⟨[], rfl⟩
  | case2 c => simp at heven
  | case3 high low rest ih =>
    simp only [List.length_cons] at heven
    obtain ⟨h, hh⟩ := Option.isSome_iff_exists.mp (hdigits high (by simp))
    obtain ⟨l, hl⟩ := Option.isSome_iff_exists.mp (hdigits low (by simp))
    obtain ⟨bytes, hbytes⟩ := ih (by omega) fun c hc => hdigits c (by simp [hc])
    refine ⟨UInt8.ofNat (16 * h + l) :: bytes, ?_⟩
    simp only [decodePairs?, hh, hl, hbytes, Option.bind_eq_bind, Option.bind_some,
      Option.pure_def]

end Hex

/-- In a field that both fit into, two numbers have the same octets only if they are the same. -/
theorem Octets.ofNatWidth_inj {width m n : Nat} (hm : m < 256 ^ width) (hn : n < 256 ^ width) :
    ofNatWidth width m = ofNatWidth width n ↔ m = n := by
  constructor
  · intro h
    rw [← toNat_ofNatWidth_of_lt hm, h, toNat_ofNatWidth_of_lt hn]
  · rintro rfl
    rfl

namespace DepositHash

/-! ## The packed fields -/

/-- A zero in front makes the number of the digits of the packed fields even. -/
theorem length_packedDigits (salt : Octets) (index amount : Nat) :
    (packedDigits salt index amount).length =
      2 * ((2 * salt.length + max 8 (Hex.digits index).length +
        max 64 (Hex.digits amount).length + 1) / 2) := by
  simp only [packedDigits]
  split <;> simp only [List.length_cons, List.length_append, Hex.length_encodeChars,
    Hex.length_digitsPadded] at * <;> omega

theorem exists_digit_of_mem_packedDigits {salt : Octets} {index amount : Nat} {c : Char}
    (h : c ∈ packedDigits salt index amount) : ∃ d, d < 16 ∧ c = Hex.digit d := by
  have hfields : c ∈ Hex.encodeChars salt ++ Hex.digitsPadded 8 index ++
      Hex.digitsPadded 64 amount → ∃ d, d < 16 ∧ c = Hex.digit d := by
    simp only [List.mem_append]
    rintro ((hc | hc) | hc)
    · exact Hex.exists_digit_of_mem_encodeChars hc
    · exact Hex.exists_digit_of_mem_digitsPadded hc
    · exact Hex.exists_digit_of_mem_digitsPadded hc
  simp only [packedDigits] at h
  split at h
  · rcases List.mem_cons.mp h with rfl | hc
    · exact ⟨0, by decide, rfl⟩
    · exact hfields hc
  · exact hfields h

/-- The packed fields are what their digits are read as. -/
theorem decodePairs?_packedDigits (salt : Octets) (index amount : Nat) :
    Hex.decodePairs? (packedDigits salt index amount) = some (packed salt index amount) := by
  have heven : (packedDigits salt index amount).length % 2 = 0 := by
    rw [length_packedDigits]
    omega
  have hdigits : ∀ c ∈ packedDigits salt index amount, Hex.isDigit c = true := by
    intro c hc
    obtain ⟨d, hd, rfl⟩ := exists_digit_of_mem_packedDigits hc
    exact Hex.isDigit_digit d hd
  obtain ⟨bytes, hbytes⟩ := Hex.exists_decodePairs? heven hdigits
  rw [packed, hbytes, Option.getD_some]

/-- The packed fields have an octet for each two digits, and one for a digit that is left. -/
theorem length_packed (salt : Octets) (index amount : Nat) :
    (packed salt index amount).length =
      (2 * salt.length + max 8 (Hex.digits index).length + max 64 (Hex.digits amount).length + 1) /
        2 := by
  have hhalf := (Hex.digits_of_decodePairs? (decodePairs?_packedDigits salt index amount)).1
  rw [length_packedDigits] at hhalf
  omega

/-- Behind a commitment the packed fields are as long as the fields exactly if both numbers fit. -/
theorem length_packed_eq_iff {salt : Octets} {index amount : Nat} (hsalt : salt.length = 32) :
    (packed salt index amount).length = 68 ↔ index < 2 ^ 32 ∧ amount < 2 ^ 256 := by
  have hindex : (Hex.digits index).length ≤ 8 ↔ index < 2 ^ 32 :=
    Hex.length_digits_le_iff (by decide)
  have hamount : (Hex.digits amount).length ≤ 64 ↔ amount < 2 ^ 256 :=
    Hex.length_digits_le_iff (by decide)
  rw [length_packed, hsalt, ← hindex, ← hamount]
  omega

/-- Packed fields of which one lot fits are the same only if the fields are. -/
theorem packed_inj {salt salt' : Octets} {index index' amount amount' : Nat}
    (hsalt : salt.length = 32) (hsalt' : salt'.length = 32) (hindex : index < 2 ^ 32)
    (hamount : amount < 2 ^ 256) (h : packed salt index amount = packed salt' index' amount') :
    salt = salt' ∧ index = index' ∧ amount = amount' := by
  -- the other lot has as many octets, so its numbers fit too
  have hlength := (length_packed_eq_iff hsalt).mpr ⟨hindex, hamount⟩
  rw [h] at hlength
  obtain ⟨hindex', hamount'⟩ := (length_packed_eq_iff hsalt').mp hlength
  rw [packed_eq hindex hamount, packed_eq hindex' hamount', List.append_assoc, List.append_assoc]
    at h
  obtain ⟨hsalts, hnumbers⟩ := List.append_inj h (hsalt.trans hsalt'.symm)
  obtain ⟨hindices, hamounts⟩ := List.append_inj hnumbers (by simp)
  exact ⟨hsalts, (Octets.ofNatWidth_inj hindex hindex').mp hindices,
    (Octets.ofNatWidth_inj hamount hamount').mp hamounts⟩

/-! ## The hash of values -/

/-- Octets and two numbers have a deposit hash if the octets are thirty-two and neither number is
negative. -/
theorem ofValues_eq_ok_iff {salt digest : Octets} {index amount : Int} :
    ofValues (.bytes salt) (.int index) (.int amount) = .ok digest ↔
      salt.length = 32 ∧ (0 ≤ index ∧ 0 ≤ amount) ∧
        digest = hash salt index.toNat amount.toNat := by
  by_cases hsalt : salt.length = 32
  · by_cases hnumbers : 0 ≤ index ∧ 0 ≤ amount
    · simp [ofValues, length?, hsalt, hnumbers, eq_comm]
    · simp [ofValues, length?, hsalt, hnumbers]
  · simp [ofValues, length?, hsalt]

/-- Two numbers fit into the fields of an index and of an amount. -/
def Fits (index amount : Int) : Prop :=
  (0 ≤ index ∧ index < Nat.pow 2 32) ∧ 0 ≤ amount ∧ amount < Nat.pow 2 256

theorem fits_iff {index amount : Int} (hindex : 0 ≤ index) (hamount : 0 ≤ amount) :
    Fits index amount ↔ index.toNat < 2 ^ 32 ∧ amount.toNat < 2 ^ 256 := by
  simp only [Fits, hindex, hamount, true_and]
  exact and_congr (Int.toNat_lt hindex).symm (Int.toNat_lt hamount).symm

/-- The fields one behind the other, each in the octets of its type. -/
def fields (salt : Octets) (index amount : Int) : Octets :=
  salt ++ Octets.ofNatWidth 4 index.toNat ++ Octets.ofNatWidth 32 amount.toNat

/-- What the hash of a deposit tells about its fields. -/
structure Commits (salt : Octets) (index amount : Int) : Prop where
  /-- The hash of numbers that fit is the one of fields of fixed widths, also for a deposit that is
  built of the values. -/
  fits : Fits index amount →
    ofValues (.bytes salt) (.int index) (.int amount) =
      .ok (Keccak.hash (fields salt index amount)) ∧
    ∃ deposit, Deposit.ofFields (some (.bytes salt)) (some (.int index)) (some (.int amount)) =
      .ok deposit ∧ deposit.hash = Keccak.hash (fields salt index amount)
  /-- Negative numbers have none, and make no deposit. -/
  negative : index < 0 ∨ amount < 0 →
    (∃ fault, ofValues (.bytes salt) (.int index) (.int amount) = .error fault) ∧
    ∃ rejection, Deposit.ofFields (some (.bytes salt)) (some (.int index)) (some (.int amount)) =
      .error rejection
  /-- What is hashed for other numbers has the length of the fields exactly if they fit. -/
  natural : 0 ≤ index → 0 ≤ amount →
    ofValues (.bytes salt) (.int index) (.int amount) =
      .ok (Keccak.hash (packed salt index.toNat amount.toNat)) ∧
    ((packed salt index.toNat amount.toNat).length = 68 ↔ Fits index amount)
  /-- What is hashed for numbers that fit is hashed for no other values that have a hash. -/
  separates : ∀ salt' index' amount' digest digest',
    ofValues (.bytes salt) (.int index) (.int amount) = .ok digest →
    ofValues (.bytes salt') (.int index') (.int amount') = .ok digest' →
    packed salt index.toNat amount.toNat = packed salt' index'.toNat amount'.toNat →
    Fits index amount ∨ Fits index' amount' → salt = salt' ∧ index = index' ∧ amount = amount'

/-- A deposit's hash commits to a commitment of thirty-two octets, an index and an amount. -/
theorem hash_commits {salt : Octets} (hsalt : salt.length = 32) (index amount : Int) :
    Commits salt index amount where
  fits h := by
    obtain ⟨hindex, hamount⟩ := (fits_iff h.1.1 h.2.1).mp h
    have hdigest : hash salt index.toNat amount.toNat = Keccak.hash (fields salt index amount) := by
      rw [hash, packed_eq hindex hamount, fields]
    exact ⟨ofValues_eq_ok_iff.mpr ⟨hsalt, ⟨h.1.1, h.2.1⟩, hdigest.symm⟩, _,
      Deposit.ofFields_eq_ok_iff.mpr ⟨hsalt, h.1, h.2, rfl⟩, hdigest⟩
  negative h := by
    constructor
    · refine exists_error_of_ne_ok fun digest hdigest => ?_
      obtain ⟨-, hnumbers, -⟩ := ofValues_eq_ok_iff.mp hdigest
      omega
    · refine exists_error_of_ne_ok fun deposit hdeposit => ?_
      obtain ⟨-, hindex, hamount, -⟩ := Deposit.ofFields_eq_ok_iff.mp hdeposit
      omega
  natural hindex hamount := by
    refine ⟨ofValues_eq_ok_iff.mpr ⟨hsalt, ⟨hindex, hamount⟩, rfl⟩, ?_⟩
    rw [length_packed_eq_iff hsalt, fits_iff hindex hamount]
  separates salt' index' amount' digest digest' h h' hpacked hfits := by
    obtain ⟨-, ⟨hindex, hamount⟩, -⟩ := ofValues_eq_ok_iff.mp h
    obtain ⟨hsalt', ⟨hindex', hamount'⟩, -⟩ := ofValues_eq_ok_iff.mp h'
    have hsame : salt = salt' ∧ index.toNat = index'.toNat ∧ amount.toNat = amount'.toNat := by
      rcases hfits with hfits | hfits
      · obtain ⟨hi, ha⟩ := (fits_iff hindex hamount).mp hfits
        exact packed_inj hsalt hsalt' hi ha hpacked
      · obtain ⟨hi, ha⟩ := (fits_iff hindex' hamount').mp hfits
        obtain ⟨hs, hi, ha⟩ := packed_inj hsalt' hsalt hi ha hpacked.symm
        exact ⟨hs.symm, hi.symm, ha.symm⟩
    obtain ⟨hs, hi, ha⟩ := hsame
    exact ⟨hs, by omega, by omega⟩

/-- The largest index and the largest amount fit, and the hash commits to them. -/
theorem hash_commits_largest :
    (List.replicate 32 (7 : UInt8)).length = 32 ∧ Fits 4294967295 (2 ^ 256 - 1) ∧
      Commits (List.replicate 32 7) 4294967295 (2 ^ 256 - 1) :=
  ⟨by decide, by unfold Fits; decide, hash_commits (by decide) _ _⟩

end DepositHash

end DepositBridge
