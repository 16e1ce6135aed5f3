import DepositBridge.Deposit.Hash
import DepositBridge.Proofs.Octets

/-!
# What a deposit's hash is made of

The packed fields of a deposit are its commitment, four octets of the index and thirty-two of the
amount, as long as the numbers fit into their fields.
-/

namespace DepositBridge

namespace Hex

theorem digitChar_eq_digit : ∀ n, n < 16 → Nat.digitChar n = digit n := by decide

theorem digitsPadded_one {n : Nat} (h : n < 16) : digitsPadded 1 n = [digit n] := by
  rw [digitsPadded, digits, Nat.toDigits_of_lt_base h, digitChar_eq_digit n h]
  rfl

/-- Digits with one more in front of them are those of a sixteenth of the number and its last
one. -/
theorem digitsPadded_succ {width : Nat} (hwidth : 0 < width) (n : Nat) :
    digitsPadded (width + 1) n = digitsPadded width (n / 16) ++ [digit (n % 16)] := by
  unfold digitsPadded digits
  by_cases hsmall : n < 16
  · obtain ⟨less, rfl⟩ : ∃ less, width = less + 1 := ⟨width - 1, by omega⟩
    have hzero : n / 16 = 0 := by omega
    rw [Nat.toDigits_of_lt_base hsmall, hzero, Nat.toDigits_zero, digitChar_eq_digit n hsmall,
      Nat.mod_eq_of_lt hsmall]
    simp [List.replicate_succ']
  · rw [Nat.toDigits_of_base_le (by decide) (by omega),
      digitChar_eq_digit _ (Nat.mod_lt n (by decide))]
    simp

theorem encodeChars_append (first rest : Octets) :
    encodeChars (first ++ rest) = encodeChars first ++ encodeChars rest := by
  induction first with
  | nil => rfl
  | cons b first ih => simp [encodeChars, ih]

theorem encodeChars_ofNatWidth_succ (width n : Nat) :
    encodeChars (Octets.ofNatWidth (width + 1) n) =
      encodeChars (Octets.ofNatWidth width (n / 256)) ++ [digit (n / 16 % 16), digit (n % 16)] := by
  have hlow : (UInt8.ofNat (n % 256)).toNat = n % 256 := by
    rw [UInt8.toNat_ofNat']
    omega
  have hhigh : n % 256 / 16 = n / 16 % 16 := by omega
  have hlast : n % 256 % 16 = n % 16 := by omega
  rw [Octets.ofNatWidth, encodeChars_append]
  simp only [encodeChars, hlow, hhigh, hlast]

/-- The digits of a number that fits are those of its octets. -/
theorem digitsPadded_eq (width n : Nat) (h : n < 256 ^ (width + 1)) :
    digitsPadded (2 * (width + 1)) n = encodeChars (Octets.ofNatWidth (width + 1) n) := by
  induction width generalizing n with
  | zero =>
    have hhigh : n / 16 < 16 := by omega
    rw [digitsPadded_succ (by decide), digitsPadded_one hhigh, encodeChars_ofNatWidth_succ,
      Nat.mod_eq_of_lt hhigh]
    rfl
  | succ width ih =>
    -- the last octet is the last two digits, and the digits in front of them are those of a 256th
    have hrest := ih (n / 256) (by rw [Nat.pow_succ] at h; omega)
    rw [Nat.mul_succ, digitsPadded_succ (by omega), digitsPadded_succ (by omega),
      Nat.div_div_eq_div_mul, hrest, encodeChars_ofNatWidth_succ (width + 1), List.append_assoc]
    rfl

end Hex

namespace DepositHash

/-- Numbers that fit into their fields are packed as octets of a fixed width. -/
theorem packed_eq {salt : Octets} {index amount : Nat} (hindex : index < 2 ^ 32)
    (hamount : amount < 2 ^ 256) :
    packed salt index amount =
      salt ++ Octets.ofNatWidth 4 index ++ Octets.ofNatWidth 32 amount := by
  have hfields : Hex.encodeChars salt ++ Hex.digitsPadded 8 index ++ Hex.digitsPadded 64 amount =
      Hex.encodeChars (salt ++ Octets.ofNatWidth 4 index ++ Octets.ofNatWidth 32 amount) := by
    rw [Hex.encodeChars_append, Hex.encodeChars_append, ← Hex.digitsPadded_eq 3 index hindex,
      ← Hex.digitsPadded_eq 31 amount hamount]
  have heven : ¬ (Hex.encodeChars
      (salt ++ Octets.ofNatWidth 4 index ++ Octets.ofNatWidth 32 amount)).length % 2 = 1 := by
    rw [Hex.length_encodeChars]
    omega
  rw [packed, packedDigits]
  simp only [hfields, heven, if_false, Hex.decodePairs?_encodeChars, Option.getD_some]

end DepositHash

end DepositBridge
