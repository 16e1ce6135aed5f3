import DepositBridge.Octets
import Mathlib.Algebra.Group.Nat.Defs
import Mathlib.Data.List.Induction
import Mathlib.Tactic.Common

/-!
# Numbers as octets

The shortest octets of a number read back as the number, and how many they are.
-/

namespace DepositBridge.Octets

theorem toNat_lt (bytes : Octets) : toNat bytes < 256 ^ bytes.length := by
  induction bytes using List.reverseRecOn with
  | nil => simp [toNat]
  | append_singleton bytes c ih =>
    have hc := c.toNat_lt
    rw [toNat_append_singleton, List.length_append, List.length_singleton, Nat.pow_succ]
    omega

/-- In a field that it fits into, a number reads back. -/
theorem toNat_ofNatWidth_of_lt {width n : Nat} (h : n < 256 ^ width) :
    toNat (ofNatWidth width n) = n := by
  rw [toNat_ofNatWidth]
  exact Nat.mod_eq_of_lt h

/-! ## The shortest octets -/

@[simp] theorem length_ofNat (n : Nat) : (ofNat n).length = sizeOfNat n := length_ofNatWidth _ _

theorem lt_pow_sizeOfNat (n : Nat) : n < 256 ^ sizeOfNat n := by
  unfold sizeOfNat
  by_cases h : n = 0
  · simp [h]
  · have hlog : n < 2 ^ (n.log2 + 1) := Nat.lt_log2_self
    -- so many octets have room for at least as many bits as the number has
    have hsize : n.log2 + 1 ≤ 8 * (n.log2 / 8 + 1) := by omega
    have hpow : (256 : Nat) ^ (n.log2 / 8 + 1) = 2 ^ (8 * (n.log2 / 8 + 1)) :=
      Nat.pow_mul 2 8 _ ▸ rfl
    rw [if_neg h, hpow]
    exact Nat.lt_of_lt_of_le hlog (Nat.pow_le_pow_right (by decide) hsize)

@[simp] theorem toNat_ofNat (n : Nat) : toNat (ofNat n) = n :=
  toNat_ofNatWidth_of_lt (lt_pow_sizeOfNat n)

theorem sizeOfNat_le {n width : Nat} (h : n < 256 ^ width) : sizeOfNat n ≤ width := by
  unfold sizeOfNat
  by_cases hzero : n = 0
  · simp [hzero]
  · have hpow : (256 : Nat) ^ width = 2 ^ (8 * width) := Nat.pow_mul 2 8 _ ▸ rfl
    have hlog : n.log2 < 8 * width := (Nat.log2_lt hzero).mpr (hpow ▸ h)
    rw [if_neg hzero]
    omega

theorem sizeOfNat_pos {n : Nat} (h : n ≠ 0) : 0 < sizeOfNat n := by
  rw [sizeOfNat, if_neg h]
  omega

end DepositBridge.Octets
