import DepositBridge.Address
import Mathlib.Tactic.Common

/-!
# Reading addresses back

The text of an address, whose letters carry a checksum in their case, reads back as the address.
-/

namespace DepositBridge

/-- The case of a digit does not change its number. -/
theorem Hex.value?_cased {n : Nat} (h : n < 16) (x : Nat) :
    value? (if x ≥ 8 then (digit n).toUpper else digit n) = some n := by
  have hupper : ∀ n, n < 16 → value? (digit n).toUpper = some n := by decide
  split
  · exact hupper n h
  · exact value?_digit n h

namespace Address

@[simp] theorem length_nibbles (bytes : Octets) : (nibbles bytes).length = 2 * bytes.length := by
  induction bytes with
  | nil => rfl
  | cons b rest ih =>
    simp only [nibbles, List.length_cons, ih]
    omega

/-- Digits read back, whatever the case of their letters is. -/
theorem decodePairs?_applyCase (bytes : Octets) (hash : List Nat)
    (h : 2 * bytes.length ≤ hash.length) :
    Hex.decodePairs? (applyCase (Hex.encodeChars bytes) hash) = some bytes := by
  induction bytes generalizing hash with
  | nil => rfl
  | cons b rest ih =>
    -- an octet has two digits, whose cases are told by two halves of the hash
    obtain ⟨x, y, hash, rfl⟩ : ∃ x y more, hash = x :: y :: more := by
      match hash, h with
      | x :: y :: more, _ => exact ⟨x, y, more, rfl⟩
    have hb := b.toNat_lt
    have hrest := ih hash (by simp only [List.length_cons] at h; omega)
    have hoctet : UInt8.ofNat (16 * (b.toNat / 16) + b.toNat % 16) = b := by
      rw [Nat.div_add_mod, UInt8.ofNat_toNat]
    simp only [applyCase] at hrest
    simp only [applyCase, Hex.encodeChars, List.zipWith_cons_cons, Hex.decodePairs?,
      Hex.value?_cased (show b.toNat / 16 < 16 by omega),
      Hex.value?_cased (show b.toNat % 16 < 16 by omega), hrest, Option.bind_eq_bind,
      Option.bind_some, hoctet, Option.pure_def]

/-- The text of an address reads back as the address. -/
@[simp] theorem ofText?_text (address : Address) : ofText? address.text = some address := by
  have hdigits : Hex.decodePairs? address.digits = some address.octets :=
    decodePairs?_applyCase _ _ (by simp [address.length_eq])
  have hmark : Hex.dropMark address.text.toList = address.digits := by
    rw [text, String.toList_ofList]
    rfl
  rw [ofText?, hmark, hdigits, Option.bind_some, ofOctets?, dif_pos address.length_eq]

end Address

end DepositBridge
