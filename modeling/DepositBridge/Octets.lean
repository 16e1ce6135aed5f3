/-!
# Octets

Octet strings and the numbers they write in base 256, most significant octet first.
-/

namespace DepositBridge

/-- A string of octets. -/
abbrev Octets := List UInt8

namespace Octets

/-- The number an octet string writes in base 256, most significant octet first. -/
def toNat (bytes : Octets) : Nat :=
  bytes.foldl (fun n b => n * 256 + b.toNat) 0

/-- The `width` low-order octets of a number, most significant first. -/
def ofNatWidth : Nat → Nat → Octets
  | 0, _ => []
  | width + 1, n => ofNatWidth width (n / 256) ++ [UInt8.ofNat (n % 256)]

/-- How many octets a number needs: none for zero. -/
def sizeOfNat (n : Nat) : Nat :=
  if n = 0 then 0 else n.log2 / 8 + 1

/-- The shortest octet string that writes a number: the empty string for zero. -/
def ofNat (n : Nat) : Octets :=
  ofNatWidth (sizeOfNat n) n

/-- An octet string filled up with zeros on the left, to at least `width` octets. -/
def padLeft (width : Nat) (bytes : Octets) : Octets :=
  List.replicate (width - bytes.length) 0 ++ bytes

/-- An octet string filled up with zeros on the right, to at least `width` octets. -/
def padRight (width : Nat) (bytes : Octets) : Octets :=
  bytes ++ List.replicate (width - bytes.length) 0

@[simp] theorem length_ofNatWidth (width n : Nat) : (ofNatWidth width n).length = width := by
  induction width generalizing n with
  | zero => rfl
  | succ width ih => simp [ofNatWidth, ih]

theorem toNat_append_singleton (bytes : Octets) (b : UInt8) :
    toNat (bytes ++ [b]) = toNat bytes * 256 + b.toNat := by
  simp [toNat, List.foldl_append]

/-- Fixed-width writing keeps a number modulo the numbers that fit. -/
theorem toNat_ofNatWidth (width n : Nat) : toNat (ofNatWidth width n) = n % Nat.pow 256 width := by
  induction width generalizing n with
  | zero => simp [ofNatWidth, toNat, Nat.mod_one]
  | succ width ih =>
    have hb : (UInt8.ofNat (n % 256)).toNat = n % 256 := by
      simp [UInt8.toNat_ofNat']
    have hpow : Nat.pow 256 (width + 1) = 256 * Nat.pow 256 width := Nat.mul_comm _ _
    rw [ofNatWidth, toNat_append_singleton, ih, hb, hpow, Nat.mod_mul, Nat.add_comm, Nat.mul_comm]

end Octets

end DepositBridge
