import DepositBridge.Octets

/-!
# Hexadecimal text

Octets and numbers written in base 16. Writing uses small letters; reading takes either case.
-/

namespace DepositBridge.Hex

/-! ## Digits -/

/-- The digit of a number below sixteen. -/
def digit (n : Nat) : Char :=
  if n < 10 then Char.ofNat (48 + n) else Char.ofNat (87 + n)

/-- The number of a hexadecimal digit, in either case. -/
def value? (c : Char) : Option Nat :=
  if '0' ≤ c ∧ c ≤ '9' then some (c.toNat - 48)
  else if 'a' ≤ c ∧ c ≤ 'f' then some (c.toNat - 87)
  else if 'A' ≤ c ∧ c ≤ 'F' then some (c.toNat - 55)
  else none

/-- Whether a character is a hexadecimal digit. -/
def isDigit (c : Char) : Bool := (value? c).isSome

/-! ## Octet strings -/

/-- Two digits per octet. -/
def encodeChars : Octets → List Char
  | [] => []
  | b :: rest => digit (b.toNat / 16) :: digit (b.toNat % 16) :: encodeChars rest

/-- The text of an octet string, two small digits per octet. -/
def encode (bytes : Octets) : String := String.ofList (encodeChars bytes)

/-- The text of an octet string behind the mark `0x`. -/
def encodeMarked (bytes : Octets) : String := "0x" ++ encode bytes

/-- Reads pairs of digits and nothing else. -/
def decodePairs? : List Char → Option Octets
  | [] => some []
  | [_] => none
  | high :: low :: rest => do
    let h ← value? high
    let l ← value? low
    let bytes ← decodePairs? rest
    pure (UInt8.ofNat (16 * h + l) :: bytes)

/-- The blanks that may stand between pairs of digits. -/
def isBlank (c : Char) : Bool :=
  c = ' ' || c = '\t' || c = '\n' || c = '\x0b' || c = '\x0c' || c = '\r'

/-- Reads pairs of digits with blanks before, between and after them, but not inside a pair. -/
def decodeSpaced? : List Char → Option Octets
  | [] => some []
  | [c] => if isBlank c then some [] else none
  | c :: next :: rest =>
    if isBlank c then decodeSpaced? (next :: rest)
    else do
      let h ← value? c
      let l ← value? next
      let bytes ← decodeSpaced? rest
      pure (UInt8.ofNat (16 * h + l) :: bytes)

/-- A text without one leading `0x` or `0X`. -/
def dropMark : List Char → List Char
  | '0' :: 'x' :: rest => rest
  | '0' :: 'X' :: rest => rest
  | text => text

/-- Whether a text starts with `0x` or `0X`. -/
def isMarked : List Char → Bool
  | '0' :: 'x' :: _ => true
  | '0' :: 'X' :: _ => true
  | _ => false

/-- Reads hexadecimal text with or without a mark; an odd number of digits is read as if a zero
stood in front. -/
def decodeLoose? (text : String) : Option Octets :=
  let digits := dropMark text.toList
  decodePairs? (if digits.length % 2 = 1 then '0' :: digits else digits)

/-! ## Numbers -/

/-- The digits of a number, at least one, without leading zeros. -/
def digits (n : Nat) : List Char := Nat.toDigits 16 n

/-- The digits of a number, with leading zeros up to `width` of them. -/
def digitsPadded (width n : Nat) : List Char :=
  List.replicate (width - (digits n).length) '0' ++ digits n

/-- The number that hexadecimal digits write. -/
def number? (text : List Char) : Option Nat :=
  if text.isEmpty then none
  else text.foldlM (fun n c => (value? c).map (n * 16 + ·)) 0

/-- A number behind the mark `0x`, in the fewest digits; the sign of a negative one comes first. -/
def quantity (n : Int) : String :=
  (if n < 0 then "-0x" else "0x") ++ String.ofList (digits n.natAbs)

/-! ## Reading back -/

theorem value?_digit : ∀ n, n < 16 → value? (digit n) = some n := by decide

@[simp] theorem length_encodeChars (bytes : Octets) :
    (encodeChars bytes).length = 2 * bytes.length := by
  induction bytes with
  | nil => rfl
  | cons b rest ih => simp only [encodeChars, List.length_cons, ih]; omega

private theorem octet_of_halves (b : UInt8) :
    UInt8.ofNat (16 * (b.toNat / 16) + b.toNat % 16) = b := by
  rw [Nat.div_add_mod]
  exact UInt8.ofNat_toNat

/-- Reading pairs undoes writing them. -/
theorem decodePairs?_encodeChars (bytes : Octets) :
    decodePairs? (encodeChars bytes) = some bytes := by
  induction bytes with
  | nil => rfl
  | cons b rest ih =>
    have hb := b.toNat_lt
    simp only [encodeChars, decodePairs?, value?_digit _ (show b.toNat / 16 < 16 by omega),
      value?_digit _ (show b.toNat % 16 < 16 by omega), ih, Option.bind_eq_bind, Option.bind_some,
      octet_of_halves, Option.pure_def]

end DepositBridge.Hex
