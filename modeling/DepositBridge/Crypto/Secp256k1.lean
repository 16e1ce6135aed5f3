import DepositBridge.Crypto.Sha256

/-!
# Signatures on secp256k1

The curve `y ^ 2 = x ^ 3 + 7` over a prime field, its multiples of a base point, and signatures
whose nonce is drawn from the key and the message. A signature's `s` is the lower of the two that
verify.
-/

namespace DepositBridge.Secp256k1

/-! ## The field -/

/-- The size of the field. -/
def fieldSize : Nat := Nat.pow 2 256 - Nat.pow 2 32 - 977

/-- The number of multiples of the base point. -/
def order : Nat := 0xfffffffffffffffffffffffffffffffebaaedce6af48a03bbfd25e8cd0364141

/-- A power modulo a number; the first argument is the number of bits of the exponent that count. -/
def powMod (modulus : Nat) : Nat → Nat → Nat → Nat
  | 0, _, _ => 1 % modulus
  | bits + 1, base, exponent =>
    let root := powMod modulus bits (base * base % modulus) (exponent / 2)
    if exponent % 2 = 1 then root * base % modulus else root

/-- The inverse modulo a prime of at most 256 bits; zero for zero. -/
def invert (modulus a : Nat) : Nat := powMod modulus 256 a (modulus - 2)

/-! ## Points -/

/-- A point `(x / z ^ 2, y / z ^ 3)` of the curve; the neutral one has `z = 0`. -/
structure Point where
  x : Nat
  y : Nat
  z : Nat
  deriving DecidableEq, Repr

/-- The neutral point. -/
def neutral : Point := ⟨1, 1, 0⟩

/-- The base point. -/
def base : Point :=
  ⟨0x79be667ef9dcbbac55a06295ce870b07029bfcdb2dce28d959f2815b16f81798,
    0x483ada7726a3c4655da4fbfc0e1108a8fd17b448a68554199c47d08ffb10d4b8, 1⟩

private def sub (a b : Nat) : Nat := (a + (fieldSize - b % fieldSize)) % fieldSize

private def mul (a b : Nat) : Nat := a * b % fieldSize

/-- Twice a point. -/
def double (p : Point) : Point :=
  if p.z = 0 ∨ p.y = 0 then neutral
  else
    let yy := mul p.y p.y
    let s := mul 4 (mul p.x yy)
    let m := mul 3 (mul p.x p.x)
    let x := sub (mul m m) (2 * s)
    let y := sub (mul m (sub s x)) (mul 8 (mul yy yy))
    ⟨x, y, mul 2 (mul p.y p.z)⟩

/-- The sum of two points. -/
def add (p q : Point) : Point :=
  if p.z = 0 then q
  else if q.z = 0 then p
  else
    let pzz := mul p.z p.z
    let qzz := mul q.z q.z
    let u1 := mul p.x qzz
    let u2 := mul q.x pzz
    let s1 := mul p.y (mul q.z qzz)
    let s2 := mul q.y (mul p.z pzz)
    if u1 = u2 then
      if s1 = s2 then double p else neutral
    else
      let h := sub u2 u1
      let r := sub s2 s1
      let hh := mul h h
      let hhh := mul h hh
      let v := mul u1 hh
      let x := sub (sub (mul r r) hhh) (2 * v)
      let y := sub (mul r (sub v x)) (mul s1 hhh)
      ⟨x, y, mul h (mul p.z q.z)⟩

/-- A multiple of a point; the first argument is the number of bits of the factor that count. -/
def scale : Nat → Nat → Point → Point
  | 0, _, _ => neutral
  | bits + 1, factor, p =>
    let rest := scale bits (factor / 2) (double p)
    if factor % 2 = 1 then add rest p else rest

/-- The coordinates of a point other than the neutral one. -/
def coordinates (p : Point) : Nat × Nat :=
  let inverse := invert fieldSize p.z
  let square := mul inverse inverse
  (mul p.x square, mul p.y (mul square inverse))

/-- The coordinates of a multiple of the base point. -/
def multiple (factor : Nat) : Nat × Nat := coordinates (scale 256 factor base)

/-- Whether a number is a key. -/
def isKey (key : Nat) : Bool := 0 < key && key < order

/-- The public key of a key: the coordinates of its multiple, thirty-two octets each. -/
def publicKey (key : Nat) : Octets :=
  let (x, y) := multiple key
  Octets.ofNatWidth 32 x ++ Octets.ofNatWidth 32 y

/-! ## Signatures -/

/-- The state of the generator of nonces: a key and a value. -/
structure Drbg where
  key : Octets
  value : Octets

/-- Mixes data into a generator. -/
def Drbg.mix (g : Drbg) (mark : UInt8) (data : Octets) : Drbg :=
  let key := Sha256.keyedHash g.key (g.value ++ mark :: data)
  ⟨key, Sha256.keyedHash key g.value⟩

/-- The generator for a key and the hash of a message. -/
def Drbg.start (key : Nat) (digest : Octets) : Drbg :=
  let seed := Octets.ofNatWidth 32 key ++ Octets.ofNatWidth 32 (Octets.toNat digest % order)
  let g : Drbg := ⟨List.replicate 32 0, List.replicate 32 1⟩
  (g.mix 0 seed).mix 1 seed

/-- A signature: its two numbers, and which of the points with the first number was used. -/
structure Signature where
  r : Nat
  s : Nat
  recovery : Nat
  deriving DecidableEq, Repr

/-- The signature with a given nonce, unless one of its numbers is zero. -/
def signWith (key digest nonce : Nat) : Option Signature :=
  if !isKey nonce then none
  else
    let (x, y) := multiple nonce
    let r := x % order
    let s := invert order nonce * (digest + r * key) % order
    if r = 0 ∨ s = 0 then none
    else
      let recovery := (if x ≥ order then 2 else 0) + y % 2
      if s > order / 2 then some ⟨r, order - s, recovery ^^^ 1⟩ else some ⟨r, s, recovery⟩

/-- Draws nonces until one of them gives a signature, at most as often as the first argument
says. -/
def Drbg.sign : Nat → Nat → Nat → Drbg → Option Signature
  | 0, _, _, _ => none
  | attempts + 1, key, digest, g =>
    let value := Sha256.keyedHash g.key g.value
    match signWith key digest (Octets.toNat value) with
    | some signature => some signature
    | none => Drbg.sign attempts key digest (Drbg.mix ⟨g.key, value⟩ 0 [])

/-- Signs the hash of a message. That all of the first hundred nonces fail has no known example. -/
def sign (key : Nat) (digest : Octets) : Option Signature :=
  (Drbg.start key digest).sign 100 key (Octets.toNat digest % order)

end DepositBridge.Secp256k1
