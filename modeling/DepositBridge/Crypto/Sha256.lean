import DepositBridge.Octets

/-!
# SHA-256

The hash from which signatures draw their nonces, and its keyed form. Words are numbers below
`2 ^ 32`.
-/

namespace DepositBridge.Sha256

/-- The constants of the sixty-four steps. -/
def stepConstants : List Nat := [
  0x428a2f98, 0x71374491, 0xb5c0fbcf, 0xe9b5dba5, 0x3956c25b, 0x59f111f1, 0x923f82a4, 0xab1c5ed5,
  0xd807aa98, 0x12835b01, 0x243185be, 0x550c7dc3, 0x72be5d74, 0x80deb1fe, 0x9bdc06a7, 0xc19bf174,
  0xe49b69c1, 0xefbe4786, 0x0fc19dc6, 0x240ca1cc, 0x2de92c6f, 0x4a7484aa, 0x5cb0a9dc, 0x76f988da,
  0x983e5152, 0xa831c66d, 0xb00327c8, 0xbf597fc7, 0xc6e00bf3, 0xd5a79147, 0x06ca6351, 0x14292967,
  0x27b70a85, 0x2e1b2138, 0x4d2c6dfc, 0x53380d13, 0x650a7354, 0x766a0abb, 0x81c2c92e, 0x92722c85,
  0xa2bfe8a1, 0xa81a664b, 0xc24b8b70, 0xc76c51a3, 0xd192e819, 0xd6990624, 0xf40e3585, 0x106aa070,
  0x19a4c116, 0x1e376c08, 0x2748774c, 0x34b0bcb5, 0x391c0cb3, 0x4ed8aa4a, 0x5b9cca4f, 0x682e6ff3,
  0x748f82ee, 0x78a5636f, 0x84c87814, 0x8cc70208, 0x90befffa, 0xa4506ceb, 0xbef9a3f7, 0xc67178f2]

/-- The eight words that a hash starts from. -/
def initial : List Nat := [
  0x6a09e667, 0xbb67ae85, 0x3c6ef372, 0xa54ff53a, 0x510e527f, 0x9b05688c, 0x1f83d9ab, 0x5be0cd19]

/-- How many words there are. -/
def wordSize : Nat := 0x100000000

/-- A word turned to the right. -/
def rotate (word count : Nat) : Nat :=
  ((word >>> count) ||| (word <<< (32 - count))) % wordSize

/-- The next word of the schedule; the list holds the words before it, the last one first. -/
def nextWord (words : List Nat) : Nat :=
  let near := words.getD 1 0
  let far := words.getD 14 0
  let a := rotate near 17 ^^^ rotate near 19 ^^^ (near >>> 10)
  let b := rotate far 7 ^^^ rotate far 18 ^^^ (far >>> 3)
  (a + words.getD 6 0 + b + words.getD 15 0) % wordSize

/-- Adds `count` words to a schedule in reverse order. -/
def extend : Nat → List Nat → List Nat
  | 0, words => words
  | count + 1, words => extend count (nextWord words :: words)

/-- The sixty-four words of a block. -/
def schedule (block : Octets) : List Nat :=
  let words := (List.range 16).map fun i => Octets.toNat ((block.drop (4 * i)).take 4)
  (extend 48 words.reverse).reverse

/-- One step on the eight words of a state. -/
def step (state : List Nat) (input : Nat × Nat) : List Nat :=
  match state with
  | [a, b, c, d, e, f, g, h] =>
    let (constant, word) := input
    let s1 := rotate e 6 ^^^ rotate e 11 ^^^ rotate e 25
    let choice := (e &&& f) ^^^ ((e ^^^ (wordSize - 1)) &&& g)
    let t1 := h + s1 + choice + constant + word
    let s0 := rotate a 2 ^^^ rotate a 13 ^^^ rotate a 22
    let majority := (a &&& b) ^^^ (a &&& c) ^^^ (b &&& c)
    [(t1 + s0 + majority) % wordSize, a, b, c, (d + t1) % wordSize, e, f, g]
  | _ => state

/-- Takes a block of sixty-four octets into the state. -/
def compress (state : List Nat) (block : Octets) : List Nat :=
  let mixed := (stepConstants.zip (schedule block)).foldl step state
  (state.zip mixed).map fun (a, b) => (a + b) % wordSize

/-- A message with its padding: a one, zeros, and its length in bits. -/
def pad (message : Octets) : Octets :=
  let zeros := (119 - message.length % 64) % 64
  message ++ [0x80] ++ List.replicate zeros 0 ++ Octets.ofNatWidth 8 (8 * message.length)

/-- Takes `count` blocks into the state. -/
def compressAll : Nat → List Nat → Octets → List Nat
  | 0, state, _ => state
  | count + 1, state, message =>
    compressAll count (compress state (message.take 64)) (message.drop 64)

/-- The thirty-two octets of the hash of a message. -/
def hash (message : Octets) : Octets :=
  let padded := pad message
  (compressAll (padded.length / 64) initial padded).flatMap (Octets.ofNatWidth 4)

/-- The hash of a message under a key. -/
def keyedHash (key message : Octets) : Octets :=
  let key := Octets.padRight 64 (if key.length > 64 then hash key else key)
  let inner := hash (key.map (· ^^^ 0x36) ++ message)
  hash (key.map (· ^^^ 0x5c) ++ inner)

end DepositBridge.Sha256
