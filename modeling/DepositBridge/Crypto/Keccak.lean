import DepositBridge.Octets

/-!
# Keccak-256

The hash of accounts, selectors and deposits: a sponge of 1088 bits over the permutation of 1600
bits, with the padding of the competition entry.

A state has five rows of five lanes of sixty-four bits. Lanes are numbers, so that a state evaluates
inside a proof as well.
-/

namespace DepositBridge.Keccak

/-- The five lanes of a row. -/
structure Row where
  a : Nat
  b : Nat
  c : Nat
  d : Nat
  e : Nat

/-- The five rows of a state. -/
structure State where
  first : Row
  second : Row
  third : Row
  fourth : Row
  fifth : Row

/-- How many values a lane can have. -/
def laneSize : Nat := 0x10000000000000000

/-- A lane turned to the left. -/
def rotate (lane count : Nat) : Nat :=
  ((lane <<< count) ||| (lane >>> (64 - count))) % laneSize

/-- Two rows lane by lane. -/
def Row.xor (r s : Row) : Row :=
  ⟨r.a ^^^ s.a, r.b ^^^ s.b, r.c ^^^ s.c, r.d ^^^ s.d, r.e ^^^ s.e⟩

/-- Two states row by row. -/
def State.xor (s t : State) : State :=
  ⟨s.first.xor t.first, s.second.xor t.second, s.third.xor t.third, s.fourth.xor t.fourth,
    s.fifth.xor t.fifth⟩

/-- The constants of the rounds. -/
def roundConstants : List Nat := [
  0x0000000000000001, 0x0000000000008082, 0x800000000000808a, 0x8000000080008000,
  0x000000000000808b, 0x0000000080000001, 0x8000000080008081, 0x8000000000008009,
  0x000000000000008a, 0x0000000000000088, 0x0000000080008009, 0x000000008000000a,
  0x000000008000808b, 0x800000000000008b, 0x8000000000008089, 0x8000000000008003,
  0x8000000000008002, 0x8000000000000080, 0x000000000000800a, 0x800000008000000a,
  0x8000000080008081, 0x8000000000008080, 0x0000000080000001, 0x8000000080008008]

/-- Mixes into each column the parities of the two columns beside it. -/
def mixColumns (s : State) : State :=
  let parities := (((s.first.xor s.second).xor s.third).xor s.fourth).xor s.fifth
  let effects : Row :=
    ⟨parities.e ^^^ rotate parities.b 1, parities.a ^^^ rotate parities.c 1,
      parities.b ^^^ rotate parities.d 1, parities.c ^^^ rotate parities.e 1,
      parities.d ^^^ rotate parities.a 1⟩
  s.xor ⟨effects, effects, effects, effects, effects⟩

/-- Moves and turns the lanes. -/
def moveLanes (s : State) : State where
  first := ⟨s.first.a, rotate s.second.b 44, rotate s.third.c 43, rotate s.fourth.d 21,
    rotate s.fifth.e 14⟩
  second := ⟨rotate s.first.d 28, rotate s.second.e 20, rotate s.third.a 3, rotate s.fourth.b 45,
    rotate s.fifth.c 61⟩
  third := ⟨rotate s.first.b 1, rotate s.second.c 6, rotate s.third.d 25, rotate s.fourth.e 8,
    rotate s.fifth.a 18⟩
  fourth := ⟨rotate s.first.e 27, rotate s.second.a 36, rotate s.third.b 10, rotate s.fourth.c 15,
    rotate s.fifth.d 56⟩
  fifth := ⟨rotate s.first.c 62, rotate s.second.d 55, rotate s.third.e 39, rotate s.fourth.a 41,
    rotate s.fifth.b 2⟩

/-- A lane combined with the two behind it in its row. -/
def combine (lane next afterNext : Nat) : Nat :=
  lane ^^^ ((next ^^^ (laneSize - 1)) &&& afterNext)

/-- Combines the lanes of a row. -/
def mixRow (r : Row) : Row :=
  ⟨combine r.a r.b r.c, combine r.b r.c r.d, combine r.c r.d r.e, combine r.d r.e r.a,
    combine r.e r.a r.b⟩

/-- Combines the lanes of each row. -/
def mixRows (s : State) : State :=
  ⟨mixRow s.first, mixRow s.second, mixRow s.third, mixRow s.fourth, mixRow s.fifth⟩

/-- Puts the constant of a round into the first lane. -/
def addConstant (constant : Nat) (s : State) : State :=
  { s with first := { s.first with a := s.first.a ^^^ constant } }

/-- One round. -/
def round (state : State) (constant : Nat) : State :=
  addConstant constant (mixRows (moveLanes (mixColumns state)))

/-- The permutation. -/
def permute (state : State) : State := roundConstants.foldl round state

/-- How many octets a block has. -/
def rate : Nat := 136

/-- A message with its padding: a one at the start, a one at the end of the last block. -/
def pad (message : Octets) : Octets :=
  let zeros := rate - 1 - message.length % rate
  if zeros = 0 then message ++ [0x81]
  else message ++ [0x01] ++ List.replicate (zeros - 1) 0 ++ [0x80]

/-- The number that eight octets write, the lowest first. -/
def laneOfOctets (octets : Octets) : Nat :=
  octets.foldr (fun b n => n * 256 + b.toNat) 0

/-- Eight octets of a lane, the lowest first. -/
def octetsOfLane (a : Nat) : Octets := (Octets.ofNatWidth 8 a).reverse

/-- The state of the seventeen lanes of a block. -/
def stateOfBlock (block : Octets) : State :=
  let lane (i : Nat) := laneOfOctets ((block.drop (8 * i)).take 8)
  ⟨⟨lane 0, lane 1, lane 2, lane 3, lane 4⟩, ⟨lane 5, lane 6, lane 7, lane 8, lane 9⟩,
    ⟨lane 10, lane 11, lane 12, lane 13, lane 14⟩, ⟨lane 15, lane 16, 0, 0, 0⟩, ⟨0, 0, 0, 0, 0⟩⟩

/-- Takes a block into the state. -/
def absorb (state : State) (block : Octets) : State :=
  permute (state.xor (stateOfBlock block))

/-- The state in which all lanes are zero. -/
def State.zero : State :=
  ⟨⟨0, 0, 0, 0, 0⟩, ⟨0, 0, 0, 0, 0⟩, ⟨0, 0, 0, 0, 0⟩, ⟨0, 0, 0, 0, 0⟩, ⟨0, 0, 0, 0, 0⟩⟩

/-- Takes `count` blocks into the state. -/
def absorbAll : Nat → State → Octets → State
  | 0, state, _ => state
  | count + 1, state, message =>
    absorbAll count (absorb state (message.take rate)) (message.drop rate)

/-- The thirty-two octets of the hash of a message. -/
def hash (message : Octets) : Octets :=
  let padded := pad message
  let row := (absorbAll (padded.length / rate) .zero padded).first
  octetsOfLane row.a ++ octetsOfLane row.b ++ octetsOfLane row.c ++ octetsOfLane row.d

@[simp] theorem length_octetsOfLane (a : Nat) : (octetsOfLane a).length = 8 := by
  simp [octetsOfLane]

@[simp] theorem length_hash (message : Octets) : (hash message).length = 32 := by
  simp [hash]

end DepositBridge.Keccak
