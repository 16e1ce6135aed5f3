import DepositBridge.Octets

/-!
# UTF-8

Reading octets as text. A reader either gets the whole text or learns which octets are wrong and
why.
-/

namespace DepositBridge.Text

/-- What is wrong with an ill-formed octet sequence. -/
inductive Utf8Cause where
  /-- No character starts with this octet. -/
  | start
  /-- The octet after a proper start does not continue it. -/
  | continuation
  /-- The text ends inside a character. -/
  | truncated
  deriving DecidableEq, Repr

/-- The first ill-formed sequence of an octet string. -/
structure Utf8Fault where
  cause : Utf8Cause
  /-- Where the sequence starts. -/
  position : Nat
  /-- The octets of the sequence, at least one. -/
  octets : Octets
  deriving DecidableEq, Repr

/-- The wording of a cause. -/
def Utf8Cause.message : Utf8Cause → String
  | .start => "invalid start byte"
  | .continuation => "invalid continuation byte"
  | .truncated => "unexpected end of data"

private def hexOctet (b : UInt8) : String :=
  String.ofList ((Nat.toDigits 16 (b.toNat / 16)) ++ Nat.toDigits 16 (b.toNat % 16))

/-- The wording of a fault: one octet is shown, of several the positions are given. -/
def Utf8Fault.message (fault : Utf8Fault) : String :=
  match fault.octets with
  | [b] => s!"'utf-8' codec can't decode byte 0x{hexOctet b} in position {fault.position}: " ++
      fault.cause.message
  | octets =>
    s!"'utf-8' codec can't decode bytes in position {fault.position}-" ++
      s!"{fault.position + octets.length - 1}: " ++ fault.cause.message

/-- Whether an octet continues a character. -/
def isContinuation (b : UInt8) : Bool := 0x80 ≤ b.toNat && b.toNat < 0xc0

/-- Whether `second` may follow the start octet `first` of a character of three or four octets:
forms longer than needed, surrogates and values above the last code point are left out. -/
def isSecond (first second : UInt8) : Bool :=
  isContinuation second &&
    (if first = 0xe0 then 0xa0 ≤ second.toNat
     else if first = 0xed then second.toNat < 0xa0
     else if first = 0xf0 then 0x90 ≤ second.toNat
     else if first = 0xf4 then second.toNat < 0x90
     else true)

/-- The character that starts an octet string, or what is wrong with it and how many octets the
ill-formed sequence has. The count of a character is the number of its octets. -/
def decodeChar (first : UInt8) (rest : Octets) : Except (Utf8Cause × Nat) (Char × Nat) :=
  let low (b : UInt8) : Nat := b.toNat % 64
  let f := first.toNat
  if f < 0x80 then .ok (Char.ofNat f, 1)
  else if f < 0xc2 then .error (.start, 1)
  else if f < 0xe0 then
    match rest with
    | [] => .error (.truncated, 1)
    | b :: _ =>
      if isContinuation b then .ok (Char.ofNat (f % 32 * 64 + low b), 2)
      else .error (.continuation, 1)
  else if f < 0xf0 then
    match rest with
    | [] => .error (.truncated, 1)
    | [b] => if isSecond first b then .error (.truncated, 2) else .error (.continuation, 1)
    | b :: c :: _ =>
      if !isSecond first b then .error (.continuation, 1)
      else if !isContinuation c then .error (.continuation, 2)
      else .ok (Char.ofNat ((f % 16 * 64 + low b) * 64 + low c), 3)
  else if f < 0xf5 then
    match rest with
    | [] => .error (.truncated, 1)
    | [b] => if isSecond first b then .error (.truncated, 2) else .error (.continuation, 1)
    | [b, c] =>
      if !isSecond first b then .error (.continuation, 1)
      else if !isContinuation c then .error (.continuation, 2)
      else .error (.truncated, 3)
    | b :: c :: d :: _ =>
      if !isSecond first b then .error (.continuation, 1)
      else if !isContinuation c then .error (.continuation, 2)
      else if !isContinuation d then .error (.continuation, 3)
      else .ok (Char.ofNat (((f % 8 * 64 + low b) * 64 + low c) * 64 + low d), 4)
  else .error (.start, 1)

/-- Reads on from a position. `skip` counts the octets that belong to a character already read. -/
def decodeUtf8From (position skip : Nat) : Octets → Except Utf8Fault (List Char)
  | [] => .ok []
  | b :: rest =>
    match skip with
    | skip + 1 => decodeUtf8From (position + 1) skip rest
    | 0 =>
      match decodeChar b rest with
      | .error (cause, count) => .error ⟨cause, position, (b :: rest).take count⟩
      | .ok (c, count) => (decodeUtf8From (position + 1) (count - 1) rest).map (c :: ·)

/-- The text that octets write. -/
def decodeUtf8 (bytes : Octets) : Except Utf8Fault String :=
  (decodeUtf8From 0 0 bytes).map String.ofList

/-- The octets of one character. -/
def encodeChar (c : Char) : Octets :=
  let n := c.toNat
  let tail (n : Nat) : UInt8 := UInt8.ofNat (0x80 + n % 64)
  if n < 0x80 then [UInt8.ofNat n]
  else if n < 0x800 then [UInt8.ofNat (0xc0 + n / 64), tail n]
  else if n < 0x10000 then [UInt8.ofNat (0xe0 + n / 4096), tail (n / 64), tail n]
  else [UInt8.ofNat (0xf0 + n / 262144), tail (n / 4096), tail (n / 64), tail n]

/-- The octets of a text. -/
def encodeUtf8 (text : String) : Octets := text.toList.flatMap encodeChar

end DepositBridge.Text
