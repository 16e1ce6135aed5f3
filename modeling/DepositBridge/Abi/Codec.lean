import DepositBridge.Abi.Type
import DepositBridge.Text.Utf8

/-!
# Encoding of calls and answers

Data as words of thirty-two octets. Data whose size varies stand behind all others, and an offset
stands in their place. The decoder checks that padding is zero, follows offsets, and leaves what
comes behind the last word it needs.
-/

namespace DepositBridge.Abi

/-! ## Encoding -/

/-- A number as a word, negative ones as their complement. -/
def word (n : Int) : Octets := Octets.ofNatWidth 32 (n % Nat.pow 2 256).toNat

/-- Octets filled up to whole words. -/
def padToWords (content : Octets) : Octets :=
  Octets.padRight ((content.length + 31) / 32 * 32) content

/-- A part of an encoding: what stands in its place, or what stands behind all places. -/
inductive Part where
  | inPlace (content : Octets)
  | behind (content : Octets)

/-- How many octets the places of parts take. -/
def placesSize : List Part → Nat
  | [] => 0
  | .inPlace content :: rest => content.length + placesSize rest
  | .behind _ :: rest => 32 + placesSize rest

/-- The places of parts; `offset` is where the next part behind them starts. -/
def places (offset : Nat) : List Part → Octets
  | [] => []
  | .inPlace content :: rest => content ++ places offset rest
  | .behind content :: rest => word offset ++ places (offset + content.length) rest

/-- What stands behind the places. -/
def tails : List Part → Octets
  | [] => []
  | .inPlace _ :: rest => tails rest
  | .behind content :: rest => content ++ tails rest

/-- Parts with their places in front. -/
def assemble (parts : List Part) : Octets :=
  places (placesSize parts) parts ++ tails parts

mutual

/-- The octets of data of a type; nothing for data of another type. -/
def encode : Ty → Datum → Octets
  | .uint _, .number n => word n
  | .int _, .number n => word n
  | .bool, .flag b => word (if b then 1 else 0)
  | .address, .address a => Octets.padLeft 32 a.octets
  | .fixedBytes _, .octets content => Octets.padRight 32 content
  | .bytes, .octets content => word content.length ++ padToWords content
  | .string, .text s =>
    let content := Text.encodeUtf8 s
    word content.length ++ padToWords content
  | .array item, .list data => word data.length ++ assemble (itemParts item data)
  | .fixedArray item _, .list data => assemble (itemParts item data)
  | .tuple items, .list data => assemble (parts items data)
  | _, _ => []

/-- The parts of data that are all of one type. -/
def itemParts (item : Ty) : List Datum → List Part
  | [] => []
  | d :: rest =>
    (if item.isDynamic then .behind (encode item d) else .inPlace (encode item d)) ::
      itemParts item rest

/-- The parts of data that are of types one by one. -/
def parts : List Ty → List Datum → List Part
  | t :: types, d :: rest =>
    (if t.isDynamic then .behind (encode t d) else .inPlace (encode t d)) :: parts types rest
  | _, _ => []

end

/-- The octets of the arguments of a call. -/
def encodeAll (types : List Ty) (data : List Datum) : Octets := assemble (parts types data)

/-- The least size that a word cannot tell. -/
def sizeLimit : Nat := Nat.pow 2 256

/-- Whether arguments can be encoded: words can tell all offsets and lengths in their octets. -/
def isEncodable (types : List Ty) (data : List Datum) : Bool :=
  (encodeAll types data).length < sizeLimit

/-! ## Decoding -/

/-- The word at a place. -/
def wordAt? (octets : Octets) (place : Nat) : Option Octets :=
  let found := (octets.drop place).take 32
  if found.length = 32 then some found else none

/-- The number of the word at a place. -/
def numberAt? (octets : Octets) (place : Nat) : Option Nat :=
  (wordAt? octets place).map Octets.toNat

/-- Octets of a size at a place, with their padding to whole words. -/
def contentAt? (octets : Octets) (place size : Nat) : Option Octets :=
  let found := (octets.drop place).take ((size + 31) / 32 * 32)
  if found.length = (size + 31) / 32 * 32 ∧ (found.drop size).all (· = 0) then
    some (found.take size)
  else none

/-- Octets behind their length at a place. -/
def sizedAt? (octets : Octets) (place : Nat) : Option Octets :=
  (numberAt? octets place).bind fun size =>
    if size > octets.length then none else contentAt? octets (place + 32) size

mutual

/-- The data of a type at a place; offsets count from `start`. The first argument bounds the depth
of the type. -/
def decodeAt : Nat → Ty → Octets → (start place : Nat) → Option Datum
  | 0, _, _, _, _ => none
  | depth + 1, t, octets, start, place =>
    if t.isDynamic then
      (numberAt? octets place).bind fun offset =>
        if offset > octets.length then none
        else decodeBody depth t octets (start + offset)
    else decodeBody depth t octets place

/-- The data of a type whose octets start at a place. -/
def decodeBody : Nat → Ty → Octets → (place : Nat) → Option Datum
  | 0, _, _, _ => none
  | depth + 1, t, octets, place =>
    match t with
    | .uint bits => do
      let n ← numberAt? octets place
      if n < Nat.pow 2 bits then pure (.number n) else none
    | .int bits => do
      let n ← numberAt? octets place
      let n : Int := if n < Nat.pow 2 255 then n else n - Nat.pow 2 256
      if -(Nat.pow 2 (bits - 1) : Int) ≤ n ∧ n < Nat.pow 2 (bits - 1) then pure (.number n)
      else none
    | .bool => do
      match ← numberAt? octets place with
      | 0 => pure (.flag false)
      | 1 => pure (.flag true)
      | _ => none
    | .address => do
      let found ← wordAt? octets place
      if (found.take 12).all (· = 0) then (Address.ofOctets? (found.drop 12)).map .address else none
    | .fixedBytes size => do
      let found ← wordAt? octets place
      if (found.drop size).all (· = 0) then pure (.octets (found.take size)) else none
    | .bytes => (sizedAt? octets place).map .octets
    | .string => do
      let content ← sizedAt? octets place
      match Text.decodeUtf8 content with
      | .ok s => pure (.text s)
      | .error _ => none
    | .array item => do
      let count ← numberAt? octets place
      if count > octets.length then none
      else (decodeItems depth item octets (place + 32) (place + 32) count).map .list
    | .fixedArray item size => (decodeItems depth item octets place place size).map .list
    | .tuple items => (decodeList depth items octets place place).map .list

/-- Data of one type, `count` times. -/
def decodeItems : Nat → Ty → Octets → (start place count : Nat) → Option (List Datum)
  | _, _, _, _, _, 0 => some []
  | 0, _, _, _, _, _ => none
  | depth + 1, t, octets, start, place, count + 1 => do
    let datum ← decodeAt depth t octets start place
    let data ← decodeItems depth t octets start (place + t.headSize) count
    pure (datum :: data)

/-- Data of types one by one. -/
def decodeList : Nat → List Ty → Octets → (start place : Nat) → Option (List Datum)
  | _, [], _, _, _ => some []
  | 0, _, _, _, _ => none
  | depth + 1, t :: types, octets, start, place => do
    let datum ← decodeAt depth t octets start place
    let data ← decodeList depth types octets start (place + t.headSize)
    pure (datum :: data)

end

/-- The data of types that octets hold. -/
def decodeAll? (types : List Ty) (octets : Octets) : Option (List Datum) :=
  decodeList (2 * octets.length + 100) types octets 0 0

end DepositBridge.Abi
