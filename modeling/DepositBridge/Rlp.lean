import DepositBridge.Octets

/-!
# RLP

Nested lists of octet strings as octets. An item starts with its size; a single octet below 128
stands for itself. The decoder takes the one encoding of an item that the encoder writes.
-/

namespace DepositBridge.Rlp

/-- An octet string or a list of items. -/
inductive Item where
  | octets (content : Octets)
  | list (items : List Item)
  deriving Repr

/-- A number as the shortest octet string. -/
def Item.nat (n : Nat) : Item := .octets (Octets.ofNat n)

/-! ## Encoding -/

/-- The start of an item of a size; `base` tells strings from lists. -/
def header (base size : Nat) : Octets :=
  if size < 56 then [UInt8.ofNat (base + size)]
  else
    let digits := Octets.ofNat size
    UInt8.ofNat (base + 55 + digits.length) :: digits

mutual

/-- The octets of an item. -/
def encode : Item → Octets
  | .octets [b] => if b.toNat < 128 then [b] else header 128 1 ++ [b]
  | .octets content => header 128 content.length ++ content
  | .list items =>
    let content := encodeAll items
    header 192 content.length ++ content

/-- The octets of items one after another. -/
def encodeAll : List Item → Octets
  | [] => []
  | item :: rest => encode item ++ encodeAll rest

end

/-- The least size that a header cannot tell. -/
def sizeLimit : Nat := Nat.pow 256 8

mutual

/-- Whether an item can be written: headers can tell all sizes in it. -/
def isWritable : Item → Bool
  | .octets content => content.length < sizeLimit
  | .list items => allWritable items && (encodeAll items).length < sizeLimit

/-- Whether items can be written. -/
def allWritable : List Item → Bool
  | [] => true
  | item :: rest => isWritable item && allWritable rest

end

/-! ## Decoding -/

/-- The size behind the first octet of an item, in the form that `header` writes, and the rest. -/
def readSize (base : Nat) (first : UInt8) (rest : Octets) : Option (Nat × Octets) :=
  let n := first.toNat - base
  if n < 56 then some (n, rest)
  else
    let width := n - 55
    let digits := rest.take width
    let size := Octets.toNat digits
    if digits.length = width ∧ size ≥ 56 ∧ Octets.ofNat size = digits then
      some (size, rest.drop width)
    else none

/-- The content of a given size at the front of octets, and the rest. -/
def splitContent (size : Nat) (rest : Octets) : Option (Octets × Octets) :=
  if rest.length < size then none else some (rest.take size, rest.drop size)

mutual

/-- The item at the front of octets, and the rest. The first argument bounds the recursion. -/
def decodeFrom : Nat → Octets → Option (Item × Octets)
  | 0, _ => none
  | _ + 1, [] => none
  | fuel + 1, first :: rest =>
    if first.toNat < 128 then some (.octets [first], rest)
    else if first.toNat < 192 then do
      let (size, rest) ← readSize 128 first rest
      let (content, rest) ← splitContent size rest
      match content with
      | [b] => if b.toNat < 128 then none else pure (.octets content, rest)
      | _ => pure (.octets content, rest)
    else do
      let (size, rest) ← readSize 192 first rest
      let (content, rest) ← splitContent size rest
      let items ← decodeAll fuel content
      pure (.list items, rest)

/-- The items that octets hold one after another. -/
def decodeAll : Nat → Octets → Option (List Item)
  | _, [] => some []
  | 0, _ => none
  | fuel + 1, octets => do
    let (item, rest) ← decodeFrom fuel octets
    let items ← decodeAll fuel rest
    pure (item :: items)

end

/-- The item that octets hold, with nothing left over. -/
def decode? (octets : Octets) : Option Item :=
  match decodeFrom (2 * octets.length + 2) octets with
  | some (item, []) => some item
  | _ => none

end DepositBridge.Rlp
