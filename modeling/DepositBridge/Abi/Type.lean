import DepositBridge.Address
import DepositBridge.Value

/-!
# Types of a contract's interface

The types that calls and answers are made of, their names, and the data of each type.
-/

namespace DepositBridge.Abi

/-- A type of an interface. -/
inductive Ty where
  | uint (bits : Nat)
  | int (bits : Nat)
  | bool
  | address
  | fixedBytes (size : Nat)
  | bytes
  | string
  | array (item : Ty)
  | fixedArray (item : Ty) (size : Nat)
  | tuple (items : List Ty)
  deriving Inhabited, Repr

/-- A piece of data. Which ones belong to a type is told by `Ty.ofValue?` and `decode`. -/
inductive Datum where
  | number (n : Int)
  | flag (b : Bool)
  | address (a : Address)
  | octets (content : Octets)
  | text (s : String)
  | list (items : List Datum)
  deriving Inhabited

namespace Ty

/-! ## Names -/

mutual

/-- The name of a type in a signature. -/
def name : Ty → String
  | uint bits => s!"uint{bits}"
  | int bits => s!"int{bits}"
  | bool => "bool"
  | address => "address"
  | fixedBytes size => s!"bytes{size}"
  | bytes => "bytes"
  | string => "string"
  | array item => item.name ++ "[]"
  | fixedArray item size => item.name ++ s!"[{size}]"
  | tuple items => "(" ++ String.intercalate "," (names items) ++ ")"

/-- The names of types. -/
def names : List Ty → List String
  | [] => []
  | t :: rest => t.name :: names rest

end

/-- The number of an optional numeral. -/
private def number? (default_ : Nat) (digits : List Char) : Option Nat :=
  if digits.isEmpty then some default_
  else if digits.all Char.isDigit then some (digits.foldl (fun n c => n * 10 + (c.toNat - 48)) 0)
  else none

/-- The type of a name without brackets. -/
def ofBaseName? (name : List Char) (components : List Ty) : Option Ty :=
  let stem := name.takeWhile fun c => !c.isDigit
  let digits := name.drop stem.length
  match String.ofList stem with
  | "uint" => (number? 256 digits).map uint
  | "int" => (number? 256 digits).map int
  | "bool" => if digits.isEmpty then some bool else none
  | "address" => if digits.isEmpty then some address else none
  | "bytes" => if digits.isEmpty then some bytes else (number? 0 digits).map fixedBytes
  | "string" => if digits.isEmpty then some string else none
  | "tuple" => if digits.isEmpty then some (tuple components) else none
  | _ => none

/-- The type with brackets behind it; the first argument bounds their number. -/
def wrap (t : Ty) : Nat → List Char → Option Ty
  | _, [] => some t
  | 0, _ => none
  | fuel + 1, '[' :: rest =>
    let digits := rest.takeWhile (· ≠ ']')
    match rest.dropWhile (· ≠ ']') with
    | _ :: behind =>
      if digits.isEmpty then wrap (array t) fuel behind
      else (number? 0 digits).bind fun size => wrap (fixedArray t size) fuel behind
    | [] => none
  | _, _ => none

/-- The type of a name; `components` are the types of a tuple's items. -/
def ofName? (name : String) (components : List Ty) : Option Ty := do
  let chars := name.toList
  let base ← ofBaseName? (chars.takeWhile (· ≠ '[')) components
  wrap base chars.length (chars.dropWhile (· ≠ '['))

/-- The type of a parameter of an interface; the first argument bounds the depth of tuples. -/
def ofParameter? : Nat → Value → Option Ty
  | 0, _ => none
  | depth + 1, parameter => do
    let components := match parameter.get? "components" with
      | some (.list components) => components
      | _ => []
    let types ← components.mapM (ofParameter? depth)
    match parameter.get? "type" with
    | some (.text name) => ofName? name types
    | _ => none

/-! ## Sizes -/

mutual

/-- Whether data of a type stand in the place of an offset. -/
def isDynamic : Ty → Bool
  | bytes => true
  | string => true
  | array _ => true
  | fixedArray item _ => item.isDynamic
  | tuple items => anyDynamic items
  | _ => false

/-- Whether data of one of the types stand in the place of an offset. -/
def anyDynamic : List Ty → Bool
  | [] => false
  | t :: rest => t.isDynamic || anyDynamic rest

end

mutual

/-- How many octets data of a type take where they are used. -/
def headSize : Ty → Nat
  | fixedArray item size => if item.isDynamic then 32 else size * item.headSize
  | tuple items => if anyDynamic items then 32 else headSizes items
  | _ => 32

/-- How many octets data of types take where they are used. -/
def headSizes : List Ty → Nat
  | [] => 0
  | t :: rest => t.headSize + headSizes rest

end

/-! ## Data from values -/

/-- Octets, or their hexadecimal text behind a mark with a small letter. -/
def octetsOf? : Value → Option Octets
  | .bytes octets => some octets
  | .text s =>
    match s.toList with
    | '0' :: 'x' :: digits => Hex.decodePairs? digits
    | _ => none
  | _ => none

mutual

/-- The data of a type that a value gives; none when the value does not fit. -/
def ofValue? : Ty → Value → Option Datum
  | uint bits, .int n => if 0 ≤ n ∧ n < Nat.pow 2 bits then some (.number n) else none
  | int bits, .int n =>
    if -(Nat.pow 2 (bits - 1) : Int) ≤ n ∧ n < Nat.pow 2 (bits - 1) then some (.number n) else none
  | bool, .bool b => some (.flag b)
  | address, .text s => (Address.ofText? s).map .address
  | address, .bytes octets => (Address.ofOctets? octets).map .address
  | fixedBytes size, v =>
    (octetsOf? v).bind fun octets => if octets.length = size then some (.octets octets) else none
  | bytes, v => (octetsOf? v).map .octets
  | string, .text s => some (.text s)
  | array item, .list values => (itemsOf? item values).map .list
  | fixedArray item size, .list values =>
    if values.length = size then (itemsOf? item values).map .list else none
  | tuple items, .list values => (allOf? items values).map .list
  | _, _ => none

/-- The data of a type that each of the values gives. -/
def itemsOf? (item : Ty) : List Value → Option (List Datum)
  | [] => some []
  | v :: rest => do
    let datum ← ofValue? item v
    let data ← itemsOf? item rest
    pure (datum :: data)

/-- The data that values give for types one by one. -/
def allOf? : List Ty → List Value → Option (List Datum)
  | [], [] => some []
  | t :: types, v :: rest => do
    let datum ← ofValue? t v
    let data ← allOf? types rest
    pure (datum :: data)
  | _, _ => none

end

end Ty

end DepositBridge.Abi
