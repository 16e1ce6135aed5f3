import DepositBridge.Binary64
import DepositBridge.Numeral

/-!
# Loosely typed values

What a caller may put into a field before it is checked, and what a node may answer.
-/

namespace DepositBridge

/-- A value of any kind. An object keeps its members in the order in which they were written. A
hidden text is one that shows nothing but a mask of itself. -/
inductive Value where
  | null
  | bool (b : Bool)
  | int (n : Int)
  | float (x : Binary64)
  | text (s : String)
  | bytes (octets : Octets)
  | list (items : List Value)
  | object (members : List (String × Value))
  | hidden (s : String)
  deriving Inhabited, Repr

namespace Value

/-! ## Members of an object -/

/-- The value of the last member of a name. -/
def member? (members : List (String × Value)) (name : String) : Option Value :=
  members.foldl (fun found (key, v) => if key = name then some v else found) none

/-- Puts a member: a new name goes to the end, a known one keeps its place. -/
def putMember (members : List (String × Value)) (name : String) (v : Value) :
    List (String × Value) :=
  if members.any (·.1 = name) then
    members.map fun (key, old) => if key = name then (key, v) else (key, old)
  else members ++ [(name, v)]

/-- The member of a name, when the value is an object that has it. -/
def get? : Value → String → Option Value
  | object members, name => member? members name
  | _, _ => none

/-- Whether a value counts as given: null, false, zero and everything empty do not. -/
def isGiven : Value → Bool
  | null => false
  | bool b => b
  | int n => n ≠ 0
  | float x =>
    match x with
    | .finite _ significand _ => significand ≠ 0
    | _ => true
  | text s => !s.isEmpty
  | bytes octets => !octets.isEmpty
  | list items => !items.isEmpty
  | object members => !members.isEmpty
  | hidden s => !s.isEmpty

/-- A value out of hiding. -/
def revealed : Value → Value
  | hidden s => text s
  | v => v

@[simp] theorem revealed_text (s : String) : (text s).revealed = text s := rfl

@[simp] theorem revealed_hidden (s : String) : (hidden s).revealed = text s := rfl

@[simp] theorem revealed_bytes (octets : Octets) : (bytes octets).revealed = bytes octets := rfl

theorem revealed_eq_text_iff {v : Value} {s : String} :
    v.revealed = text s ↔ v = text s ∨ v = hidden s := by
  cases v <;> simp [revealed]

mutual

/-- How deep lists and objects are nested in a value. -/
def depth : Value → Nat
  | list items => itemsDepth items + 1
  | object members => membersDepth members + 1
  | _ => 0

/-- How deep they are nested in the items of a list. -/
def itemsDepth : List Value → Nat
  | [] => 0
  | v :: rest => max v.depth (itemsDepth rest)

/-- How deep they are nested in the members of an object. -/
def membersDepth : List (String × Value) → Nat
  | [] => 0
  | (_, v) :: rest => max v.depth (membersDepth rest)

end

/-! ## Wording -/

/-- The name of a value's kind in a message. -/
def kindName : Value → String
  | null => "NoneType"
  | bool _ => "bool"
  | int _ => "int"
  | float _ => "float"
  | text _ => "str"
  | bytes _ => "bytes"
  | list _ => "list"
  | object _ => "dict"
  | hidden _ => "SecretStr"

mutual

/-- A value as a message quotes it. Fails on a number with too many digits. -/
def quoted : Value → Except Numeral.Fault String
  | null => .ok "None"
  | bool true => .ok "True"
  | bool false => .ok "False"
  | int n => Numeral.write n
  | float x => .ok x.text
  | text s => .ok (Text.quote s)
  | bytes octets => .ok (Text.quoteOctets octets)
  | list items => do
    let parts ← quotedItems items
    pure ("[" ++ String.intercalate ", " parts ++ "]")
  | object members => do
    let parts ← quotedMembers members
    pure ("\x7b" ++ String.intercalate ", " parts ++ "\x7d")
  | hidden s => .ok ("SecretStr(" ++ Text.quote (Text.mask s) ++ ")")

/-- The items of a list as a message quotes them. -/
def quotedItems : List Value → Except Numeral.Fault (List String)
  | [] => .ok []
  | v :: rest => do
    let first ← quoted v
    let others ← quotedItems rest
    pure (first :: others)

/-- The members of an object as a message quotes them. -/
def quotedMembers : List (String × Value) → Except Numeral.Fault (List String)
  | [] => .ok []
  | (key, v) :: rest => do
    let first ← quoted v
    let others ← quotedMembers rest
    pure ((Text.quote key ++ ": " ++ first) :: others)

end

/-- A value as a message shows it: a text, or the mask of a hidden one, stands without quotes. -/
def shown : Value → Except Numeral.Fault String
  | text s => .ok s
  | hidden s => .ok (Text.mask s)
  | v => quoted v

end Value

end DepositBridge
