import DepositBridge.Text.Composed
import DepositBridge.Text.Printable
import DepositBridge.Url.DomainMap
import DepositBridge.Url.Percent
import DepositBridge.Url.Punycode

/-!
# Domain names

The ASCII form of a domain name in any script: letters become small, their variants plain, and a
label beyond ASCII becomes Punycode behind the mark `xn--`.
-/

namespace DepositBridge.Url.Domain

/-- The ASCII characters that no domain name holds. -/
def isForbidden (c : Char) : Bool :=
  c.toNat ≤ 32 || c.toNat = 127 || "#/:<>?@[\\]^|%".toList.contains c

/-- What a character of a name becomes; `none` for one that no name holds. -/
def mapChar (c : Char) : Option (List Char) :=
  let n := c.toNat
  if n < 128 then some [c.toLower]
  else if n = 0x3002 ∨ n = 0xff61 then some ['.']
  else if 0xff01 ≤ n ∧ n ≤ 0xff5e then some [(Char.ofNat (n - 0xfee0)).toLower]
  else if inRanges ignoredRanges n then some []
  else if inRanges refusedRanges n then none
  else
    match mapped? c with
    | some text => some text
    | none =>
      if !Text.isPrintable c then none
      else if staysCapital n then some [c]
      else some [Text.lowerChar c]

/-- A name with every character mapped and composed; `none` when it holds a character that no name
holds. -/
def mapChars (name : List Char) : Option (List Char) := do
  let text := Text.compose (← name.mapM mapChar).flatten
  if text.any isForbidden then none else pure text

/-- The labels between the points of a name. -/
def labels (name : List Char) : List (List Char) := name.splitOn '.'

/-- Whether all characters of a label are ASCII. -/
def isAscii (label : List Char) : Bool := label.all (·.toNat < 128)

/-- Whether a mapped label starts with a mark. -/
def startsWithMark (label : List Char) : Bool :=
  match label with
  | c :: _ => Text.isMark c
  | [] => false

/-- The ASCII form of a mapped label. A label that is Punycode already has to stand for a mapped
label beyond ASCII. -/
def labelToAscii (label : List Char) : Option (List Char) :=
  match label with
  | 'x' :: 'n' :: '-' :: '-' :: rest =>
    if isAscii rest then
      match Punycode.decode? rest with
      | some text =>
        if !isAscii text && mapChars text = some text && !startsWithMark text then some label
        else none
      | none => none
    else none
  | _ =>
    if isAscii label then some label
    else if startsWithMark label then none
    else some ("xn--".toList ++ Punycode.encode label)

/-- The ASCII form of a name. -/
def toAscii (name : List Char) : Option (List Char) := do
  let mapped ← mapChars name
  let ascii ← (labels mapped).mapM labelToAscii
  pure (List.intercalate ['.'] ascii)

end DepositBridge.Url.Domain
