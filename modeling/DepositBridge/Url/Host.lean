import DepositBridge.Url.Domain

/-!
# Hosts

The host of a URL: a domain name, an address of four octets in any of the forms that have been in
use, or an address of eight words in brackets.
-/

namespace DepositBridge.Url

/-- Why a text is no URL. -/
inductive Fault where
  | emptyInput
  | relative
  | emptyHost
  | invalidPort
  | invalidIpv4
  | invalidIpv6
  | invalidDomain
  | invalidDomainCharacter
  /-- The URL is sound but its scheme is neither `http` nor `https`. -/
  | unsupportedScheme
  deriving DecidableEq, Repr

/-- The host of a URL. -/
inductive Host where
  | domain (name : List Char)
  | ipv4 (address : Nat)
  | ipv6 (words : List Nat)
  deriving DecidableEq, Repr

namespace Host

/-! ## Addresses of four octets -/

/-- The number at the start of a text in base eight, ten or sixteen. -/
def ipv4Number? (text : List Char) : Option Nat :=
  let (base, digits) := match text with
    | '0' :: 'x' :: rest => (16, rest)
    | '0' :: 'X' :: rest => (16, rest)
    | '0' :: c :: rest => (8, c :: rest)
    | _ => (10, text)
  if text.isEmpty then none
  else
    digits.foldlM (fun n c => do
      let d ← Hex.value? c
      if d < base then pure (n * base + d) else none) 0

/-- Whether the last label of a name, leaving out an empty one at the end, is a number. -/
def endsInNumber (name : List Char) : Bool :=
  let labels := (Domain.labels name).reverse
  let last := match labels with
    | [] :: rest => rest.head?
    | _ => labels.head?
  match last with
  | some label => (!label.isEmpty && label.all Char.isDigit) || (ipv4Number? label).isSome
  | none => false

/-- The address that a dotted text writes: up to four numbers, of which the last fills all octets
that are left. -/
def readIpv4 (name : List Char) : Except Fault Nat :=
  let labels := Domain.labels name
  let labels := if labels.getLast? = some [] then labels.dropLast else labels
  match labels.mapM ipv4Number? with
  | none => .error .invalidIpv4
  | some numbers =>
    match numbers.getLast? with
    | none => .error .invalidIpv4
    | some last =>
      let front := numbers.dropLast
      if numbers.length > 4 ∨ last ≥ Nat.pow 256 (4 - front.length) ∨ front.any (· > 255) then
        .error .invalidIpv4
      else
        .ok (front.zipIdx.foldl (fun sum (n, i) => sum + n * Nat.pow 256 (3 - i)) last)

/-- Four numbers with points between them. -/
def writeIpv4 (address : Nat) : List Char :=
  List.intercalate ['.'] ((Octets.ofNatWidth 4 address).map fun b => Nat.toDigits 10 b.toNat)

/-! ## Addresses of eight words -/

/-- The four octets of a dotted tail, as two words. -/
def ipv6Tail? (text : List Char) : Option (List Nat) := do
  let parts := text.splitOn '.'
  let octets ← parts.mapM fun part =>
    if part.isEmpty || part.length > 3 || (part.length > 1 && part.head? = some '0') ||
        !part.all Char.isDigit then none
    else
      let n : Nat := part.foldl (fun n c => n * 10 + (c.toNat - 48)) 0
      if n ≤ 255 then some n else none
  match octets with
  | [a, b, c, d] => some [a * 256 + b, c * 256 + d]
  | _ => none

/-- Words with colons between them; the last may be a dotted tail. -/
def ipv6Words? (text : List Char) : Option (List Nat) :=
  if text.isEmpty then some []
  else
    let parts := text.splitOn ':'
    let word? (part : List Char) : Option Nat :=
      if part.length > 4 then none else Hex.number? part
    match parts.getLast? with
    | some last =>
      if last.contains '.' then do
        let front ← parts.dropLast.mapM word?
        let tail ← ipv6Tail? last
        pure (front ++ tail)
      else parts.mapM word?
    | none => none

/-- The texts before and after the first pair of colons. -/
def splitGap : List Char → Option (List Char × List Char)
  | ':' :: ':' :: rest => some ([], rest)
  | c :: rest => (splitGap rest).map fun (before, behind) => (c :: before, behind)
  | [] => none

/-- The eight words of an address; one pair of colons stands for zeros, at least one. -/
def readIpv6 (text : List Char) : Except Fault (List Nat) :=
  let words := match splitGap text with
    | none => ipv6Words? text
    | some (before, behind) => do
      let front ← ipv6Words? before
      let back ← ipv6Words? behind
      if before.contains '.' ∨ front.length + back.length > 7 then none
      else pure (front ++ List.replicate (8 - front.length - back.length) 0 ++ back)
  match words with
  | some words => if words.length = 8 then .ok words else .error .invalidIpv6
  | none => .error .invalidIpv6

/-- How many zeros stand in front of a list. -/
def leadingZeros (words : List Nat) : Nat := (words.takeWhile (· = 0)).length

/-- The first of the longest runs of zeros: where it starts and how long it is. -/
def longestRun (words : List Nat) : Nat × Nat :=
  (List.range words.length).foldl (fun (start, length) i =>
    let run := leadingZeros (words.drop i)
    if run > length then (i, run) else (start, length)) (0, 0)

private def joinWords (words : List Nat) : List Char :=
  List.intercalate [':'] (words.map Hex.digits)

/-- The words in small digits; the longest run of two or more zeros is a pair of colons. -/
def writeIpv6 (words : List Nat) : List Char :=
  let (start, length) := longestRun words
  if length < 2 then joinWords words
  else joinWords (words.take start) ++ [':', ':'] ++ joinWords (words.drop (start + length))

/-! ## Hosts -/

/-- The host of a web scheme. -/
def read (text : List Char) : Except Fault Host :=
  match text with
  | [] => .error .emptyHost
  | '[' :: rest =>
    if rest.getLast? = some ']' then (readIpv6 rest.dropLast).map .ipv6 else .error .invalidIpv6
  | _ =>
    match Text.decodeUtf8 (Percent.decode text) with
    | .error _ => .error .invalidDomain
    | .ok decoded =>
      match Domain.toAscii decoded.toList with
      | none => .error .invalidDomain
      | some [] => .error .emptyHost
      | some name =>
        if endsInNumber name then (readIpv4 name).map .ipv4 else .ok (.domain name)

/-- Whether the host of a scheme that is not for the web may hold a character. -/
def isOpaque (c : Char) : Bool :=
  !("\x00\t\n\r #/:<>?@[\\]^|".toList.contains c)

/-- Checks the host of a scheme that is not for the web. -/
def checkOpaque (text : List Char) : Except Fault Unit :=
  match text with
  | '[' :: rest =>
    if rest.getLast? = some ']' then (readIpv6 rest.dropLast).map fun _ => ()
    else .error .invalidIpv6
  | _ => if text.all isOpaque then .ok () else .error .invalidDomainCharacter

/-- The text of a host. -/
def write : Host → List Char
  | domain name => name
  | ipv4 address => writeIpv4 address
  | ipv6 words => '[' :: writeIpv6 words ++ [']']

end Host

end DepositBridge.Url
