import DepositBridge.Value

/-!
# Reading JSON

JSON text as values, with the numbers `NaN` and `Infinity` and, after an escape, half surrogate
pairs that stand for no character. A fault is known by its cause and by how much of the text was
left; its wording counts lines and columns from one and characters from zero.
-/

namespace DepositBridge.Json

/-! ## Faults -/

/-- What a reader misses or refuses. -/
inductive Cause where
  | value
  | comma
  | colon
  | name
  | extra
  | control
  | escape
  | unicodeEscape
  | unterminated
  | byteOrderMark
  deriving DecidableEq, Repr

/-- The wording of a cause. -/
def Cause.message : Cause → String
  | value => "Expecting value"
  | comma => "Expecting ',' delimiter"
  | colon => "Expecting ':' delimiter"
  | name => "Expecting property name enclosed in double quotes"
  | extra => "Extra data"
  | control => "Invalid control character at"
  | escape => "Invalid \\escape"
  | unicodeEscape => "Invalid \\uXXXX escape"
  | unterminated => "Unterminated string starting at"
  | byteOrderMark => "Unexpected UTF-8 BOM (decode using utf-8-sig)"

/-- Why a text is not read. -/
inductive Fault where
  /-- The text is no JSON: a cause, and how many characters were left. -/
  | malformed (cause : Cause) (left : Nat)
  /-- A whole number has too many digits. -/
  | numeral (fault : Numeral.Fault)
  deriving DecidableEq, Repr

/-- The line, counted from one, and the column, counted from one, that follow a text. -/
def lineColumn (before : List Char) : Nat × Nat :=
  before.foldl (fun (line, column) c => if c = '\n' then (line + 1, 1) else (line, column + 1))
    (1, 1)

/-- The wording of a fault in a text. -/
def Fault.message (text : List Char) : Fault → String
  | malformed cause left =>
    let position := text.length - left
    let (line, column) := lineColumn (text.take position)
    s!"{cause.message}: line {line} column {column} (char {position})"
  | numeral fault => fault.message

private def refuse {α : Type} (cause : Cause) (text : List Char) : Except Fault α :=
  .error (.malformed cause text.length)

/-! ## Blanks -/

/-- The blanks between the parts of a text. -/
def isBlank (c : Char) : Bool := c = ' ' || c = '\t' || c = '\n' || c = '\r'

/-- A text without blanks in front. -/
def skip (text : List Char) : List Char := text.dropWhile isBlank

/-! ## Strings -/

/-- The number that four hexadecimal digits write. -/
def fourDigits? (a b c d : Char) : Option Nat := do
  let a ← Hex.value? a
  let b ← Hex.value? b
  let c ← Hex.value? c
  let d ← Hex.value? d
  pure (((a * 16 + b) * 16 + c) * 16 + d)

/-- Whether a code unit starts a surrogate pair. -/
def isHighSurrogate (n : Nat) : Bool := 0xd800 ≤ n && n < 0xdc00

/-- Whether a code unit ends a surrogate pair. -/
def isLowSurrogate (n : Nat) : Bool := 0xdc00 ≤ n && n < 0xe000

/-- One step of a string: a character as it stands, or the code unit of a numeric escape. -/
inductive Piece where
  | plain (c : Char)
  | unit (n : Nat)

/-- The character that stands for half a surrogate pair. -/
def replacement : Char := '\ufffd'

/-- The text of the pieces of a string. Two code units in a row that form a surrogate pair are one
character; half a pair is replaced. `pending` is the first half of a pair, waiting for the
second. -/
def joinPieces (pending : Option Nat) : List Piece → List Char
  | [] => if pending.isSome then [replacement] else []
  | .plain c :: rest =>
    (if pending.isSome then [replacement, c] else [c]) ++ joinPieces none rest
  | .unit n :: rest =>
    match pending with
    | some high =>
      if isLowSurrogate n then
        Char.ofNat (0x10000 + (high - 0xd800) * 0x400 + (n - 0xdc00)) :: joinPieces none rest
      else if isHighSurrogate n then replacement :: joinPieces (some n) rest
      else replacement :: Char.ofNat n :: joinPieces none rest
    | none =>
      if isHighSurrogate n then joinPieces (some n) rest
      else if isLowSurrogate n then replacement :: joinPieces none rest
      else Char.ofNat n :: joinPieces none rest

/-- The character behind a backslash, if it is one that needs no number. -/
def plainEscape? : Char → Option Char
  | '"' => some '"'
  | '\\' => some '\\'
  | '/' => some '/'
  | 'b' => some '\x08'
  | 'f' => some '\x0c'
  | 'n' => some '\n'
  | 'r' => some '\r'
  | 't' => some '\t'
  | _ => none

private def cons (piece : Piece) : List Piece × List Char → List Piece × List Char
  | (pieces, rest) => (piece :: pieces, rest)

/-- Reads on inside a string up to its closing quote. `start` counts the characters from the opening
quote to the end of the text. -/
def readPieces (start : Nat) : List Char → Except Fault (List Piece × List Char)
  | [] => .error (.malformed .unterminated start)
  | '"' :: rest => .ok ([], rest)
  | ['\\'] => .error (.malformed .unterminated start)
  | '\\' :: 'u' :: rest =>
    match rest with
    | a :: b :: c :: d :: more =>
      if more.isEmpty then refuse .unicodeEscape ('u' :: rest)
      else
        match fourDigits? a b c d with
        | some n => (readPieces start more).map (cons (.unit n))
        | none => refuse .unicodeEscape ('u' :: rest)
    | _ => refuse .unicodeEscape ('u' :: rest)
  | '\\' :: c :: rest =>
    match plainEscape? c with
    | some e => (readPieces start rest).map (cons (.plain e))
    | none => refuse .escape ('\\' :: c :: rest)
  | c :: rest =>
    if c.toNat < 32 then refuse .control (c :: rest)
    else (readPieces start rest).map (cons (.plain c))

/-- Reads a string whose opening quote has been read. -/
def readString (rest : List Char) : Except Fault (String × List Char) :=
  (readPieces (rest.length + 1) rest).map fun (pieces, rest) =>
    (String.ofList (joinPieces none pieces), rest)

/-! ## Numbers -/

private def isDigit (c : Char) : Bool := '0' ≤ c && c ≤ '9'

private def decimal (digits : List Char) : Nat :=
  digits.foldl (fun n c => n * 10 + (c.toNat - 48)) 0

/-- The point and the digits of a fraction at the front of a text, if there is one. -/
def splitFraction : List Char → List Char × List Char
  | '.' :: c :: rest =>
    if isDigit c then (c :: rest.takeWhile isDigit, rest.dropWhile isDigit)
    else ([], '.' :: c :: rest)
  | text => ([], text)

/-- The exponent at the front of a text, if there is one. -/
def splitExponent (text : List Char) : Option Int × List Char :=
  match text with
  | mark :: rest =>
    if mark = 'e' ∨ mark = 'E' then
      let (negative, digits) := Numeral.splitSign rest
      let exponent := digits.takeWhile isDigit
      if exponent.isEmpty then (none, text)
      else (some (Numeral.signed negative (decimal exponent)), digits.dropWhile isDigit)
    else (none, text)
  | [] => (none, text)

/-- Reads a number, a whole one or a fraction, whose sign has been read. -/
def readNumber (negative : Bool) (text : List Char) : Option (Except Fault Value × List Char) :=
  let whole := match text with
    | '0' :: _ => ['0']
    | _ => text.takeWhile isDigit
  if whole.isEmpty then none
  else
    let (fraction, rest) := splitFraction (text.drop whole.length)
    let (exponent, rest) := splitExponent rest
    if fraction.isEmpty ∧ exponent.isNone then
      if whole.length > Numeral.digitLimit then
        some (.error (.numeral (.tooLong whole.length)), rest)
      else some (.ok (.int (Numeral.signed negative (decimal whole))), rest)
    else
      let scale : Int := exponent.getD 0 - fraction.length
      some (.ok (.float (Binary64.ofDecimal negative (decimal (whole ++ fraction)) scale)), rest)

/-- The words that stand for values. -/
def words : List (List Char × Value) := [
  ("null".toList, .null), ("true".toList, .bool true), ("false".toList, .bool false),
  ("NaN".toList, .float .nan), ("Infinity".toList, .float (.infinite false)),
  ("-Infinity".toList, .float (.infinite true))]

/-- Reads a word or a number. -/
def readScalar (text : List Char) : Except Fault (Value × List Char) :=
  match words.find? fun (word, _) => word.isPrefixOf text with
  | some (word, v) => .ok (v, text.drop word.length)
  | none =>
    let number := match text with
      | '-' :: rest => readNumber true rest
      | _ => readNumber false text
    match number with
    | some (.ok v, rest) => .ok (v, rest)
    | some (.error fault, _) => .error fault
    | none => refuse .value text

/-! ## Values -/

mutual

/-- Reads a value. The first argument bounds the depth of the recursion. -/
def readValue : Nat → List Char → Except Fault (Value × List Char)
  | 0, text => refuse .value text
  | depth + 1, text =>
    match text with
    | '"' :: rest => (readString rest).map fun (s, rest) => (.text s, rest)
    | '\x7b' :: rest =>
      match skip rest with
      | '\x7d' :: rest => .ok (.object [], rest)
      | rest => readMembers depth [] rest
    | '[' :: rest =>
      match skip rest with
      | ']' :: rest => .ok (.list [], rest)
      | rest => (readItems depth rest).map fun (items, rest) => (.list items, rest)
    | _ => readScalar text

/-- Reads the items of a list up to its closing bracket. -/
def readItems : Nat → List Char → Except Fault (List Value × List Char)
  | 0, text => refuse .value text
  | depth + 1, text => do
    let (v, rest) ← readValue depth text
    match skip rest with
    | ']' :: rest => pure ([v], rest)
    | ',' :: rest =>
      let (items, rest) ← readItems depth (skip rest)
      pure (v :: items, rest)
    | rest => refuse .comma rest

/-- Reads the members of an object up to its closing brace. Of two members with one name the last
counts, in the place of the first. -/
def readMembers : Nat → List (String × Value) → List Char → Except Fault (Value × List Char)
  | 0, _, text => refuse .value text
  | depth + 1, members, text =>
    match text with
    | '"' :: rest => do
      let (name, rest) ← readString rest
      match skip rest with
      | ':' :: rest =>
        let (v, rest) ← readValue depth (skip rest)
        let members := Value.putMember members name v
        match skip rest with
        | '\x7d' :: rest => pure (.object members, rest)
        | ',' :: rest => readMembers depth members (skip rest)
        | rest => refuse .comma rest
      | rest => refuse .colon rest
    | _ => refuse .name text

end

/-- Reads a text that holds one value and nothing else but blanks. -/
def read (text : List Char) : Except Fault Value :=
  match text with
  | '\ufeff' :: _ => refuse .byteOrderMark text
  | _ => do
    let (v, rest) ← readValue (2 * text.length + 2) (skip text)
    match skip rest with
    | [] => pure v
    | rest => refuse .extra rest

end DepositBridge.Json
