import DepositBridge.Text.Basic
import DepositBridge.Text.Quoted

/-!
# Numerals

Whole numbers as text. Two readers share the digits: `read` takes a numeral in base ten or sixteen
with the digits of any script, `readLoose` takes the ASCII numerals of a form field. Neither reads
a decimal numeral of more than `digitLimit` digits, and `write` writes none.
-/

namespace DepositBridge.Numeral

/-- The most decimal digits a numeral may have. -/
def digitLimit : Nat := 4300

/-- The base of a numeral. -/
inductive Base where
  | ten
  | sixteen
  deriving DecidableEq, Repr

/-- The number of digits of a base. -/
def Base.toNat : Base → Nat
  | .ten => 10
  | .sixteen => 16

/-- Why a numeral is not read or written. -/
inductive Fault where
  /-- A decimal numeral has more digits than may be read. -/
  | tooLong (digits : Nat)
  /-- A number has more decimal digits than may be written. -/
  | tooLarge
  /-- A text is no numeral of its base. -/
  | malformed (base : Base) (text : String)
  deriving DecidableEq, Repr

private def limitAdvice : String := "use sys.set_int_max_str_digits() to increase the limit"

/-- The wording of a fault. A text that is no numeral is quoted, cut to two hundred characters. -/
def Fault.message : Fault → String
  | .tooLong digits =>
    s!"Exceeds the limit ({digitLimit} digits) for integer string conversion: " ++
      s!"value has {digits} digits; {limitAdvice}"
  | .tooLarge =>
    s!"Exceeds the limit ({digitLimit} digits) for integer string conversion; {limitAdvice}"
  | .malformed base text =>
    s!"invalid literal for int() with base {base.toNat}: " ++
      String.ofList ((Text.quoteChars text.toList).take 200)

/-! ## Writing -/

/-- The decimal digits of a number with its sign, unless there are too many of them. -/
def write (n : Int) : Except Fault String :=
  if n.natAbs < Nat.pow 10 digitLimit then .ok (toString n) else .error .tooLarge

/-! ## Reading -/

/-- The value of an ASCII digit in a base. -/
def digit? (base : Base) (c : Char) : Option Nat :=
  match base with
  | .ten => if '0' ≤ c ∧ c ≤ '9' then some (c.toNat - 48) else none
  | .sixteen => Hex.value? c

/-- The number that digit values write in a base. -/
def ofDigits (base : Base) (digits : List Nat) : Nat :=
  digits.foldl (fun n d => n * base.toNat + d) 0

/-- The digits at the front of a text and what follows them. Single underscores may stand between
digits; a doubled one, or one that no digit follows, is an error. The flag says that no underscore
may come next. -/
def scanDigits (base : Base) (closed : Bool) : List Char → Option (List Nat × List Char)
  | [] => if closed then none else some ([], [])
  | c :: rest =>
    if c = '_' then
      if closed then none else scanDigits base true rest
    else
      match digit? base c with
      | some d => (scanDigits base false rest).map fun (digits, rest) => (d :: digits, rest)
      | none => if closed then none else some ([], c :: rest)

/-- The ASCII form of a text in any script: digits become ASCII digits and blanks become spaces.
The text ends, in a mark that no numeral holds, at the first character that is neither. -/
def toAscii : List Char → List Char
  | [] => []
  | c :: rest =>
    if c.toNat < 127 then c :: toAscii rest
    else if Text.isBlank c then ' ' :: toAscii rest
    else
      match Text.decimalDigit? c with
      | some d => Char.ofNat (48 + d) :: toAscii rest
      | none => ['?']

/-- Takes one sign off the front of a text; the flag tells a negative one. -/
def splitSign : List Char → Bool × List Char
  | '+' :: rest => (false, rest)
  | '-' :: rest => (true, rest)
  | text => (false, text)

/-- A number with a sign. -/
def signed (negative : Bool) (n : Nat) : Int :=
  if negative then -(n : Int) else n

/-- Reads ASCII text: blanks around a numeral that has a sign, in base sixteen a mark `0x`, and
digits with single underscores between them. -/
def readAscii (base : Base) (text : List Char) : Except (Option Nat) Int := do
  let (negative, body) := splitSign (text.dropWhile Text.isAsciiBlank)
  let body :=
    if base = .sixteen ∧ Hex.isMarked body then
      match Hex.dropMark body with
      | '_' :: rest => rest
      | rest => rest
    else body
  match scanDigits base true body with
  | none => .error none
  | some (digits, rest) =>
    if base = .ten ∧ digits.length > digitLimit then .error (some digits.length)
    else if digits.isEmpty then .error none
    else if rest.all Text.isAsciiBlank then .ok (signed negative (ofDigits base digits))
    else .error none

/-- Reads a numeral in a base. -/
def read (base : Base) (text : String) : Except Fault Int :=
  let chars := text.toList
  let ascii := if chars.all fun c => c.toNat < 128 then chars else toAscii chars
  match readAscii base ascii with
  | .ok n => .ok n
  | .error (some digits) => .error (.tooLong digits)
  | .error none => .error (.malformed base text)

/-! ## Form fields -/

/-- Why the text of a form field is no whole number. -/
inductive LooseFault where
  | malformed
  | tooLong
  deriving DecidableEq, Repr

/-- Reads a plain numeral: a minus sign or none, and ASCII digits, of which a zero comes first only
when it is alone. The sign counts as a digit for the limit. -/
def readPlain (text : List Char) : Except LooseFault Int :=
  let (negative, body) := match text with
    | '-' :: rest => (true, rest)
    | _ => (false, text)
  let digits := body.takeWhile Char.isDigit
  if digits.isEmpty ∨ (digits.head? = some '0' ∧ digits ≠ ['0']) then .error .malformed
  else if digits.length + (if negative then 1 else 0) > digitLimit then .error .tooLong
  else if digits.length < body.length then .error .malformed
  else .ok (signed negative (ofDigits .ten (digits.filterMap (digit? .ten))))

/-- A text without the zeros, and the underscores among them, that lead a number. The last of them
stays when a point or nothing follows. Any other text starts with a digit or a minus sign. -/
def dropLeadingZeros? : List Char → Option (List Char)
  | [] => none
  | '0' :: rest =>
    let zeros := rest.takeWhile fun c => c = '0' || c = '_'
    let last := zeros.getLastD '0'
    match rest.drop zeros.length with
    | [] => some [last]
    | '.' :: more => some (last :: '.' :: more)
    | c :: more => if c.isDigit then some (c :: more) else none
  | c :: rest => if c.isDigit || c = '-' then some (c :: rest) else none

/-- A text without a point that only zeros, and at least one, follow. -/
def dropZeroFraction (text : List Char) : List Char :=
  let fraction := text.dropWhile (· != '.')
  if fraction.length > 1 ∧ (fraction.drop 1).all (· = '0') then text.takeWhile (· != '.') else text

/-- Whether two underscores stand side by side. -/
def hasDoubleUnderscore : List Char → Bool
  | '_' :: '_' :: _ => true
  | _ :: rest => hasDoubleUnderscore rest
  | [] => false

/-- A text without its underscores, if each of them stands between two other characters. -/
def dropUnderscores (text : List Char) : List Char :=
  if text.head? = some '_' ∨ text.getLast? = some '_' ∨ hasDoubleUnderscore text then text
  else text.filter (· != '_')

/-- The plain numeral that the text of a form field stands for: without blanks around it, a plus
sign, leading zeros, a fraction of zeros and single underscores. -/
def plainText? (text : List Char) : Option (List Char) :=
  let body := match Text.trim Text.isBlank text with
    | '+' :: '-' :: _ => []
    | '+' :: rest => rest
    | rest => rest
  (dropLeadingZeros? body).map fun body => dropUnderscores (dropZeroFraction body)

/-- Reads a whole number as form fields hold it. -/
def readLoose (text : String) : Except LooseFault Int :=
  match plainText? text.toList with
  | some plain => readPlain plain
  | none => .error .malformed

end DepositBridge.Numeral
