/-!
# Punycode

Text in any script as ASCII letters, digits and hyphens. The ASCII characters come first; the others
follow in the order of their code points, each as its distance from the one before, in a
variable-length numeral whose thresholds adapt to the distances seen.
-/

namespace DepositBridge.Url.Punycode

/-! ## Numerals -/

/-- The digit of a number below thirty-six: letters, then figures. -/
def digit (n : Nat) : Char :=
  if n < 26 then Char.ofNat (97 + n) else Char.ofNat (22 + n)

/-- The number of a digit, in either case. -/
def value? (c : Char) : Option Nat :=
  let n := c.toNat
  if 97 ≤ n ∧ n ≤ 122 then some (n - 97)
  else if 65 ≤ n ∧ n ≤ 90 then some (n - 65)
  else if 48 ≤ n ∧ n ≤ 57 then some (n - 22)
  else none

theorem value?_digit : ∀ n, n < 36 → value? (digit n) = some n := by decide

/-- The threshold at a place: a digit below it ends its numeral. -/
def threshold (place bias : Nat) : Nat :=
  if place ≤ bias then 1 else if place ≥ bias + 26 then 26 else place - bias

theorem threshold_pos (place bias : Nat) : 1 ≤ threshold place bias := by
  unfold threshold; split
  · omega
  · split <;> omega

/-- Divides a distance down; the second number counts the places. -/
def settle (delta places : Nat) : Nat × Nat :=
  if 455 < delta then settle (delta / 35) (places + 36) else (delta, places)
termination_by delta

/-- The bias after a distance, when `count` characters have been placed. -/
def adapt (delta count : Nat) (first : Bool) : Nat :=
  let delta := if first then delta / 700 else delta / 2
  let (delta, places) := settle (delta + delta / count) 0
  places + 36 * delta / (delta + 38)

/-- The numeral of a distance. -/
def writeNumeral (bias place n : Nat) : List Char :=
  let t := threshold place bias
  if n < t then [digit n]
  else digit (t + (n - t) % (36 - t)) :: writeNumeral bias (place + 36) ((n - t) / (36 - t))
termination_by n
decreasing_by
  have := threshold_pos place bias
  calc (n - threshold place bias) / (36 - threshold place bias)
      ≤ n - threshold place bias := Nat.div_le_self _ _
    _ < n := by omega

/-- The distance that the numeral at the front of a text writes, and the rest. -/
def readNumeral (bias place weight : Nat) : List Char → Option (Nat × List Char)
  | [] => none
  | c :: rest => do
    let d ← value? c
    let t := threshold place bias
    if d < t then pure (d * weight, rest)
    else
      let (n, rest) ← readNumeral bias (place + 36) (weight * (36 - t)) rest
      pure (d * weight + n, rest)

/-! ## Writing -/

/-- Where a writer stands: what it has written, the distance since the last character it placed,
the bias, and how many characters are placed. -/
structure Writer where
  written : List Char
  delta : Nat
  bias : Nat
  placed : Nat

/-- Passes one character while the code point `point` is being placed. -/
def Writer.pass (basic point : Nat) (w : Writer) (c : Char) : Writer :=
  if c.toNat < point then { w with delta := w.delta + 1 }
  else if c.toNat = point then
    { written := w.written ++ writeNumeral w.bias 36 w.delta
      delta := 0
      bias := adapt w.delta (w.placed + 1) (w.placed = basic)
      placed := w.placed + 1 }
  else w

/-- Places the code points of a list, in increasing order from `reached` on. -/
def Writer.place (text : List Char) (basic : Nat) : Nat → List Nat → Writer → Writer
  | _, [], w => w
  | reached, point :: rest, w =>
    let w := { w with delta := w.delta + (point - reached) * (w.placed + 1) }
    let w := text.foldl (Writer.pass basic point) w
    Writer.place text basic (point + 1) rest { w with delta := w.delta + 1 }

/-- A text in ASCII characters. -/
def encode (text : List Char) : List Char :=
  let basic := text.filter fun c => c.toNat < 128
  let points := ((text.map Char.toNat).filter (128 ≤ ·)).eraseDups.mergeSort
  let w := Writer.place text basic.length 128 points
    { written := [], delta := 0, bias := 72, placed := basic.length }
  basic ++ (if basic.isEmpty then [] else ['-']) ++ w.written

/-! ## Reading -/

/-- Reads the numerals of a text and puts the characters they place. `point` is the code point
reached, `index` the place reached in the text. The first argument bounds the number of steps. -/
def readPlaces : Nat → List Char → (point index bias : Nat) → List Char → Option (List Char)
  | _, text, _, _, _, [] => some text
  | 0, _, _, _, _, _ => none
  | fuel + 1, text, point, index, bias, rest => do
    let (delta, rest) ← readNumeral bias 36 1 rest
    let count := text.length + 1
    let point := point + (index + delta) / count
    let place := (index + delta) % count
    if h : point.isValidChar then
      let text := text.take place ++ Char.ofNatAux point h :: text.drop place
      readPlaces fuel text point (place + 1) (adapt delta count (index = 0)) rest
    else none

/-- The text that ASCII characters stand for. -/
def decode? (text : List Char) : Option (List Char) :=
  let back := text.reverse
  let numerals := (back.takeWhile (· != '-')).reverse
  let basic := ((back.dropWhile (· != '-')).drop 1).reverse
  readPlaces (numerals.length + 1) basic 128 0 72 numerals

end DepositBridge.Url.Punycode
