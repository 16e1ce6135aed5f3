/-!
# Binary floating point

The numbers of double precision: how a decimal numeral is rounded to one, the fewest digits that
read back, and the whole number that one holds.
-/

namespace DepositBridge

/-- A double-precision number; a finite one is `significand * 2 ^ exponent` with its sign. -/
inductive Binary64 where
  | finite (negative : Bool) (significand : Nat) (exponent : Int)
  | infinite (negative : Bool)
  | nan
  deriving DecidableEq, Repr, Inhabited

namespace Binary64

/-- The quotient of two numbers rounded to the nearest whole number, halves to the even one. -/
def roundQuotient (numerator denominator : Nat) : Nat :=
  let q := numerator / denominator
  let twice := 2 * (numerator % denominator)
  if twice > denominator ∨ (twice = denominator ∧ q % 2 = 1) then q + 1 else q

/-- The double nearest to a positive quotient, halves to the even significand. -/
def ofQuotient (negative : Bool) (numerator denominator : Nat) : Binary64 :=
  let scale (e : Int) : Nat × Nat :=
    if e < 0 then (numerator * Nat.pow 2 e.natAbs, denominator)
    else (numerator, denominator * Nat.pow 2 e.toNat)
  let guess : Int := (numerator.log2 : Int) - denominator.log2
  let (n, d) := scale guess
  let magnitude : Int := if n < d then guess - 1 else guess
  let exponent : Int := max (magnitude - 52) (-1074)
  let (n, d) := scale exponent
  let significand := roundQuotient n d
  let (significand, exponent) :=
    if significand = Nat.pow 2 53 then (Nat.pow 2 52, exponent + 1) else (significand, exponent)
  if significand = 0 then .finite negative 0 0
  else if exponent > 971 then .infinite negative
  else .finite negative significand exponent

/-- The number of decimal digits of a number. -/
def countDigits (n : Nat) : Nat := (Nat.toDigits 10 n).length

/-- The double nearest to `digits * 10 ^ scale`. -/
def ofDecimal (negative : Bool) (digits : Nat) (scale : Int) : Binary64 :=
  let magnitude : Int := scale + countDigits digits
  if digits = 0 ∨ magnitude < -330 then .finite negative 0 0
  else if magnitude > 310 then .infinite negative
  else if scale < 0 then ofQuotient negative digits (Nat.pow 10 scale.natAbs)
  else ofQuotient negative (digits * Nat.pow 10 scale.toNat) 1

/-- The whole number that a double holds, if it has no fraction. -/
def toInt? : Binary64 → Option Int
  | .finite negative significand exponent =>
    let sign (n : Nat) : Int := if negative then -(n : Int) else n
    if 0 ≤ exponent then some (sign (significand * Nat.pow 2 exponent.toNat))
    else if significand % Nat.pow 2 exponent.natAbs = 0 then
      some (sign (significand / Nat.pow 2 exponent.natAbs))
    else none
  | _ => none

/-! ## The fewest digits -/

/-- The candidates with `count` digits for the quotient of two numbers that lies below
`10 ^ magnitude`: the two neighbours on their decimal grid, the nearer one first. -/
def neighbours (numerator denominator : Nat) (magnitude : Int) (count : Nat) : List (Nat × Int) :=
  let scale : Int := magnitude - count
  let (n, d) :=
    if scale < 0 then (numerator * Nat.pow 10 scale.natAbs, denominator)
    else (numerator, denominator * Nat.pow 10 scale.toNat)
  let below := n / d
  if roundQuotient n d = below then [(below, scale), (below + 1, scale)]
  else [(below + 1, scale), (below, scale)]

/-- The fewest digits, and their scale, that read back as a positive double. -/
def shortest (significand : Nat) (exponent : Int) : Nat × Int :=
  let (n, d) :=
    if exponent < 0 then (significand, Nat.pow 2 exponent.natAbs)
    else (significand * Nat.pow 2 exponent.toNat, 1)
  let quotientDigits : Int :=
    if n < d then 1 - countDigits (d / n) else countDigits (n / d)
  let magnitudes := [quotientDigits, quotientDigits + 1]
  let hits := (List.range 17).findSome? fun i =>
    magnitudes.findSome? fun magnitude =>
      (neighbours n d magnitude (i + 1)).find? fun (digits, scale) =>
        ofDecimal false digits scale = .finite false significand exponent
  hits.getD (0, 0)

/-- A number without the zeros at its end, and how many there were. The first argument bounds the
search. -/
def dropTrailingZeros : Nat → Nat → Nat × Nat
  | 0, n => (n, 0)
  | fuel + 1, n =>
    if n = 0 ∨ n % 10 ≠ 0 then (n, 0)
    else
      let (m, zeros) := dropTrailingZeros fuel (n / 10)
      (m, zeros + 1)

/-- The text of a double: the fewest digits, positional for magnitudes from `10 ^ -4` up to
`10 ^ 16`, always with a point or an exponent of at least two digits. -/
def text : Binary64 → String
  | .nan => "nan"
  | .infinite negative => if negative then "-inf" else "inf"
  | .finite negative 0 _ => if negative then "-0.0" else "0.0"
  | .finite negative significand exponent =>
    let (digits, scale) := shortest significand exponent
    let (digits, zeros) := dropTrailingZeros 20 digits
    let ds := Nat.toDigits 10 digits
    let scale : Int := scale + zeros
    let point : Int := ds.length + scale
    let body : List Char :=
      if -4 < point ∧ point ≤ 16 then
        if point ≤ 0 then '0' :: '.' :: (List.replicate point.natAbs '0' ++ ds)
        else if 0 ≤ scale then ds ++ List.replicate scale.toNat '0' ++ ['.', '0']
        else ds.take point.toNat ++ '.' :: ds.drop point.toNat
      else
        let e : Int := point - 1
        let eDigits := Nat.toDigits 10 e.natAbs
        let fraction := if ds.length > 1 then '.' :: ds.drop 1 else []
        ds.take 1 ++ fraction ++ 'e' :: (if e < 0 then '-' else '+') ::
          (List.replicate (2 - eDigits.length) '0' ++ eDigits)
    String.ofList (if negative then '-' :: body else body)

end Binary64

end DepositBridge
