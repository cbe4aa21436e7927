import BraceBalance.Text.Basic

/-!
# Numbers with 64 bits

A double is a sign with a natural number times a power of two, an infinity, or no number.
A decimal is read as the nearest double, a tie as the one with the even significand. A
double is written with the fewest digits that read back as the same double and, of those,
the nearest to it; never with an exponent.

All comparisons are between natural numbers, so nothing is rounded on the way.
-/

namespace BraceBalance

inductive Double where
  /-- The number `significand · 2 ^ exponent`, below zero if `negative`. -/
  | finite (negative : Bool) (significand : Nat) (exponent : Int)
  | infinite (negative : Bool)
  | notANumber
deriving DecidableEq

namespace Double

/-- The least exponent, that of the numbers nearest to zero. -/
def minExponent : Int := -1074

def maxExponent : Int := 971

/-- Significands of this length in bits are the longest. -/
def precision : Nat := 53

/-- The least number that is too long for a significand. -/
def significandBound : Nat := Nat.pow 2 precision

/-- A power with a negative exponent counts as one. -/
def power (base : Nat) (exponent : Int) : Nat :=
  Nat.pow base exponent.toNat

def digitCount (number : Nat) : Nat :=
  (Nat.toDigits 10 number).length

/-- Compares `digits · 10 ^ tens` with `bits · 2 ^ twos`. -/
def compareScaled (digits : Nat) (tens : Int) (bits : Nat) (twos : Int) : Ordering :=
  Ord.compare (digits * power 10 tens * power 2 (-twos)) (bits * power 2 twos * power 10 (-tens))

/-- The natural number nearest to a quotient, and of two the even one. -/
def roundQuotient (numerator denominator : Nat) : Nat :=
  let quotient := numerator / denominator
  let remainder := numerator % denominator
  if 2 * remainder < denominator then quotient
  else if denominator < 2 * remainder then quotient + 1
  else if quotient % 2 = 0 then quotient
  else quotient + 1

def ofQuotient (negative : Bool) (numerator denominator : Nat) : Double :=
  let quotientBits : Int := (Nat.log2 numerator : Int) - Nat.log2 denominator
  let scaledTo (exponent : Int) : Nat × Nat :=
    (numerator * power 2 (-exponent), denominator * power 2 exponent)
  let estimate := quotientBits - precision
  let (top, bottom) := scaledTo estimate
  let tight := if top / bottom < significandBound then estimate else estimate + 1
  let exponent := max tight minExponent
  let (top, bottom) := scaledTo exponent
  let significand := roundQuotient top bottom
  let (significand, exponent) :=
    if significand < significandBound then (significand, exponent)
    else (significand / 2, exponent + 1)
  if exponent ≤ maxExponent then finite negative significand exponent else infinite negative

/-- The double nearest to `digits · 10 ^ exponent`. -/
def ofDecimal (negative : Bool) (digits : Nat) (exponent : Int) : Double :=
  let places := (digitCount digits : Int) + exponent
  if digits = 0 || places < -330 then finite negative 0 minExponent
  else if places > 310 then infinite negative
  else ofQuotient negative (digits * power 10 exponent) (power 10 (-exponent))

/-- A natural number times a power of ten, when both factors are rounded to doubles first
and the product after that. -/
def scaled (number tens : Nat) : Double :=
  if number = 0 then finite false 0 minExponent
  else
    match ofDecimal false number 0, ofDecimal false 1 tens with
    | finite _ left twos, finite _ right moreTwos =>
        ofQuotient false (left * right * power 2 (twos + moreTwos)) (power 2 (-(twos + moreTwos)))
    | _, _ => infinite false

/-- The place of the first decimal digit of a positive number `significand · 2 ^ exponent`:
the least power of ten above the number. -/
def decimalPlace (significand : Nat) (exponent : Int) : Int :=
  let scale : Nat := 400
  digitCount (significand * power 2 exponent * Nat.pow 10 scale / power 2 (-exponent)) - scale

/-- The decimals that read back as the double `significand · 2 ^ exponent` lie between
these two multiples of a quarter of its unit. -/
def roundingInterval (significand : Nat) (exponent : Int) : Nat × Nat :=
  let nearer := 2 * significand = significandBound && exponent > minExponent
  (if nearer then 4 * significand - 1 else 4 * significand - 2, 4 * significand + 2)

/-- The decimal `digits · 10 ^ tens` reads back as the double `significand · 2 ^ exponent`.
The ends of the interval do so when the significand is even. -/
def readsBack (significand : Nat) (exponent : Int) (digits : Nat) (tens : Int) : Bool :=
  let (low, high) := roundingInterval significand exponent
  let even := significand % 2 = 0
  let aboveLow := match compareScaled digits tens low (exponent - 2) with
    | .lt => false
    | .eq => even
    | .gt => true
  let belowHigh := match compareScaled digits tens high (exponent - 2) with
    | .lt => true
    | .eq => even
    | .gt => false
  aboveLow && belowHigh

/-- The decimal with a given last place that reads back as a positive double, if one does;
of two the nearer. -/
def decimalAt? (significand : Nat) (exponent tens : Int) : Option (Nat × Int) :=
  let whole := significand * power 2 exponent * power 10 (-tens)
  let below := whole / (power 2 (-exponent) * power 10 tens)
  let fits (digits : Nat) : Bool := readsBack significand exponent digits tens
  match fits below, fits (below + 1) with
  | false, false => none
  | true, false => some (below, tens)
  | false, true => some (below + 1, tens)
  | true, true =>
      match compareScaled (2 * below + 1) tens (2 * significand) exponent with
      | .gt => some (below, tens)
      | .lt => some (below + 1, tens)
      | .eq => some (if below % 2 = 0 then below else below + 1, tens)

/-- The shortest decimal that reads back as a positive double. Seventeen digits always
do. -/
def shortestDecimal (significand : Nat) (exponent : Int) : Nat × Int :=
  let place := decimalPlace significand exponent
  ((List.range 17).findSome? fun (count : Nat) =>
    decimalAt? significand exponent (place - (count + 1))).getD (0, 0)

/-- The decimal `digits · 10 ^ tens` without an exponent. -/
def renderDecimal (digits : Nat) (tens : Int) : Text :=
  let shown := Text.ofNat digits
  if 0 ≤ tens then shown ++ List.replicate tens.toNat '0'
  else
    let places := (-tens).toNat
    let padded := List.replicate (places + 1 - shown.length) '0' ++ shown
    let whole := padded.take (padded.length - places)
    let fraction := Text.dropEndWhile (· = '0') (padded.drop (padded.length - places))
    if fraction.isEmpty then whole else whole ++ "." ++ fraction

def render : Double → Text
  | finite negative significand exponent =>
      let magnitude :=
        if significand = 0 then ['0']
        else
          let (digits, tens) := shortestDecimal significand exponent
          renderDecimal digits tens
      if negative then '-' :: magnitude else magnitude
  | infinite negative => if negative then "-inf" else "inf"
  | notANumber => "NaN"

end Double

end BraceBalance
