/-!
# Finite doubles

A finite binary64 number as a sign, a significand below `2 ^ 53` and a power of two. Rounding
is done once, in exact arithmetic on the numerator and the denominator of a ratio, to the
nearest double with ties to the even significand.

## Main definitions

* `Double`: a finite binary64 number
* `Double.ofRatio`: the nearest double of a ratio, if it is finite
* `Double.ofDecimal?`, `Double.ofScaledDecimal?`: the two ways in which decimals are read
* `Double.shortest`: the shortest decimal that reads back
* `Double.text`: the written number
-/

namespace CrdSynthesis

/-- The number `± significand · 2 ^ exponent`. In canonical form the exponent is at least
`-1074`, and it is exactly that where the significand is below `2 ^ 52`. -/
structure Double where
  negative : Bool
  significand : Nat
  exponent : Int
  deriving DecidableEq

namespace Double

/-- The least exponent of a double. -/
def minExponent : Int := -1074

/-- The greatest exponent of a double. -/
def maxExponent : Int := 971

/-- One more than the greatest significand, `2 ^ 53`. -/
def significandBound : Nat := Nat.pow 2 53

/-- Zero, which has a sign. -/
def zero (negative : Bool) : Double := ⟨negative, 0, minExponent⟩

/-- The number is zero, of either sign. -/
def isZero (x : Double) : Bool := x.significand == 0

/-- The integer nearest to `num / den`; a half goes to the even neighbour. -/
def roundHalfEven (num den : Nat) : Nat :=
  let quotient := num / den
  let twice := 2 * (num % den)
  if twice < den then quotient
  else if den < twice then quotient + 1
  else quotient + quotient % 2

/-- The ratio `num / den` divided by `2 ^ exponent`. -/
def unscale (num den : Nat) (exponent : Int) : Nat × Nat :=
  if 0 ≤ exponent then (num, den * Nat.pow 2 exponent.toNat)
  else (num * Nat.pow 2 (-exponent).toNat, den)

/-- The double nearest to `num / den`, or `none` beyond the greatest double. -/
def ofRatio (negative : Bool) (num den : Nat) : Option Double :=
  if num = 0 then some (zero negative)
  else
    let low : Int := (num.log2 : Int) - (den.log2 : Int) - 53
    let (a, b) := unscale num den low
    let fitting := if a / b < significandBound then low else low + 1
    let exponent := max fitting minExponent
    let (a, b) := unscale num den exponent
    let significand := roundHalfEven a b
    let x : Double :=
      if significand = significandBound then ⟨negative, significandBound / 2, exponent + 1⟩
      else ⟨negative, significand, exponent⟩
    if maxExponent < x.exponent then none else some x

/-- The numerator and the denominator of the magnitude. -/
def ratio (x : Double) : Nat × Nat :=
  if 0 ≤ x.exponent then (x.significand * Nat.pow 2 x.exponent.toNat, 1)
  else (x.significand, Nat.pow 2 (-x.exponent).toNat)

/-- The double nearest to an integer; beyond the greatest double it is zero. -/
def ofInt (i : Int) : Double :=
  (ofRatio (i < 0) i.natAbs 1).getD (zero (i < 0))

/-- The rounded product, if it is finite. -/
def mul (x y : Double) : Option Double :=
  ofRatio (x.negative != y.negative) (x.ratio.1 * y.ratio.1) (x.ratio.2 * y.ratio.2)

/-- The rounded quotient, if it is finite; the divisor is not zero. -/
def div (x y : Double) : Option Double :=
  ofRatio (x.negative != y.negative) (x.ratio.1 * y.ratio.2) (x.ratio.2 * y.ratio.1)

/-! ## Reading decimals

The number `± coefficient · 10 ^ exponent` as a double, in the two ways in which the formats of
this library read it.
-/

/-- The number of decimal digits. -/
def digitCount (n : Nat) : Nat := (Nat.toDigits 10 n).length

/-- The double nearest to `coefficient · 10 ^ exponent`, or `none` beyond the greatest double.
Magnitudes that are certainly too great or certainly below half of the least double are
decided by the number of digits alone. -/
def ofDecimal? (negative : Bool) (coefficient : Nat) (exponent : Int) : Option Double :=
  let magnitude : Int := (digitCount coefficient : Int) + exponent
  if coefficient = 0 then some (zero negative)
  else if 320 < magnitude then none
  else if magnitude < -340 then some (zero negative)
  else if 0 ≤ exponent then ofRatio negative (coefficient * Nat.pow 10 exponent.toNat) 1
  else ofRatio negative coefficient (Nat.pow 10 (-exponent).toNat)

/-- The double nearest to `10 ^ n`, for `n` at most 308. -/
def powerOfTen (n : Nat) : Double :=
  (ofRatio false (Nat.pow 10 n) 1).getD (zero false)

/-- The greatest power of ten below the greatest double. -/
def greatestPower : Nat := 308

/-- `x / 10 ^ (308 · count)`, by as many quotients. -/
def divGreatestPower (x : Double) : Nat → Option Double
  | 0 => some x
  | count + 1 => (x.div (powerOfTen greatestPower)).bind (divGreatestPower · count)

/-- `x / 10 ^ n`, by quotients by rounded powers of ten of at most `greatestPower`. Three
quotients by the greatest leave zero of any double, so no more than three are needed. -/
def divPowerOfTen (x : Double) (n : Nat) : Option Double :=
  let steps := (n - 1) / greatestPower
  (x.divGreatestPower (min steps 3)).bind fun y =>
    y.div (powerOfTen (n - steps * greatestPower))

/-- `x · 10 ^ n`, by one product with a rounded power of ten. -/
def mulPowerOfTen (x : Double) (n : Nat) : Option Double :=
  if n ≤ greatestPower then x.mul (powerOfTen n)
  else if x.isZero then some x
  else none

/-- The coefficient rounded to a double and then scaled, with a rounding at each step;
`none` beyond the greatest double. -/
def ofScaledDecimal? (negative : Bool) (coefficient : Nat) (exponent : Int) : Option Double :=
  let x := ofInt coefficient
  let scaled :=
    if 0 ≤ exponent then x.mulPowerOfTen exponent.toNat
    else x.divPowerOfTen (-exponent).toNat
  scaled.map fun y => { y with negative := negative }

/-! ## The shortest decimal

A decimal reads back as a double when it lies in the interval of numbers that round to it; the
ends belong to the interval when the significand is even. The shortest decimal has the fewest
digits of those that read back, and of several with that many digits it is the nearest to the
double.
-/

/-- The number `0.digits · 10 ^ point`, the digits as one natural number without
trailing zeros. -/
structure Digits where
  digits : Nat
  point : Int
  deriving DecidableEq

/-- `num / den < 10 ^ n`. -/
def ltPower (num den : Nat) (n : Int) : Bool :=
  if 0 ≤ n then num < den * Nat.pow 10 n.toNat else num * Nat.pow 10 (-n).toNat < den

/-- The least `n` with `num / den < 10 ^ n`, next to an estimate by the logarithm. -/
def decimalPoint (num den : Nat) : Int :=
  let bits : Int := (num.log2 : Int) - (den.log2 : Int)
  let guess := bits * 1233 / 4096
  if ltPower num den (guess - 1) then guess - 1
  else if ltPower num den guess then guess
  else if ltPower num den (guess + 1) then guess + 1
  else guess + 2

/-- The magnitude in quarters of a unit in the last place, with the two ends of the interval
that rounds to it, and the unit's exponent. -/
def quarters (x : Double) : Nat × Nat × Nat × Int :=
  let v := 4 * x.significand
  let isPower := x.significand = significandBound / 2 ∧ minExponent < x.exponent
  (if isPower then v - 1 else v - 2, v, v + 2, x.exponent - 2)

/-- `n · 2 ^ exponent` in units of `10 ^ step`, as a ratio. -/
def inPowers (n : Nat) (exponent step : Int) : Nat × Nat :=
  let (a, b) :=
    if 0 ≤ exponent then (n * Nat.pow 2 exponent.toNat, 1)
    else (n, Nat.pow 2 (-exponent).toNat)
  if 0 ≤ step then (a, b * Nat.pow 10 step.toNat) else (a * Nat.pow 10 (-step).toNat, b)

/-- The point of the grid `10 ^ step` that reads back as `x` and is nearest to it. -/
def gridPoint? (x : Double) (step : Int) : Option Nat :=
  let (low, v, high, exponent) := x.quarters
  let (a, b) := inPowers v exponent step
  let (lowNum, lowDen) := inPowers low exponent step
  let (highNum, highDen) := inPowers high exponent step
  let even := x.significand % 2 == 0
  let inside (q : Nat) : Bool :=
    (lowNum < q * lowDen || (even && lowNum == q * lowDen)) &&
      (q * highDen < highNum || (even && q * highDen == highNum))
  let below := a / b
  let nearest := roundHalfEven a b
  let other := if nearest = below then below + 1 else below
  if inside nearest then some nearest
  else if inside other then some other
  else none

/-- The decimal with the fewest digits, of `count` digits or more; `fuel` bounds how many
more digits are tried. -/
def shortestFrom (x : Double) (point : Int) : Nat → Nat → Digits
  | 0, _ => ⟨0, point⟩
  | fuel + 1, count =>
    match x.gridPoint? (point - count) with
    | none => shortestFrom x point fuel (count + 1)
    | some q =>
      if Nat.pow 10 count ≤ q then ⟨q / 10, point + 1⟩ else ⟨q, point⟩

/-- The shortest decimal of the magnitude of a double other than zero. -/
def shortest (x : Double) : Digits :=
  x.shortestFrom (decimalPoint x.ratio.1 x.ratio.2) 18 1

/-! ## Writing

A double is written with its shortest digits. Between the fifth place after the point and the
sixteenth before it the notation is positional and always has a point; beyond, it is scientific.
The formats differ in one mark.
-/

/-- The decisions of a format: the mark before a positive exponent. -/
structure Format where
  positiveExponent : String

/-- JSON marks a positive exponent with its sign. -/
def jsonFormat : Format := ⟨"e+"⟩

/-- YAML leaves the sign of a positive exponent out. -/
def yamlFormat : Format := ⟨"e"⟩

/-- As many zeros. -/
def zeros (n : Nat) : String := String.ofList (List.replicate n '0')

/-- A number without its sign: digits before a point, around it or after it, or with
an exponent. -/
def magnitudeText (format : Format) (d : Digits) : String :=
  let digits := Nat.toDigits 10 d.digits
  let count := digits.length
  let point := d.point
  if (count : Int) ≤ point ∧ point ≤ 16 then
    String.ofList digits ++ zeros (point.toNat - count) ++ ".0"
  else if 0 < point ∧ point ≤ 16 then
    String.ofList (digits.take point.toNat) ++ "." ++ String.ofList (digits.drop point.toNat)
  else if -5 < point ∧ point ≤ 0 then
    "0." ++ zeros (-point).toNat ++ String.ofList digits
  else
    let lead := String.ofList (digits.take 1)
    let fraction := if count ≤ 1 then "" else "." ++ String.ofList (digits.drop 1)
    let exponent := point - 1
    let mark := if 0 ≤ exponent then format.positiveExponent else "e-"
    lead ++ fraction ++ mark ++ toString exponent.natAbs

/-- The written number; zero keeps its sign. -/
def text (format : Format) (x : Double) : String :=
  let magnitude := if x.isZero then "0.0" else magnitudeText format x.shortest
  if x.negative then "-" ++ magnitude else magnitude

end Double

end CrdSynthesis
