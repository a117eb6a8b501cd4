/-!
# Doubles

Finite doubles as exact binary fractions, and the decimals that they are written as.
-/

namespace WarningSweep

/-! ## Binary fractions

A finite double is a natural number times a power of two. Quotients are rounded to the nearest such
number of at most 53 bits, a tie going to the even mantissa, and are written in decimal from their
exact value.
-/

/-- The number `mantissa * 2 ^ exponent`. -/
structure Dyadic where
  mantissa : Nat
  exponent : Int
  deriving DecidableEq, Repr, Inhabited

/-- The natural number nearest to `num / den`, a tie going to the even one. -/
def roundHalfEven (num den : Nat) : Nat :=
  let quotient := num / den
  let twice := 2 * (num % den)
  if den < twice ∨ (twice = den ∧ quotient % 2 = 1) then quotient + 1 else quotient

namespace Dyadic

/-- Doubles have 53 bits, and none of them stands below `2 ^ leastExponent`. -/
def precision : Nat := 53

def leastExponent : Int := -1074

def units (num den : Nat) (exponent : Int) : Nat :=
  if 0 ≤ exponent then roundHalfEven num (den * Nat.pow 2 exponent.toNat)
  else roundHalfEven (num * Nat.pow 2 (-exponent).toNat) den

/-- The double nearest to `num / den`. The exponent is first guessed from the bit lengths, which is
at most one too small, and a mantissa of one bit too many is rounded again in the next unit. -/
def ofRatio (num den : Nat) : Dyadic :=
  if num = 0 ∨ den = 0 then ⟨0, 0⟩
  else
    let guess : Int := (num.log2 : Int) - (den.log2 : Int) - precision
    let exponent := max guess leastExponent
    let mantissa := units num den exponent
    if mantissa < Nat.pow 2 precision then ⟨mantissa, exponent⟩
    else ⟨units num den (exponent + 1), exponent + 1⟩

/-- Numerator and denominator of the exact value. -/
def ratio (x : Dyadic) : Nat × Nat :=
  if 0 ≤ x.exponent then (x.mantissa * Nat.pow 2 x.exponent.toNat, 1)
  else (x.mantissa, Nat.pow 2 (-x.exponent).toNat)

def scale (x : Dyadic) (factor : Nat) : Dyadic := ofRatio (x.ratio.1 * factor) x.ratio.2

/-- The exact value in tenths, rounded, a tie going to the even tenth. -/
def tenths (x : Dyadic) : Nat := roundHalfEven (x.ratio.1 * 10) x.ratio.2

end Dyadic

/-- A share as a percentage with one decimal: `part / whole` is rounded to a double, multiplied by a
hundred, rounded again, and then shown to the nearest tenth. -/
def percentage (part whole : Nat) : String :=
  let tenths := ((Dyadic.ofRatio part whole).scale 100).tenths
  s!"{tenths / 10}.{tenths % 10}"

/-! ## Shortest decimals

A double is written with the fewest decimal digits that read back as the same double, and of those
with the digits nearest to its value. Exponents from -4 to 15 are written positionally.
-/

def floatParts (x : Float) : Bool × Dyadic :=
  let bits : Nat := x.toBits.toNat
  let fraction : Nat := bits % Nat.pow 2 52
  let biased : Nat := bits / Nat.pow 2 52 % Nat.pow 2 11
  let magnitude : Dyadic :=
    if biased = 0 then ⟨fraction, -1074⟩ else ⟨Nat.pow 2 52 + fraction, (biased : Int) - 1075⟩
  (Nat.pow 2 63 ≤ bits, magnitude)

/-- The digits `digits`, as a natural number, times `10 ^ exponent`. -/
structure Decimal where
  digits : Nat
  exponent : Int
  deriving DecidableEq, Repr, Inhabited

namespace Decimal

structure Ratio where
  num : Nat
  den : Nat

def Ratio.le (x y : Ratio) : Bool := x.num * y.den ≤ y.num * x.den

def Ratio.lt (x y : Ratio) : Bool := x.num * y.den < y.num * x.den

def ratio (d : Decimal) : Ratio :=
  if 0 ≤ d.exponent then ⟨d.digits * Nat.pow 10 d.exponent.toNat, 1⟩
  else ⟨d.digits, Nat.pow 10 (-d.exponent).toNat⟩

def Ratio.ofDyadic (x : Dyadic) : Ratio := ⟨x.ratio.1, x.ratio.2⟩

/-- The reals that round to a double: both ends, which belong to them when the mantissa is even. -/
def roundsTo (x : Dyadic) (y : Ratio) : Bool :=
  let upper := Ratio.ofDyadic ⟨2 * x.mantissa + 1, x.exponent - 1⟩
  let lower :=
    if x.mantissa = Nat.pow 2 52 ∧ Dyadic.leastExponent < x.exponent then
      Ratio.ofDyadic ⟨4 * x.mantissa - 1, x.exponent - 2⟩
    else Ratio.ofDyadic ⟨2 * x.mantissa - 1, x.exponent - 1⟩
  if x.mantissa % 2 = 0 then lower.le y && y.le upper else lower.lt y && y.lt upper

/-- The greatest `k` with `10 ^ k ≤ x`, searched upwards from `least`. -/
def magnitudeFrom (x : Ratio) : (rounds : Nat) → (least : Int) → Int
  | 0, least => least
  | rounds + 1, least =>
    if (Decimal.ratio ⟨1, least + 1⟩).le x then magnitudeFrom x rounds (least + 1) else least

/-- The two neighbours of `x` on the grid of multiples of `10 ^ exponent`. -/
def neighbours (x : Ratio) (exponent : Int) : Nat × Nat :=
  let below :=
    if 0 ≤ exponent then x.num / (x.den * Nat.pow 10 exponent.toNat)
    else x.num * Nat.pow 10 (-exponent).toNat / x.den
  (below, below + 1)

/-- Twice the distance of `x` above the lower neighbour is compared with the grid's unit. -/
def upperIsNearer (x : Ratio) (below : Nat) (exponent : Int) : Bool :=
  let middle := Decimal.ratio ⟨2 * below + 1, exponent⟩
  let twice : Ratio := ⟨2 * x.num, x.den⟩
  middle.lt twice || (middle.le twice && below % 2 = 1)

/-- The nearest decimal with at most `count` digits, `count + 1` digits, … that reads back as
`x`. -/
def shortestFrom (x : Dyadic) (magnitude : Int) : (rounds count : Nat) → Decimal
  | 0, _ => ⟨0, 0⟩
  | rounds + 1, count =>
    let exact := Ratio.ofDyadic x
    let exponent := magnitude - count + 1
    let (below, above) := neighbours exact exponent
    let low : Decimal := ⟨below, exponent⟩
    let high : Decimal := ⟨above, exponent⟩
    match roundsTo x low.ratio, roundsTo x high.ratio with
    | true, true => if upperIsNearer exact below exponent then high else low
    | true, false => low
    | false, true => high
    | false, false => shortestFrom x magnitude rounds (count + 1)

def shortest (x : Dyadic) : Decimal :=
  if x.mantissa = 0 then ⟨0, 0⟩
  else shortestFrom x (magnitudeFrom (Ratio.ofDyadic x) 640 (-330)) 18 1

/-- The digits without the zeros that end them, and the power of ten of the first digit. -/
def scientific (d : Decimal) : List Char × Int :=
  let all := (toString d.digits).toList
  let kept := (all.reverse.dropWhile (· = '0')).reverse
  (if kept = [] then ['0'] else kept, d.exponent + all.length - 1)

end Decimal

/-- Where the decimal form changes and how its exponent is written. -/
structure DecimalFormat where
  leastPositional : Int
  leastScientific : Int
  exponentWidth : Nat

namespace DecimalFormat

def pad (width : Nat) (s : String) : String :=
  String.ofList (List.replicate (width - s.length) '0') ++ s

def exponentText (format : DecimalFormat) (exponent : Int) : String :=
  (if exponent < 0 then "e-" else "e+") ++ pad format.exponentWidth (toString exponent.natAbs)

/-- The text of the number with these digits, the first of which stands at `10 ^ exponent`. -/
def write (format : DecimalFormat) (digits : List Char) (exponent : Int) : String :=
  if exponent < format.leastPositional ∨ format.leastScientific ≤ exponent then
    let fraction := digits.drop 1
    String.ofList (digits.take 1 ++ (if fraction = [] then [] else '.' :: fraction))
      ++ format.exponentText exponent
  else if exponent < 0 then
    String.ofList (['0', '.'] ++ List.replicate (-exponent - 1).toNat '0' ++ digits)
  else
    let whole := digits.take (exponent.toNat + 1)
    let fraction := digits.drop (exponent.toNat + 1)
    String.ofList (whole ++ List.replicate (exponent.toNat + 1 - digits.length) '0' ++ ['.']
      ++ (if fraction = [] then ['0'] else fraction))

end DecimalFormat

/-- Values are shown positionally from `0.0001` up to below `10 ^ 16`, and an exponent has a sign
and at least two digits. -/
def valueFormat : DecimalFormat := ⟨-4, 16, 2⟩

def floatText (x : Float) : String :=
  if x.isNaN then "nan"
  else if x.isInf then (if x < 0 then "-inf" else "inf")
  else
    let (negative, magnitude) := floatParts x
    let (digits, exponent) := (Decimal.shortest magnitude).scientific
    (if negative then "-" else "") ++ valueFormat.write digits exponent

end WarningSweep
