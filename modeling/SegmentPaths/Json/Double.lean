/-
Finite binary64 numbers in exact arithmetic: rounding a ratio to the nearest
one, a decimal literal as a product or quotient of two of them, and the fewest
digits that read back.
-/
namespace SegmentPaths

/-- The number `significand * 2 ^ exponent`, negated if asked. -/
structure Double where
  negative : Bool
  significand : Nat
  exponent : Int
deriving DecidableEq, Inhabited

namespace Double

/-- The least exponent of a binary64 number. -/
def minExponent : Int := -1074

/-- The greatest exponent of a finite binary64 number. -/
def maxExponent : Int := 971

/-- The least significand with all of its 53 binary digits. -/
def leastSignificand : Nat := 4503599627370496

/-- The number zero. -/
def zero : Double := ⟨false, 0, minExponent⟩

/-- The quotient of two naturals, a half going to the even neighbour. -/
def roundedQuotient (num den : Nat) : Nat :=
  let quotient := num / den
  let twice := 2 * (num % den)
  if den < twice ∨ (twice = den ∧ quotient % 2 = 1) then quotient + 1 else quotient

/-- The ratio `num / den` over `2 ^ exponent`, as numerator and denominator. -/
def scaled (num den : Nat) (exponent : Int) : Nat × Nat :=
  if 0 ≤ exponent then (num, den * Nat.pow 2 exponent.toNat)
  else (num * Nat.pow 2 (-exponent).toNat, den)

/-- The nonnegative binary64 number nearest to a ratio, with ties to an even
significand; nothing when that is beyond the greatest one. -/
def nearest? (num den : Nat) : Option Double :=
  if num = 0 then some zero
  else
    let guess : Int := Int.ofNat num.log2 - Int.ofNat den.log2 - 53
    let exponent :=
      let (top, bottom) := scaled num den guess
      if leastSignificand * 2 ≤ top / bottom then guess + 1 else guess
    let exponent := max exponent minExponent
    let (top, bottom) := scaled num den exponent
    let significand := roundedQuotient top bottom
    let (significand, exponent) :=
      if significand = leastSignificand * 2 then (leastSignificand, exponent + 1)
      else (significand, exponent)
    if maxExponent < exponent then none else some ⟨false, significand, exponent⟩

/-- The magnitude as numerator and denominator. -/
def ratio (x : Double) : Nat × Nat :=
  if 0 ≤ x.exponent then (x.significand * Nat.pow 2 x.exponent.toNat, 1)
  else (x.significand, Nat.pow 2 (-x.exponent).toNat)

def isZero (x : Double) : Bool := x.significand == 0

/-- The rounded product of two magnitudes. -/
def times? (x y : Double) : Option Double :=
  nearest? (x.ratio.1 * y.ratio.1) (x.ratio.2 * y.ratio.2)

/-- The rounded quotient of two magnitudes. -/
def over? (x y : Double) : Option Double :=
  nearest? (x.ratio.1 * y.ratio.2) (x.ratio.2 * y.ratio.1)

/-- The binary64 number nearest to a power of ten. -/
def powerOfTen? (n : Nat) : Option Double := nearest? (Nat.pow 10 n) 1

/-- The greatest power of ten that a decimal literal is scaled by at once. -/
def greatestPower : Nat := 308

/-- A rounded significand below `2 ^ 64` divided by `10 ^ amount`, in rounded
steps of at most `10 ^ 308`; two such steps leave nothing of it. -/
def scaledDown? (x : Double) (amount : Nat) : Option Double :=
  if amount ≤ greatestPower then
    (powerOfTen? amount).bind x.over?
  else if amount ≤ 2 * greatestPower then
    ((powerOfTen? greatestPower).bind x.over?).bind (fun next =>
      (powerOfTen? (amount - greatestPower)).bind next.over?)
  else some zero

/-- A rounded significand multiplied by `10 ^ amount`. -/
def scaledUp? (x : Double) (amount : Nat) : Option Double :=
  if amount ≤ greatestPower then
    (powerOfTen? amount).bind x.times?
  else if x.isZero then some x
  else none

/-- The number a decimal literal stands for: its significand is rounded first,
and the product with the power of ten, or the quotient by it, is rounded again.
Nothing when it is beyond the greatest number. -/
def ofDecimal? (negative : Bool) (significand : Nat) (exponent : Int) : Option Double :=
  ((nearest? significand 1).bind (fun x =>
    if 0 ≤ exponent then x.scaledUp? exponent.toNat else x.scaledDown? (-exponent).toNat)).map
    (fun x => { x with negative := negative })

/-- Whether `point` lies among the ratios over four times the denominator that
round to the number; the ends belong to them when the significand is even. -/
def roundsTo (x : Double) (point : Nat) (unit : Nat) : Bool :=
  let below := if x.significand = leastSignificand ∧ minExponent < x.exponent then 1 else 2
  let low := (4 * x.significand - below) * unit
  let high := (4 * x.significand + 2) * unit
  if x.significand % 2 = 0 then low ≤ point && point ≤ high else low < point && point < high

/-- The multiple of `10 ^ k` that rounds to the number, if there is one; of two
the nearer, and of two equally near ones the even one. -/
def onGrid? (x : Double) (k : Int) : Option Nat :=
  -- Both sides are counted in quarters of `2 ^ exponent` over a common denominator.
  let unit := (if 0 ≤ x.exponent then Nat.pow 2 x.exponent.toNat else 1) *
    (if 0 ≤ k then 1 else Nat.pow 10 (-k).toNat)
  let step := 4 * (if 0 ≤ x.exponent then 1 else Nat.pow 2 (-x.exponent).toNat) *
    (if 0 ≤ k then Nat.pow 10 k.toNat else 1)
  let value := 4 * x.significand * unit
  let lower := value / step
  let lowerFits := lower ≠ 0 && x.roundsTo (lower * step) unit
  let upperFits := x.roundsTo ((lower + 1) * step) unit
  match lowerFits, upperFits with
  | false, false => none
  | true, false => some lower
  | false, true => some (lower + 1)
  | true, true =>
    let twice := 2 * (value - lower * step)
    if twice < step ∨ (twice = step ∧ lower % 2 = 0) then some lower else some (lower + 1)

/-- The coarsest decimal grid, going down from `10 ^ k`, with a point that
rounds to the number. -/
def coarsest (x : Double) (k : Int) : Nat → Nat × Int
  | 0 => (0, k)
  | steps + 1 =>
    match x.onGrid? k with
    | some digits => (digits, k)
    | none => coarsest x (k - 1) steps

/-- The fewest digits that read back, and the power of ten they count. -/
def shortest (x : Double) : Nat × Int := coarsest x 308 660

/-- The magnitudes from `10 ^ -5` up to `10 ^ 16` are written without an
exponent; `place` is the power of ten of the first digit. -/
def isPlain (place : Int) : Bool := -5 ≤ place && place < 16

/-- The magnitude as text: always with a fraction when it is plain, and with a
signed exponent otherwise. -/
def magnitudeChars (x : Double) : List Char :=
  if x.isZero then ['0', '.', '0']
  else
    let (count, power) := x.shortest
    let digits := Nat.toDigits 10 count
    let place := power + Int.ofNat digits.length - 1
    if isPlain place then
      if 0 ≤ power then digits ++ List.replicate power.toNat '0' ++ ['.', '0']
      else if 0 ≤ place then
        digits.take (place.toNat + 1) ++ '.' :: digits.drop (place.toNat + 1)
      else '0' :: '.' :: List.replicate (-place - 1).toNat '0' ++ digits
    else
      let mantissa := match digits with
        | first :: second :: rest => first :: '.' :: second :: rest
        | short => short
      let sign := if place < 0 then '-' else '+'
      mantissa ++ 'e' :: sign :: Nat.toDigits 10 place.natAbs

def chars (x : Double) : List Char :=
  if x.negative then '-' :: x.magnitudeChars else x.magnitudeChars

end Double

end SegmentPaths
