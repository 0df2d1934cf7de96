import Schematic.Decimal.Binary64

/-! Of all decimals that round to a given number, the one with the fewest digits is chosen, and of those the
nearest. `shortest` finds it by testing, for one digit, two digits and so on, the two points of that decimal
grid next to the number. `Layout` then says how the digits are written. -/
namespace Schematic

namespace Binary64

/-- The ends of the interval of reals that round to a positive finite `x`, in units of a quarter
of its last place: a power of two is nearer to the number below it. -/
def lowerEnd (x : Binary64) : Nat :=
  4 * x.significand - (if x.fraction = 0 && 1 < x.exponentField then 1 else 2)

def upperEnd (x : Binary64) : Nat := 4 * x.significand + 2

/-- Compare `digits * 10 ^ place` with `quarters` quarters of the last place of `x`. -/
def compareGrid (x : Binary64) (digits : Nat) (place : Int) (quarters : Nat) : Ordering :=
  let e := x.exponent - 2
  let left := digits * Nat.pow 10 place.toNat * Nat.pow 2 (-e).toNat
  let right := quarters * Nat.pow 2 e.toNat * Nat.pow 10 (-place).toNat
  compare left right

/-- Whether the decimal `digits * 10 ^ place` rounds to `x`. -/
def readsBack (x : Binary64) (digits : Nat) (place : Int) : Bool :=
  let low := compareGrid x digits place x.lowerEnd
  let high := compareGrid x digits place x.upperEnd
  let even := x.significand % 2 = 0
  (low = .gt || (low = .eq && even)) && (high = .lt || (high = .eq && even))

/-- The digits of `x` cut off at `place`. -/
def cutOff (x : Binary64) (place : Int) : Nat :=
  (x.significand * Nat.pow 2 x.exponent.toNat * Nat.pow 10 (-place).toNat) /
    (Nat.pow 2 (-x.exponent).toNat * Nat.pow 10 place.toNat)

/-- The nearer of the two grid points next to `x` that read back, if one does. -/
def onGrid? (x : Binary64) (place : Int) : Option Nat :=
  let below := x.cutOff place
  match x.readsBack below place, x.readsBack (below + 1) place with
  | true, true =>
    match compareGrid x (2 * below + 1) place (8 * x.significand) with
    | .lt => some (below + 1)
    | .gt => some below
    | .eq => some (if below % 2 = 0 then below else below + 1)
  | true, false => some below
  | false, true => some (below + 1)
  | false, false => none

/-- The place of the first digit of a positive finite `x`. -/
def firstPlace (x : Binary64) : Int :=
  let r := x.toRatio
  let guess : Int := (Nat.toDigits 10 r.numerator).length - (Nat.toDigits 10 r.denominator).length
  if x.cutOff guess = 0 then guess - 1 else guess

/-- Try the grids from `place` downwards, at most `tries` of them. -/
def shortestFrom (x : Binary64) (place : Int) : (tries : Nat) → Nat × Int
  | 0 => (x.cutOff place, place)
  | tries + 1 =>
    match x.onGrid? place with
    | some digits => (digits, place)
    | none => shortestFrom x (place - 1) tries

/-- Digits and place of the shortest decimal that reads back as a positive finite `x`. Seventeen
digits always suffice. -/
def shortest (x : Binary64) : Nat × Int := x.shortestFrom x.firstPlace 18

end Binary64

structure Layout where
  /-- The exponents of the first digit, from the least to just below the last, that are written without
  an exponent. -/
  positionalFrom : Int
  positionalBelow : Int
  /-- Whether a whole number keeps a point and a zero. -/
  keepsPoint : Bool

namespace Layout

/-- The exponent after the letter e: a sign and at least two digits. -/
def exponentText (e : Int) : Text :=
  let digits := Text.ofNat e.natAbs
  let sign : Text := if e < 0 then "-" else "+"
  "e" ++ sign ++ (if digits.length < 2 then "0" ++ digits else digits)

def zeros (count : Nat) : Text := List.replicate count (CodePoint.char '0')

/-- The digits `digits` of which the first stands for `10 ^ first`. -/
def positional (l : Layout) (digits : Text) (first : Int) : Text :=
  if first < 0 then
    "0." ++ zeros (-first - 1).toNat ++ digits
  else
    let whole := first.toNat + 1
    if digits.length ≤ whole then
      let tail : Text := if l.keepsPoint then ".0" else ""
      digits ++ zeros (whole - digits.length) ++ tail
    else digits.take whole ++ "." ++ digits.drop whole

def withExponent (digits : Text) (first : Int) : Text :=
  digits.take 1 ++ (if digits.length ≤ 1 then ([] : Text) else "." ++ digits.drop 1) ++ exponentText first

def withoutTrailingZeros (digits : Text) : Text :=
  (digits.reverse.dropWhile (· = CodePoint.char '0')).reverse

def writeSize (l : Layout) (x : Binary64) : Text :=
  if x.isInfinite then "inf"
  else if x.isZero then l.positional "0" 0
  else
    let (n, place) := x.shortest
    let all := Text.ofNat n
    let first := place + all.length - 1
    let digits := withoutTrailingZeros all
    if l.positionalFrom ≤ first && first < l.positionalBelow then l.positional digits first
    else withExponent digits first

def write (l : Layout) (x : Binary64) : Text :=
  if x.isNaN then "nan"
  else if x.negative then "-" ++ l.writeSize x
  else l.writeSize x

/-- Numbers from 0.0001 to below 10 ^ 16 have no exponent, and a whole number ends in `.0`. -/
def plain : Layout := ⟨-4, 16, true⟩

/-- As `plain`, but a whole number is written without a point. -/
def bare : Layout := ⟨-4, 16, false⟩

end Layout

def Binary64.text (x : Binary64) : Text := Layout.plain.write x

end Schematic
