import Schematic.Text.Property

namespace Schematic

structure Binary64 where
  bits : UInt64
deriving DecidableEq, Inhabited, Repr

/-- `numerator / denominator`, with the sign apart. -/
structure Ratio where
  negative : Bool
  numerator : Nat
  denominator : Nat
deriving DecidableEq, Inhabited, Repr

namespace Ratio

def isZero (r : Ratio) : Bool := r.numerator = 0

def ofInt (n : Int) : Ratio := ⟨n < 0, n.natAbs, 1⟩

/-- The integer that `r` stands for, if it is one. -/
def toInt? (r : Ratio) : Option Int :=
  if r.denominator = 0 || r.numerator % r.denominator ≠ 0 then none
  else some (if r.negative then -(r.numerator / r.denominator : Nat) else (r.numerator / r.denominator : Nat))

end Ratio

namespace Binary64

def negative (x : Binary64) : Bool := x.bits.toNat / Nat.pow 2 63 = 1

def exponentField (x : Binary64) : Nat := x.bits.toNat / Nat.pow 2 52 % Nat.pow 2 11

def fraction (x : Binary64) : Nat := x.bits.toNat % Nat.pow 2 52

def isFinite (x : Binary64) : Bool := x.exponentField ≠ 2047

def isInfinite (x : Binary64) : Bool := x.exponentField = 2047 && x.fraction = 0

def isNaN (x : Binary64) : Bool := x.exponentField = 2047 && x.fraction ≠ 0

/-- The significand of a finite number, which counts units of `2 ^ exponent`. -/
def significand (x : Binary64) : Nat :=
  if x.exponentField = 0 then x.fraction else Nat.pow 2 52 + x.fraction

def exponent (x : Binary64) : Int :=
  if x.exponentField = 0 then -1074 else (x.exponentField : Int) - 1075

def isZero (x : Binary64) : Bool := x.isFinite && x.significand = 0

/-- `n * 2 ^ e` as a ratio. -/
def scaled (negative : Bool) (n : Nat) (e : Int) : Ratio :=
  if 0 ≤ e then ⟨negative, n * Nat.pow 2 e.toNat, 1⟩ else ⟨negative, n, Nat.pow 2 (-e).toNat⟩

/-- The number that a finite `x` stands for. -/
def toRatio (x : Binary64) : Ratio := scaled x.negative x.significand x.exponent

/-- The integer that `x` stands for, if it is one. -/
def toInt? (x : Binary64) : Option Int := if x.isFinite then x.toRatio.toInt? else none

def signBit (negative : Bool) : Nat := if negative then Nat.pow 2 63 else 0

def infinity (negative : Bool) : Binary64 := ⟨UInt64.ofNat (signBit negative + 0x7ff * Nat.pow 2 52)⟩

/-- The number that is none; `tag` tells one from another and is never shown. -/
def nan (tag : Nat) : Binary64 := ⟨UInt64.ofNat (0x7ff8 * Nat.pow 2 48 + tag % Nat.pow 2 51)⟩

/-- The integer nearest to `n / d`, a half going to the even neighbour. -/
def roundHalfEven (n d : Nat) : Nat :=
  let q := n / d
  let r := n % d
  if 2 * r < d || (2 * r = d && q % 2 = 0) then q else q + 1

/-- The exponent of the power of two at or below `n / d`, for positive `n` and `d`. -/
def log2Ratio (n d : Nat) : Int :=
  let k : Int := (Nat.log2 n : Int) - Nat.log2 d
  if (if 0 ≤ k then n < d * Nat.pow 2 k.toNat else n * Nat.pow 2 (-k).toNat < d) then k - 1 else k

def ofRatio (r : Ratio) : Binary64 :=
  if r.numerator = 0 || r.denominator = 0 then ⟨UInt64.ofNat (signBit r.negative)⟩
  else
    let e := max (log2Ratio r.numerator r.denominator - 52) (-1074)
    let q := if 0 ≤ e then roundHalfEven r.numerator (r.denominator * Nat.pow 2 e.toNat)
      else roundHalfEven (r.numerator * Nat.pow 2 (-e).toNat) r.denominator
    let bits := (e + 1074).toNat * Nat.pow 2 52 + q
    if 0x7ff * Nat.pow 2 52 ≤ bits then infinity r.negative
    else ⟨UInt64.ofNat (signBit r.negative + bits)⟩

def ofInt (n : Int) : Binary64 := ofRatio (.ofInt n)

/-- The number nearest to `digits * 10 ^ exponent`. Exponents far outside the range of the format
are cut off before a power of ten is formed. -/
def ofDecimal (negative : Bool) (digits : Nat) (exponent : Int) : Binary64 :=
  if digits = 0 then ofRatio ⟨negative, 0, 1⟩
  else
    let size : Int := (Nat.toDigits 10 digits).length
    if size + exponent > 400 then infinity negative
    else if size + exponent < -400 then ofRatio ⟨negative, 0, 1⟩
    else if 0 ≤ exponent then ofRatio ⟨negative, digits * Nat.pow 10 exponent.toNat, 1⟩
    else ofRatio ⟨negative, digits, Nat.pow 10 (-exponent).toNat⟩

end Binary64
end Schematic
