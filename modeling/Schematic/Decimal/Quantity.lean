import Schematic.Decimal.Binary64

namespace Schematic

/-- `ratio * 10 ^ tens`. -/
structure Amount where
  ratio : Ratio
  tens : Int
deriving DecidableEq, Inhabited, Repr

namespace Amount

def ofRatio (r : Ratio) : Amount := ⟨r, 0⟩

def ofInt (n : Int) : Amount := ofRatio (.ofInt n)

def isZero (a : Amount) : Bool := a.ratio.isZero

def toRatio (a : Amount) : Ratio :=
  { a.ratio with
    numerator := a.ratio.numerator * Nat.pow 10 a.tens.toNat
    denominator := a.ratio.denominator * Nat.pow 10 (-a.tens).toNat }

def size (n : Nat) : Int := (Nat.toDigits 10 n).length

/-- Equality of the numbers that two amounts stand for. The powers of ten are multiplied in only where
both sides have the same number of digits before the point. -/
def same (a b : Amount) : Bool :=
  let left := a.ratio.numerator * b.ratio.denominator
  let right := b.ratio.numerator * a.ratio.denominator
  if left = 0 || right = 0 then left = 0 && right = 0
  else if a.ratio.negative ≠ b.ratio.negative || size left + a.tens ≠ size right + b.tens then false
  else left * Nat.pow 10 (a.tens - b.tens).toNat = right * Nat.pow 10 (b.tens - a.tens).toNat

end Amount

inductive Quantity where
  | finite (a : Amount)
  | infinite (negative : Bool)
  /-- A complex number with an imaginary part that is not zero. -/
  | complex (re im : Binary64)
  /-- No number. One that signals cannot even be compared. -/
  | nan (signals : Bool)
deriving DecidableEq, Inhabited, Repr

namespace Quantity

def ofFloat (x : Binary64) : Quantity :=
  if x.isFinite then finite (.ofRatio x.toRatio)
  else if x.isNaN then nan false
  else infinite x.negative

def sameReal : Quantity → Quantity → Bool
  | finite a, finite b => a.same b
  | infinite a, infinite b => a = b
  | _, _ => false

def same : Quantity → Quantity → Bool
  | complex re im, complex re' im' =>
    (ofFloat re).sameReal (ofFloat re') && (ofFloat im).sameReal (ofFloat im')
  | a, b => a.sameReal b

def signals : Quantity → Bool
  | nan signals => signals
  | _ => false

def isZero : Quantity → Bool
  | finite a => a.isZero
  | _ => false

end Quantity
end Schematic
