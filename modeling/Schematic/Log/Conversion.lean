import Schematic.Decimal.Shortest
import Schematic.Text.Quoted

namespace Schematic

/-- What a record holds under a name. Of what is neither a text nor a number, the class and the written form
are kept. -/
inductive Attribute where
  | text (t : Text)
  | whole (n : Int)
  | real (x : Binary64)
  | other (className written : Text)
deriving DecidableEq, Inhabited

inductive LineFailure where
  | unknownName (name : Text)
  | openName
  | openPlace
  | nothingLeft
  | sizeNotWhole
  | sizeTooBig (precision : Bool)
  | valueTooBig (precision : Bool)
  | precisionTooLarge
  | unknownLetter (letter : CodePoint) (position : Nat)
  | notReal (letter : CodePoint) (className : Text)
  | notWhole (letter : CodePoint) (className : Text)
  | notFloat (className : Text)
  | noCharacter
  | characterTooBig
  | infinityNotWhole
  | nanNotWhole
  | tooLargeForFloat
  | obstructed (why : Obstacle)
deriving DecidableEq

namespace LineFailure

def className : LineFailure → Text
  | unknownName _ | openName | openPlace | sizeTooBig _ | unknownLetter _ _ | nanNotWhole => "ValueError"
  | nothingLeft | sizeNotWhole | notReal _ _ | notWhole _ _ | notFloat _ | noCharacter => "TypeError"
  | valueTooBig _ | precisionTooLarge | characterTooBig | infinityNotWhole | tooLargeForFloat => "OverflowError"
  | obstructed why => why.className

def message : LineFailure → Text
  | unknownName name => "Formatting field not found in record: " ++ name.quoted
  | openName => "incomplete format key"
  | openPlace => "incomplete format"
  | nothingLeft => "not enough arguments for format string"
  | sizeNotWhole => "* wants int"
  | sizeTooBig precision => if precision then "precision too big" else "width too big"
  | valueTooBig precision =>
    "Python int too large to convert to C " ++ (if precision then ("int" : Text) else "ssize_t")
  | precisionTooLarge => "precision too large"
  | unknownLetter letter position =>
    "unsupported format character '" ++ [if 31 ≤ letter.toNat && letter.toNat ≤ 126 then letter else CodePoint.char '?'] ++
      "' (0x" ++ (Nat.toDigits 16 letter.toNat).map CodePoint.char ++ ") at index " ++ Text.ofNat position
  | notReal letter name => "%" ++ letter :: (" format: a real number is required, not " : Text) ++ name
  | notWhole letter name => "%" ++ letter :: (" format: an integer is required, not " : Text) ++ name
  | notFloat name => "must be real number, not " ++ name
  | noCharacter => "%c requires int or char"
  | characterTooBig => "%c arg not in range(0x110000)"
  | infinityNotWhole => "cannot convert float infinity to integer"
  | nanNotWhole => "cannot convert float NaN to integer"
  | tooLargeForFloat => "int too large to convert to float"
  | obstructed why => why.message

end LineFailure

namespace Attribute

def className : Attribute → Text
  | text _ => "str"
  | whole _ => "int"
  | real _ => "float"
  | other name _ => name

def written : Attribute → Text
  | text t => t.quoted
  | whole n => .ofInt n
  | real x => x.text
  | other _ t => t

def shown : Attribute → Text
  | text t => t
  | a => a.written

def escaped (a : Attribute) : Text :=
  a.written.flatMap fun c => if c.isAscii || c.obstacle?.isSome then [c] else Text.numbered c.toNat

def toWhole (letter : CodePoint) : Attribute → Except LineFailure Int
  | whole n => .ok n
  | real x =>
    if x.isNaN then .error .nanNotWhole
    else if x.isInfinite then .error .infinityNotWhole
    else
      let size := x.toRatio.numerator / x.toRatio.denominator
      .ok (if x.negative then -size else size)
  | a => .error (.notReal letter a.className)

def toFloat : Attribute → Except LineFailure Binary64
  | real x => .ok x
  | whole n => if (Binary64.ofInt n).isInfinite then .error .tooLargeForFloat else .ok (.ofInt n)
  | a => .error (.notFloat a.className)

def toCharacter : Attribute → Except LineFailure CodePoint
  | text [c] => .ok c
  | whole n => if 0 ≤ n && n < 0x110000 then .ok (.ofNat n.toNat) else .error .characterTooBig
  | _ => .error .noCharacter

end Attribute

structure Style where
  leftAligned : Bool := false
  signed : Bool := false
  spaced : Bool := false
  alternate : Bool := false
  zeroed : Bool := false
  width : Option Nat := none
  precision : Option Nat := none
deriving DecidableEq, Inhabited

structure Numerals where
  negative : Bool
  /-- What tells the base. -/
  lead : Text
  digits : Text

namespace Binary64

def roundedAt (x : Binary64) (place : Int) : Nat :=
  roundHalfEven (x.toRatio.numerator * Nat.pow 10 (-place).toNat) (x.toRatio.denominator * Nat.pow 10 place.toNat)

/-- The first digits of a finite number and the place of the first of them. -/
def leading (x : Binary64) (count : Nat) : Text × Int :=
  if x.isZero then (Layout.zeros count, 0)
  else
    let n := x.roundedAt (x.firstPlace + 1 - count)
    if n = Nat.pow 10 count then (.ofNat (n / 10), x.firstPlace + 1) else (.ofNat n, x.firstPlace)

end Binary64

namespace Style

def aligned (s : Style) (t : Text) : Text :=
  let blanks := List.replicate (s.width.getD 0 - t.length) (CodePoint.char ' ')
  if s.leftAligned then t ++ blanks else blanks ++ t

def cut (s : Style) (t : Text) : Text :=
  match s.precision with
  | some n => t.take n
  | none => t

def number (s : Style) (n : Numerals) : Text :=
  let sign : Text := if n.negative then "-" else if s.signed then "+" else if s.spaced then " " else []
  let zeros := if s.zeroed && !s.leftAligned then
    Layout.zeros (s.width.getD 0 - (sign.length + n.lead.length + n.digits.length)) else []
  s.aligned (sign ++ n.lead ++ zeros ++ n.digits)

def decimal (s : Style) (n : Int) : Except LineFailure Numerals :=
  match (Text.ofInt n).obstacle? with
  | some why => .error (.obstructed why)
  | none => .ok ⟨n < 0, [], Layout.zeros (s.precision.getD 0 - (Text.ofNat n.natAbs).length) ++ .ofNat n.natAbs⟩

def inBase (s : Style) (base : Nat) (lead : Text) (n : Int) : Numerals :=
  let digits : Text := (Nat.toDigits base n.natAbs).map CodePoint.char
  ⟨n < 0, if s.alternate then lead else [], Layout.zeros (s.precision.getD 0 - digits.length) ++ digits⟩

/-- The digits after a point. Without any, the point stands only in the alternate form. -/
def pointed (s : Style) (digits : Text) : Text := if digits.isEmpty && !s.alternate then [] else "." ++ digits

def fixedDigits (s : Style) (x : Binary64) : Text :=
  let after := s.precision.getD 6
  let digits : Text := .ofNat (x.roundedAt (-after))
  let all := Layout.zeros (after + 1 - digits.length) ++ digits
  all.take (all.length - after) ++ s.pointed (all.drop (all.length - after))

def exponentDigits (s : Style) (x : Binary64) : Text :=
  let (digits, first) := x.leading (s.precision.getD 6 + 1)
  digits.take 1 ++ s.pointed (digits.drop 1) ++ Layout.exponentText first

/-- As few digits as the precision allows, with an exponent if the number is very small or has more digits before the
point. -/
def generalDigits (s : Style) (x : Binary64) : Text :=
  let count := max (s.precision.getD 6) 1
  let (digits, first) := x.leading count
  let pointed (t : Text) : Text := s.pointed (if s.alternate then t else Layout.withoutTrailingZeros t)
  if first < -4 || count ≤ first then digits.take 1 ++ pointed (digits.drop 1) ++ Layout.exponentText first
  else if first < 0 then "0" ++ pointed (Layout.zeros (-first - 1).toNat ++ digits)
  else digits.take (first.toNat + 1) ++ pointed (digits.drop (first.toNat + 1))

def real (digits : Binary64 → Text) (x : Binary64) : Numerals :=
  if x.isNaN then ⟨false, [], "nan"⟩
  else ⟨x.negative, [], if x.isInfinite then "inf" else digits x⟩

def capitals (n : Numerals) : Numerals :=
  let raised : CodePoint → CodePoint
    | .char c => .char c.toUpper
    | c => c
  { n with lead := n.lead.map raised, digits := n.digits.map raised }

def unbroken (t : Text) : Except LineFailure Text :=
  match t.obstacle? with
  | some why => .error (.obstructed why)
  | none => .ok t

/-- A whole number in another base than ten, in which a real number is not written. -/
def bits (s : Style) (letter : CodePoint) (base : Nat) (lead : Text) : Attribute → Except LineFailure Numerals
  | .whole n => if s.precision.any (0x7ffffffc < ·) then .error .precisionTooLarge else .ok (s.inBase base lead n)
  | a => .error (.notWhole letter a.className)

/-- The text of a value in a style whose form has a letter; `position` is that of the letter. -/
def convert (s : Style) (letter : CodePoint) (position : Nat) (a : Attribute) : Except LineFailure Text :=
  match letter with
  | .char 's' => (unbroken a.shown).map (s.aligned ∘ s.cut)
  | .char 'r' => (unbroken a.written).map (s.aligned ∘ s.cut)
  | .char 'a' => (unbroken a.escaped).map (s.aligned ∘ s.cut)
  | .char 'd' | .char 'i' | .char 'u' => do
    let n ← a.toWhole letter
    if s.precision.any (0x7ffffffc < ·) then .error .precisionTooLarge else (s.decimal n).map s.number
  | .char 'o' => (s.bits letter 8 "0o" a).map s.number
  | .char 'x' => (s.bits letter 16 "0x" a).map s.number
  | .char 'X' => (s.bits letter 16 "0x" a).map (s.number ∘ capitals)
  | .char 'e' => a.toFloat.map (s.number ∘ real s.exponentDigits)
  | .char 'E' => a.toFloat.map (s.number ∘ capitals ∘ real s.exponentDigits)
  | .char 'f' => a.toFloat.map (s.number ∘ real s.fixedDigits)
  | .char 'F' => a.toFloat.map (s.number ∘ capitals ∘ real s.fixedDigits)
  | .char 'g' => a.toFloat.map (s.number ∘ real s.generalDigits)
  | .char 'G' => a.toFloat.map (s.number ∘ capitals ∘ real s.generalDigits)
  | .char 'c' => a.toCharacter.map fun c => s.aligned [c]
  | _ => .error (.unknownLetter letter position)

end Style
end Schematic
