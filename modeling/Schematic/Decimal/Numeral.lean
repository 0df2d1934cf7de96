import Schematic.Decimal.Shortest

/-! Readings of a text as a number. `integer?` and `anyReal?` take the blanks and the decimal digits of every
script, with single underscores between digits. `wholeNumber` and `real?` take ASCII digits; the first also
passes over leading zeros and a point with zeros at the end. -/
namespace Schematic.Numeral

/-- The sign in front of `t`, and the rest. -/
def sign (t : Text) : Bool × Text :=
  match t with
  | .char '-' :: rest => (true, rest)
  | .char '+' :: rest => (false, rest)
  | _ => (false, t)

def signed (negative : Bool) (n : Nat) : Int := if negative then -n else n

/-- Remove the underscores of `t`, each of which must stand alone between two other code points. -/
def withoutUnderscores? (t : Text) : Option Text :=
  let pieces := t.splitOn (CodePoint.char '_')
  if pieces.any (·.isEmpty) then none else some pieces.flatten

/-- `t` without blanks at its ends, with the blanks and decimal digits of every script as those of
ASCII. Of ASCII itself the six blanks count only. -/
def inAscii (t : Text) : Text :=
  let plain : Text := t.map fun c => if !c.isAscii && c.isBlank then CodePoint.char ' ' else c.withAsciiDigits
  plain.trim CodePoint.isAsciiBlank

/-- The value of a non-empty run of digits, of which a text may hold at most 4300. -/
def decimal? (digits : Text) : Option Nat := if 4300 < digits.length then none else Text.digits? digits

/-- An integer with blanks around it, a sign, digits of any script and single underscores. -/
def integer? (t : Text) : Option Int :=
  let (negative, body) := sign (inAscii t)
  ((withoutUnderscores? body).bind decimal?).map (signed negative)

inductive WholeNumberError where
  | unreadable
  | tooLong
deriving DecidableEq, Repr

/-- An integer in its shortest form: a minus sign or none, and digits of which the first is zero only if
it is the last. A text that begins with more than 4300 signs and digits is too long, whatever follows. -/
def exactInteger (t : Text) : Except WholeNumberError Int :=
  let negative := t.head? = some (CodePoint.char '-')
  let body := if negative then t.drop 1 else t
  let digits := body.takeWhile CodePoint.isDigit
  if digits.head? = some (CodePoint.char '0') then if body.length = 1 then .ok 0 else .error .unreadable
  else if 4300 < digits.length + (if negative then 1 else 0) then .error .tooLong
  else if digits.length < body.length then .error .unreadable
  else match Text.digits? digits with
    | some n => .ok (signed negative n)
    | none => .error .unreadable

/-- `t`, which begins with a digit or a minus sign, without the zeros and underscores in front; a zero
stays where nothing else is left of the whole part. -/
def withoutLeadingZeros? (t : Text) : Option Text :=
  if t.head? = some (CodePoint.char '0') then
    let isSkipped (c : CodePoint) : Bool := c = CodePoint.char '0' || c = CodePoint.char '_'
    let last := (t.takeWhile isSkipped).getLast?.toList
    match t.dropWhile isSkipped with
    | [] => some last
    | c :: rest =>
      if c.isDigit || c = CodePoint.char '-' then some (c :: rest)
      else if c = CodePoint.char '.' then some (last ++ c :: rest)
      else none
  else if t.head?.any fun c => c.isDigit || c = CodePoint.char '-' then some t
  else none

/-- `body` without a point and the zeros after it, of which there must be one at least. -/
def withoutZeroFraction (body : Text) : Text :=
  match body.cut? (CodePoint.char '.') with
  | some (whole, fraction) =>
    if !fraction.isEmpty && fraction.all (· = CodePoint.char '0') then whole else body
  | none => body

/-- The shortest form of an integer with white space around it, a sign, leading zeros, single underscores
between digits, and a point with zeros at the end. -/
def shortened? (t : Text) : Option Text :=
  let tidy (body : Text) : Option Text :=
    (withoutLeadingZeros? body).bind fun u => withoutUnderscores? (withoutZeroFraction u)
  match t.trim CodePoint.isWhiteSpace with
  | .char '+' :: .char '-' :: _ => none
  | .char '+' :: body => tidy body
  | .char '-' :: body => (tidy body).map (CodePoint.char '-' :: ·)
  | body => tidy body

/-- An integer in its shortest form, or else in a longer one that `shortened?` takes. -/
def wholeNumber (t : Text) : Except WholeNumberError Int :=
  match exactInteger t with
  | .error .unreadable =>
    match (shortened? t).map exactInteger with
    | some (.ok n) => .ok n
    | _ => .error .unreadable
  | r => r

/-- The exponent after the letter e, if the text is one. -/
def exponent? (t : Text) : Option Int :=
  match t with
  | [] => some 0
  | c :: rest =>
    if c = CodePoint.char 'e' || c = CodePoint.char 'E' then
      let (negative, digits) := sign rest
      digits.digits?.map (signed negative)
    else none

/-- Digits, a point among them or none, and an exponent or none. -/
def decimalReal? (negative : Bool) (t : Text) : Option Binary64 :=
  let whole := t.takeWhile CodePoint.isDigit
  let (fraction, tail) : Text × Text := match t.drop whole.length with
    | .char '.' :: rest => (rest.takeWhile CodePoint.isDigit, rest.dropWhile CodePoint.isDigit)
    | rest => ([], rest)
  match Text.digits? (whole ++ fraction), exponent? tail with
  | some digits, some e => some (Binary64.ofDecimal negative digits (e - fraction.length))
  | _, _ => none

def lowerAscii (t : Text) : Text :=
  t.map fun c => if 0x41 ≤ c.toNat && c.toNat ≤ 0x5a then CodePoint.ofNat (c.toNat + 0x20) else c

def bareReal? (t : Text) : Option Binary64 :=
  let (negative, body) := sign t
  let name := lowerAscii body
  if name = ("inf" : Text) || name = ("infinity" : Text) then some (.infinity negative)
  else if name = ("nan" : Text) then some (.nan 0)
  else decimalReal? negative body

/-- A real number with white space around it, or one without, but with single underscores. -/
def real? (t : Text) : Option Binary64 :=
  match bareReal? (t.trim CodePoint.isWhiteSpace) with
  | some x => some x
  | none => (withoutUnderscores? t).bind bareReal?

/-- Remove the underscores of `t`, each of which must stand between two digits. -/
def withoutInnerUnderscores? : Text → Option Text
  | [] => some []
  | c :: .char '_' :: d :: rest =>
    if c.isDigit && d.isDigit then (withoutInnerUnderscores? (d :: rest)).map (c :: ·) else none
  | c :: rest => if c = CodePoint.char '_' then none else (withoutInnerUnderscores? rest).map (c :: ·)

/-- A real number with blanks around it, digits of any script and single underscores between digits. -/
def anyReal? (t : Text) : Option Binary64 := (withoutInnerUnderscores? (inAscii t)).bind bareReal?

end Schematic.Numeral
