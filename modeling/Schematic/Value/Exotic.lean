import Schematic.Decimal.Numeral
import Schematic.Decimal.Shortest
import Schematic.Schema.Basic
import Schematic.Text.Quoted

/-! Decimals, fractions, dates, complex numbers and opaque objects, with the texts by which they are shown. A
decimal keeps the digits it was written with, a fraction is in lowest terms, a date is shown as year, month
and day. Each is read from a notation, which is refused if it stands for none. -/
namespace Schematic.Exotic

/-- `n` in at least `width` digits. -/
def padded (width n : Nat) : Text :=
  let digits := Text.ofNat n
  List.replicate (width - digits.length) (CodePoint.char '0') ++ digits

/-- A value that is shown inside containers as `written`. -/
def plain (identity : Identity) (className text written : Text) : Exotic :=
  ⟨className, text, written, identity, false, none, .none, true⟩

def opaqueObject (identity : Identity) : Exotic :=
  { plain identity "Opaque" "<opaque>" "<opaque>" with isUnique := true }

def valueError (message : Text) : Raised := .mk "ValueError" [.text message]

/-- A decimal number: `coefficient * 10 ^ exponent`. -/
structure Scientific where
  negative : Bool
  coefficient : Nat
  exponent : Int
deriving DecidableEq, Repr

namespace Scientific

/-- Digits, a point among them or none, and an exponent or none. -/
def ofText? (t : Text) : Option Scientific :=
  let (negative, body) := Numeral.sign t
  let whole := body.takeWhile CodePoint.isDigit
  let (fraction, tail) : Text × Text := match body.drop whole.length with
    | .char '.' :: rest => (rest.takeWhile CodePoint.isDigit, rest.dropWhile CodePoint.isDigit)
    | rest => ([], rest)
  match Text.digits? (whole ++ fraction), Numeral.exponent? tail with
  | some n, some e => some ⟨negative, n, e - fraction.length⟩
  | _, _ => none

def toAmount (s : Scientific) : Amount := ⟨⟨s.negative, s.coefficient, 1⟩, s.exponent⟩

def toFloat (s : Scientific) : Binary64 := Binary64.ofDecimal s.negative s.coefficient s.exponent

/-- Digits with a point where the exponent puts it; an exponent is written if it is positive or if the
number is below 10 ^ -6. -/
def text (s : Scientific) : Text :=
  let digits := Text.ofNat s.coefficient
  let left := s.exponent + digits.length
  let place := if s.exponent ≤ 0 && -6 < left then left else 1
  let number : Text :=
    if place ≤ 0 then "0." ++ List.replicate (-place).toNat (CodePoint.char '0') ++ digits
    else if digits.length ≤ place.toNat then
      digits ++ List.replicate (place.toNat - digits.length) (CodePoint.char '0')
    else digits.take place.toNat ++ "." ++ digits.drop place.toNat
  let e := left - place
  let tail : Text :=
    if e = 0 then [] else if 0 < e then "E+" ++ Text.ofInt e else "E" ++ Text.ofInt e
  (if s.negative then Text.ofString "-" else []) ++ number ++ tail

end Scientific

inductive DecimalForm where
  | number (s : Scientific)
  | infinite (negative : Bool)
  /-- No number, with the digits that tell it from others. -/
  | nan (negative signals : Bool) (digits : Text)
deriving DecidableEq, Repr

namespace DecimalForm

/-- The form of a notation without blanks and underscores. -/
def ofText? (t : Text) : Option DecimalForm :=
  let (negative, body) := Numeral.sign t
  let name := Numeral.lowerAscii body
  let payload (signals : Bool) (digits : Text) : Option DecimalForm :=
    if digits.all CodePoint.isDigit then
      some (nan negative signals (digits.dropWhile (· = CodePoint.char '0')))
    else none
  if name = ("inf" : Text) || name = ("infinity" : Text) then some (infinite negative)
  else match Text.after? "nan" name, Text.after? "snan" name with
    | some digits, _ => payload false digits
    | _, some digits => payload true digits
    | none, none => (Scientific.ofText? t).map number

def text : DecimalForm → Text
  | number s => s.text
  | infinite negative => (if negative then Text.ofString "-" else []) ++ "Infinity"
  | nan negative signals digits =>
    (if negative then Text.ofString "-" else []) ++
      (if signals then Text.ofString "sNaN" else Text.ofString "NaN") ++ digits

def quantity : DecimalForm → Quantity
  | number s => .finite s.toAmount
  | infinite negative => .infinite negative
  | nan _ signals _ => .nan signals

/-- The floating point number that is nearest, unless the form is a signal. -/
def toFloat? : DecimalForm → Option Binary64
  | number s => some s.toFloat
  | infinite negative => some (.infinity negative)
  | nan _ signals _ => if signals then none else some (.nan 0)

end DecimalForm

/-- The decimal of a notation. Blanks around it do not count, nor do underscores. -/
def decimal (identity : Identity) (t : Text) : Except Raised Exotic :=
  let tidy := (t.trim CodePoint.isBlank).filter (· ≠ CodePoint.char '_')
  match DecimalForm.ofText? (tidy.map CodePoint.withAsciiDigits) with
  | some form =>
    .ok { plain identity "Decimal" form.text ("Decimal('" ++ form.text ++ "')") with
      quantity := some form.quantity
      conversion := .number form.toFloat? }
  | none => .error (.mk "InvalidOperation" [.text "[<class 'decimal.ConversionSyntax'>]"])

def ofRatio (identity : Identity) (r : Ratio) : Exotic :=
  let d := Nat.gcd r.numerator r.denominator
  let n := Text.ofInt (Numeral.signed r.negative (r.numerator / d))
  let m := Text.ofInt (r.denominator / d : Nat)
  let x := Binary64.ofRatio r
  let shown := if r.denominator = d then n else n ++ "/" ++ m
  { plain identity "Fraction" shown ("Fraction(" ++ n ++ ", " ++ m ++ ")") with
    quantity := some (.finite (.ofRatio r))
    conversion := .number (if x.isFinite then some x else none) }

theorem obstacle?_written_ofRatio (i : Identity) {n : Nat} (h : Text.integerBound ≤ n) :
    (ofRatio i ⟨false, n, 1⟩).written.obstacle? = some .tooManyDigits := by
  have hlong : Text.ofInt (Numeral.signed false n) = [CodePoint.gap .tooManyDigits] := Text.ofInt_of_le h
  simp [ofRatio, plain, hlong]

/-- The ratio of a notation without blanks: a quotient, or a decimal with an exponent or none. -/
def ratioOfText? (t : Text) : Option Ratio :=
  (Numeral.withoutInnerUnderscores? t).bind fun t =>
    match t.cut? (CodePoint.char '/') with
    | some (top, bottom) =>
      let (negative, digits) := Numeral.sign top
      match Text.digits? digits, Text.digits? bottom with
      | some n, some d => some ⟨negative && n ≠ 0, n, d⟩
      | _, _ => none
    | none => (Scientific.ofText? t).map fun s => s.toAmount.toRatio

/-- The fraction of a notation, which may have blanks around it. -/
def fraction (identity : Identity) (t : Text) : Except Raised Exotic :=
  match ratioOfText? ((t.trim CodePoint.isBlank).map CodePoint.withAsciiDigits) with
  | none => .error (valueError ("Invalid literal for Fraction: " ++ t.quoted))
  | some r =>
    if r.denominator = 0 then
      .error (.mk "ZeroDivisionError"
        [.text ("Fraction(" ++ Text.ofInt (Numeral.signed r.negative r.numerator) ++ ", 0)")])
    else .ok (ofRatio identity r)

def isLeapYear (year : Nat) : Bool := year % 4 = 0 && (year % 100 ≠ 0 || year % 400 = 0)

def daysInMonth (year month : Nat) : Nat :=
  if month = 2 then if isLeapYear year then 29 else 28
  else if month = 4 || month = 6 || month = 9 || month = 11 then 30
  else 31

/-- The number of days before a year, counted from the first day of year one. -/
def daysBeforeYear (year : Nat) : Nat := (year - 1) * 365 + (year - 1) / 4 - (year - 1) / 100 + (year - 1) / 400

/-- The month and the day that follow `days` days of a year, looked for from `month` on. -/
def monthAndDay (year : Nat) : (months month days : Nat) → Nat × Nat
  | 0, month, days => (month, days + 1)
  | months + 1, month, days =>
    if days < daysInMonth year month then (month, days + 1)
    else monthAndDay year months (month + 1) (days - daysInMonth year month)

/-- The first day of the first week of a year, which is the week with its first Thursday. Days count from
the first day of year one, a Monday; the week may begin in the year before. -/
def firstWeek (year : Nat) : Int :=
  let start : Int := daysBeforeYear year
  let weekday := start % 7
  if weekday ≤ 3 then start - weekday else start - weekday + 7

/-- The year, month and day of a week and a weekday, if the year has that week. The weeks before the first year
have no months. -/
def dayOfWeek? (year week weekday : Nat) : Option (Nat × Nat × Nat) :=
  let weeks := (firstWeek (year + 1) - firstWeek year) / 7
  let day := firstWeek year + 7 * (week - 1 : Int) + (weekday - 1 : Int)
  if week = 0 || weekday = 0 || 7 < weekday then none
  else if year = 0 then if week ≤ 52 then some (1, 0, 0) else none
  else if weeks < week || day < 0 then none
  else
    let held :=
      if day < daysBeforeYear year then year - 1
      else if day < daysBeforeYear (year + 1) then year else year + 1
    let (month, dayOfMonth) := monthAndDay held 11 1 (day.toNat - daysBeforeYear held)
    some (held, month, dayOfMonth)

/-- A date in one of the forms `2024-02-29`, `20240229`, `2024-W09-4`, `2024W094`, and without the weekday
for a Monday. A form without dashes may have two more bytes, which do not count. -/
def calendar? (t : Text) : Option (Nat × Nat × Nat) :=
  let number (start count : Nat) : Option Nat :=
    let part := (t.drop start).take count
    if part.length = count then Text.digits? part else none
  let dash (n : Nat) : Bool := t[n]? = some (CodePoint.char '-')
  let dashed := dash 4
  let width := if dashed then 1 else 0
  if !([7, 8, 10].contains t.byteCount && t.all (!·.isHalf)) then none
  else if t[4 + width]? = some (CodePoint.char 'W') then
    match number 0 4, number (5 + width) 2 with
    | some year, some week =>
      if t.length = 7 + width then dayOfWeek? year week 1
      else if dashed && !dash 8 then none
      else (number (7 + 2 * width) 1).bind (dayOfWeek? year week)
    | _, _ => none
  else
    match number 0 4, number (4 + width) 2, number (6 + 2 * width) 2 with
    | some year, some month, some day => if dashed && !dash 7 then none else some (year, month, day)
    | _, _, _ => none

def date (identity : Identity) (t : Text) : Except Raised Exotic :=
  match calendar? t with
  | none => .error (valueError ("Invalid isoformat string: " ++ t.quoted))
  | some (year, month, day) =>
    if year = 0 || 9999 < year then .error (valueError ("year " ++ Text.ofNat year ++ " is out of range"))
    else if month = 0 || 12 < month then .error (valueError "month must be in 1..12")
    else if day = 0 || daysInMonth year month < day then .error (valueError "day is out of range for month")
    else
      .ok { plain identity "date" (padded 4 year ++ "-" ++ padded 2 month ++ "-" ++ padded 2 day)
          ("datetime.date(" ++ Text.ofNat year ++ ", " ++ Text.ofNat month ++ ", " ++ Text.ofNat day ++ ")") with
        mayHoldFields := false }

/-- A complex number. A real part that is positive zero is not shown. -/
def complex (identity : Identity) (re im : Binary64) : Exotic :=
  let imaginary := Layout.bare.write im
  let hidden := re.isZero && !re.negative
  let signed : Text := if imaginary.head? = some (CodePoint.char '-') then imaginary else "+" ++ imaginary
  let text : Text := if hidden then imaginary ++ "j" else "(" ++ Layout.bare.write re ++ signed ++ "j)"
  { plain identity "complex" text text with
    quantity := some (if im.isZero then .ofFloat re else .complex re im)
    mayHoldFields := false }

end Schematic.Exotic
