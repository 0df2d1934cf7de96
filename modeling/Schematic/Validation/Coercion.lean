import Schematic.Decimal.Numeral
import Schematic.Text.Utf8
import Schematic.Validation.Issue

/-! A value is read as a text, an integer, a number or a truth value where one is wanted. Values of that type
are taken as they are; some others are converted. Where one of two types is wanted, a value of one of them
keeps its type, and a value of neither is converted to the first type that it can be converted to. -/
namespace Schematic

/-- A text, or bytes that are the UTF-8 form of one; nothing for other values. -/
def Value.rawText? (v : Value) : Option (Except Text.DecodeError Text) :=
  match v with
  | .text t => some (.ok t)
  | .bytes bs => some (Text.decode bs)
  | _ => none

def Value.conversion : Value → Conversion
  | .exotic e => e.conversion
  | _ => .none

namespace Checked

def text (v : Value) : Checked Text :=
  match v.rawText? with
  | some (.ok t) => .ok t
  | some (.error _) => .fault .noUnicode
  | none => .fault .noText

def textOrNull (v : Value) : Checked Value :=
  match v with
  | .null => .ok .null
  | v => (text v).map .text

/-- The whole number that a floating point number stands for, if it fits 64 bits with their sign. -/
def integerOfFloat (x : Binary64) : Checked Int :=
  if !x.isFinite then .fault .notFinite
  else match x.toInt? with
    | none => .fault .fractional
    | some n => if -0x8000000000000000 < n && n < 0x8000000000000000 then .ok n else .fault .integerTooLong

/-- Read a text in which every code point is a character. -/
def reading {α : Type} (t : Text) (read : Text → Checked α) : Checked α :=
  if t.any CodePoint.isHalf then .fault .noUnicode else read t

def integerOfText (t : Text) : Checked Int :=
  reading t fun t => match Numeral.wholeNumber t with
    | .ok n => .ok n
    | .error .unreadable => .fault .unreadableInteger
    | .error .tooLong => .fault .integerTooLong

def integerOfExotic (e : Exotic) : Checked Int :=
  match e.conversion, e.quantity with
  | .none, _ => .fault .noInteger
  | .number _, some (.finite a) => match a.toRatio.toInt? with
    | some n => .ok n
    | none => .fault .fractional
  | .number _, _ => .fault .notFinite

def integer (v : Value) : Checked Int :=
  match v with
  | .int n => .ok n
  | .bool b => .ok (if b then 1 else 0)
  | .float x => integerOfFloat x
  | .exotic e => integerOfExotic e
  | v => match v.rawText? with
    | some (.ok t) => integerOfText t
    | some (.error _) => .fault .unreadableInteger
    | none => .fault .noInteger

def integerOrNull (v : Value) : Checked Value :=
  match v with
  | .null => .ok .null
  | v => (integer v).map .int

def numberOfText (t : Text) : Checked Binary64 :=
  reading t fun t => match Numeral.real? t with
    | some x => .ok x
    | none => .fault .unreadableNumber

/-- A floating point number, for a value that is no integer. -/
def number (v : Value) : Checked Binary64 :=
  match v with
  | .float x => .ok x
  | .exotic e => match e.conversion with
    | .number (some x) => .ok x
    | _ => .fault .noNumber
  | v => match v.rawText? with
    | some (.ok t) => numberOfText t
    | some (.error _) => .fault .unreadableNumber
    | none => .fault .noNumber

/-- The first of two readings that succeeds, or the issues of both under the names of their types. -/
def firstOf {α : Type} (firstName : Text) (first : Checked α) (secondName : Text) (second : Checked α) :
    Checked α :=
  match first, second with
  | .ok a, _ => .ok a
  | _, .ok b => .ok b
  | .faulty issues, .faulty more =>
    .faulty (issues.map (·.within (.name firstName)) ++ more.map (·.within (.name secondName)))

def textOperand (v : Value) : Checked TextOperand :=
  match v with
  | .null => .ok .none
  | .int n => .ok (.int n)
  | .text t => .ok (.text t)
  | v => firstOf "int" ((integer v).map .int) "str" ((text v).map .text)

/-- An integer or a floating point number stays what it is; what converts to one without being a text
is a floating point number. -/
def numberOperand (v : Value) : Checked NumberOperand :=
  match v with
  | .null => .ok .none
  | .int n => .ok (.int n)
  | .float x => .ok (.float x)
  | v => match v.conversion with
    | .number (some x) => .ok (.float x)
    | _ => firstOf "int" ((integer v).map .int) "float" ((number v).map .float)

def falseWords : List Text := ["0", "f", "n", "no", "off", "false"]

def trueWords : List Text := ["1", "t", "y", "on", "yes", "true"]

def booleanOfText (t : Text) : Checked Bool :=
  reading t fun t =>
    let word := Numeral.lowerAscii t
    if falseWords.contains word then .ok false
    else if trueWords.contains word then .ok true
    else .fault .unreadableBoolean

def booleanOfInteger (n : Int) : Checked Bool :=
  if n = 0 then .ok false else if n = 1 then .ok true else .fault .unreadableBoolean

def booleanOfFloat (x : Binary64) : Checked Bool :=
  match integerOfFloat x with
  | .ok n => booleanOfInteger n
  | .faulty _ => .fault .noBoolean

def boolean (v : Value) : Checked Bool :=
  match v with
  | .bool b => .ok b
  | .int n => if -0x8000000000000000 ≤ n && n < 0x8000000000000000 then booleanOfInteger n else .fault .noBoolean
  | .float x => booleanOfFloat x
  | .exotic e => match e.conversion with
    | .number (some x) => booleanOfFloat x
    | _ => .fault .noBoolean
  | v => match v.rawText? with
    | some (.ok t) => booleanOfText t
    | some (.error _) => .fault .unreadableBoolean
    | none => .fault .noBoolean

def choice {α : Type} (all : List α) (word : α → Text) (v : Value) : Checked α :=
  match v with
  | .text t => reading t fun t => match all.find? (word · = t) with
    | some a => .ok a
    | none => .fault (.notAmong (all.map word))
  | _ => .fault (.notAmong (all.map word))

end Checked
end Schematic
