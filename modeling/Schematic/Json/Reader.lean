import Schematic.Value.Equality
import Schematic.Decimal.Numeral

/-! A text is read as one value with blanks around it. Beside the standard, the names `NaN`, `Infinity` and
`-Infinity` are numbers, a number with a point or an exponent is a floating point number, half of a surrogate
pair may stand alone, and of equal keys the last one counts. A failure names the first place at which the text
cannot be continued. The call stack may have room for a number of containers one inside the other only; a text
that opens more of them is not read further. -/
namespace Schematic.Json

inductive Trouble where
  | expectingValue
  | expectingName
  | expectingColon
  | expectingComma
  | extraData
  | unterminatedText
  | controlCharacter
  | unknownEscape
  | brokenEscape
  | byteOrderMark
deriving DecidableEq, Repr

def Trouble.words : Trouble → Text
  | expectingValue => "Expecting value"
  | expectingName => "Expecting property name enclosed in double quotes"
  | expectingColon => "Expecting ':' delimiter"
  | expectingComma => "Expecting ',' delimiter"
  | extraData => "Extra data"
  | unterminatedText => "Unterminated string starting at"
  | controlCharacter => "Invalid control character at"
  | unknownEscape => "Invalid \\escape"
  | brokenEscape => "Invalid \\uXXXX escape"
  | byteOrderMark => "Unexpected UTF-8 BOM (decode using utf-8-sig)"

/-- Why a text is no JSON: trouble at a place, given by how many code points are left there, an
integer of more digits than are read, or a list or an object that is nested too deep. -/
inductive Failure where
  | trouble (t : Trouble) (left : Nat)
  | tooManyDigits (count : Nat)
  | tooDeep (isList : Bool)
deriving DecidableEq, Repr

abbrev Reading (α : Type) := Except Failure (α × Text)

def isBlank (c : CodePoint) : Bool :=
  c = CodePoint.char ' ' || c = CodePoint.char '\t' || c = CodePoint.char '\n' || c = CodePoint.char '\r'

def skipBlanks (t : Text) : Text := t.dropWhile isBlank

def fail {α : Type} (trouble : Trouble) (t : Text) : Except Failure α := .error (.trouble trouble t.length)

/-- The character that a backslash and this letter stand for. -/
def escaped? (c : CodePoint) : Option CodePoint :=
  ([('"', '"'), ('\\', '\\'), ('/', '/'), ('b', '\x08'), ('f', '\x0c'), ('n', '\n'), ('r', '\r'),
    ('t', '\t')] : List (Char × Char)).findSome? fun (letter, char) =>
      if c = CodePoint.char letter then some (CodePoint.char char) else none

def hex4? (a b c d : CodePoint) : Option Nat :=
  match a.hexValue?, b.hexValue?, c.hexValue?, d.hexValue? with
  | some w, some x, some y, some z => some (((w * 16 + x) * 16 + y) * 16 + z)
  | _, _, _, _ => none

def isHighHalf (n : Nat) : Bool := 0xd800 ≤ n && n < 0xdc00

def isLowHalf (n : Nat) : Bool := 0xdc00 ≤ n && n < 0xe000

/-- Put a code point in front of the text that is read next. -/
def cons (c : CodePoint) (r : Reading Text) : Reading Text := r.map fun (t, rest) => (c :: t, rest)

/-- The text up to its closing quote; `opening` is what was left at the opening one. Four
hexadecimal digits are taken only if something follows them. -/
def textBody (opening : Nat) : Text → Reading Text
  | [] => .error (.trouble .unterminatedText opening)
  | .char '"' :: rest => .ok ([], rest)
  | .char '\\' :: .char 'u' :: a :: b :: c :: d :: .char '\\' :: .char 'u' :: e :: f :: g :: h :: i :: rest =>
    match hex4? a b c d with
    | none => .error (.trouble .brokenEscape (rest.length + 12))
    | some n =>
      if isHighHalf n then
        match hex4? e f g h with
        | none => .error (.trouble .brokenEscape (rest.length + 6))
        | some m =>
          if isLowHalf m then cons (CodePoint.pair n m) (textBody opening (i :: rest))
          else cons (CodePoint.ofNat n)
            (textBody opening (.char '\\' :: .char 'u' :: e :: f :: g :: h :: i :: rest))
      else cons (CodePoint.ofNat n)
        (textBody opening (.char '\\' :: .char 'u' :: e :: f :: g :: h :: i :: rest))
  | .char '\\' :: .char 'u' :: a :: b :: c :: d :: next :: rest =>
    match hex4? a b c d with
    | none => .error (.trouble .brokenEscape (rest.length + 6))
    | some n => cons (CodePoint.ofNat n) (textBody opening (next :: rest))
  | .char '\\' :: .char 'u' :: rest => .error (.trouble .brokenEscape (rest.length + 1))
  | .char '\\' :: c :: rest =>
    match escaped? c with
    | some char => cons char (textBody opening rest)
    | none => .error (.trouble .unknownEscape (rest.length + 2))
  | [.char '\\'] => .error (.trouble .unterminatedText opening)
  | c :: rest =>
    if c.toNat < 0x20 then .error (.trouble .controlCharacter (rest.length + 1))
    else cons c (textBody opening rest)

/-- The digits of an integer part, which starts with zero only if it is zero. -/
def integerPart? (t : Text) : Option (Text × Text) :=
  match t with
  | [] => none
  | c :: rest =>
    if c = CodePoint.char '0' then some ([c], rest)
    else if c.isDigit then some (t.takeWhile CodePoint.isDigit, t.dropWhile CodePoint.isDigit)
    else none

def fractionPart (t : Text) : Text × Text :=
  match t with
  | .char '.' :: rest =>
    match rest.takeWhile CodePoint.isDigit with
    | [] => ([], t)
    | digits => (digits, rest.dropWhile CodePoint.isDigit)
  | t => ([], t)

/-- The letter e, perhaps a sign, and at least one digit. -/
def exponentPart? (t : Text) : Option (Int × Text) :=
  match t with
  | [] => none
  | c :: rest =>
    if c = CodePoint.char 'e' || c = CodePoint.char 'E' then
      let (negative, tail) := Numeral.sign rest
      (Text.digits? (tail.takeWhile CodePoint.isDigit)).map fun n =>
        (Numeral.signed negative n, tail.dropWhile CodePoint.isDigit)
    else none

def digitsOf (digits : Text) : Nat := (Text.digits? digits).getD 0

/-- The number that begins at `t`, with its sign before the digits at the start of `body`. -/
def numberFrom (negative : Bool) (t body : Text) : Reading Value :=
  match integerPart? body with
  | none => fail .expectingValue t
  | some (whole, rest) =>
    let (fraction, rest) := fractionPart rest
    match exponentPart? rest with
    | some (e, rest) =>
      .ok (.float (Binary64.ofDecimal negative (digitsOf (whole ++ fraction)) (e - fraction.length)), rest)
    | none =>
      if fraction.isEmpty then
        if 4300 < whole.length then .error (.tooManyDigits whole.length)
        else .ok (.int (Numeral.signed negative (digitsOf whole)), rest)
      else .ok (.float (Binary64.ofDecimal negative (digitsOf (whole ++ fraction)) (-fraction.length)), rest)

def number (t : Text) : Reading Value :=
  match t with
  | .char '-' :: rest => numberFrom true t rest
  | t => numberFrom false t t

def names : List (Text × Value) :=
  [("null", .null), ("true", .bool true), ("false", .bool false), ("NaN", .float (.nan 0)),
   ("Infinity", .float (.infinity false)), ("-Infinity", .float (.infinity true))]

def named? (t : Text) : Option (Value × Text) :=
  names.findSome? fun (name, v) => (Text.after? name t).map fun rest => (v, rest)

/-- The room that is left inside one container more, if there is any. -/
def inner? : (room : Option Nat) → Option (Option Nat)
  | none => some none
  | some 0 => none
  | some (room + 1) => some (some room)

mutual

/-- A value at the start of a text. Each code point is the reason for at most two calls, which is
what `fuel` counts; `room` is how many containers may be opened one inside the other, if that is limited. -/
def value (room : Option Nat) : (fuel : Nat) → Text → Reading Value
  | 0, t => fail .expectingValue t
  | fuel + 1, t =>
    match t with
    | .char '"' :: rest => (textBody t.length rest).map fun (s, rest) => (.text s, rest)
    | .char '\x7b' :: rest =>
      match inner? room with
      | none => .error (.tooDeep false)
      | some room =>
        match skipBlanks rest with
        | .char '\x7d' :: rest => .ok (.dict [], rest)
        | rest => (members room fuel rest).map fun (entries, rest) => (.dict (Entries.ofList entries), rest)
    | .char '[' :: rest =>
      match inner? room with
      | none => .error (.tooDeep true)
      | some room =>
        match skipBlanks rest with
        | .char ']' :: rest => .ok (.list [], rest)
        | rest => (items room fuel rest).map fun (vs, rest) => (.list vs, rest)
    | t =>
      match named? t with
      | some r => .ok r
      | none => number t

def items (room : Option Nat) : (fuel : Nat) → Text → Reading (List Value)
  | 0, t => fail .expectingValue t
  | fuel + 1, t =>
    match value room fuel t with
    | .error e => .error e
    | .ok (v, rest) =>
      match skipBlanks rest with
      | .char ']' :: rest => .ok ([v], rest)
      | .char ',' :: rest => (items room fuel (skipBlanks rest)).map fun (vs, rest) => (v :: vs, rest)
      | rest => fail .expectingComma rest

def members (room : Option Nat) : (fuel : Nat) → Text → Reading (List (Value × Value))
  | 0, t => fail .expectingName t
  | fuel + 1, t =>
    match t with
    | .char '"' :: rest =>
      match textBody t.length rest with
      | .error e => .error e
      | .ok (key, rest) =>
        match skipBlanks rest with
        | .char ':' :: rest =>
          match value room fuel (skipBlanks rest) with
          | .error e => .error e
          | .ok (v, rest) =>
            match skipBlanks rest with
            | .char '\x7d' :: rest => .ok ([(.text key, v)], rest)
            | .char ',' :: rest =>
              (members room fuel (skipBlanks rest)).map fun (entries, rest) => ((.text key, v) :: entries, rest)
            | rest => fail .expectingComma rest
        | rest => fail .expectingColon rest
    | t => fail .expectingName t

end

def document (room : Option Nat) (t : Text) : Except Failure Value :=
  match t with
  | .char '\ufeff' :: _ => fail .byteOrderMark t
  | t =>
    match value room (2 * t.length + 2) (skipBlanks t) with
    | .error e => .error e
    | .ok (v, rest) =>
      match skipBlanks rest with
      | [] => .ok v
      | rest => fail .extraData rest

/-- What kept a text from being read as JSON, with the place counted in code points, lines and
columns. -/
inductive ReadError where
  | malformed (trouble : Trouble) (position line column : Nat)
  | tooManyDigits (count : Nat)
  | tooDeep (isList : Bool)
deriving DecidableEq, Repr

def ReadError.message : ReadError → Text
  | malformed trouble position line column =>
    trouble.words ++ ": line " ++ Text.ofNat line ++ " column " ++ Text.ofNat column ++ " (char " ++
      Text.ofNat position ++ ")"
  | tooManyDigits count =>
    "Exceeds the limit (4300 digits) for integer string conversion: value has " ++ Text.ofNat count ++
      " digits; use sys.set_int_max_str_digits() to increase the limit"
  | tooDeep isList =>
    "maximum recursion depth exceeded while decoding a JSON " ++ (if isList then "array" else "object") ++
      " from a unicode string"

def Failure.locate (t : Text) : Failure → ReadError
  | .trouble what left =>
    let before := t.take (t.length - left)
    let lines := before.splitOn (CodePoint.char '\n')
    .malformed what before.length lines.length ((lines.getLastD []).length + 1)
  | .tooManyDigits count => .tooManyDigits count
  | .tooDeep isList => .tooDeep isList

/-- Read a text as JSON where containers may be opened to a depth of `room`. -/
def readWithin (room : Option Nat) (t : Text) : Except ReadError Value := (document room t).mapError (Failure.locate t)

def read (t : Text) : Except ReadError Value := readWithin none t

end Schematic.Json
