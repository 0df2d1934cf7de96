import Schematic.Decimal.Numeral
import Schematic.Script.Flaw
import Schematic.Text.CharacterName

namespace Schematic.Script

inductive Number where
  | integer (n : Nat)
  /-- A decimal integer of too many digits. -/
  | tooLong (digits : Nat)
  | real (x : Binary64)
deriving DecidableEq, Repr

namespace Number

/-- What may stand in a name: letters, digits, underscores and all that is not ASCII. -/
def isNamePart (c : CodePoint) : Bool := !c.isAscii || c.isDigit || c.isAsciiLetter || c = CodePoint.char '_'

def followers : List Text := ["and", "else", "for", "if", "in", "is", "or", "not"]

def endingIn (kind : Text) (n : Number) (rest : Text) : Except Flaw (Number × Text) :=
  if rest.head?.any isNamePart && !followers.any (·.isPrefixOf rest) then .error (.invalidLiteral kind)
  else .ok (n, rest)

/-- The digits at the start of a text with single underscores between them, and what follows; nothing where
an underscore stands elsewhere. -/
def digitRun? : Text → Option (Text × Text)
  | [] => some ([], [])
  | c :: rest =>
    if c.isDigit then (digitRun? rest).map fun (digits, more) => (c :: digits, more)
    else if c = CodePoint.char '_' then if rest.head?.any CodePoint.isDigit then digitRun? rest else none
    else some ([], c :: rest)

/-- The digits of a base, with single underscores between them, and what follows; what is left where a digit
is `needed` and does not come. -/
def basedRun (isDigit : CodePoint → Bool) : (needed : Bool) → Text → Except Text (Text × Text)
  | needed, [] => if needed then .error [] else .ok ([], [])
  | needed, c :: rest =>
    if isDigit c then (basedRun isDigit false rest).map fun (digits, more) => (c :: digits, more)
    else if needed then .error (c :: rest)
    else if c = CodePoint.char '_' then basedRun isDigit true rest
    else .ok ([], c :: rest)

def readBased (base : Nat) (kind : Text) (t : Text) : Except Flaw (Number × Text) :=
  let isDigit (c : CodePoint) : Bool := c.hexValue?.any (· < base)
  let refused (rest : Text) : Flaw :=
    match rest with
    | c :: _ => if c.isDigit then .invalidDigit c kind else .invalidLiteral kind
    | [] => .invalidLiteral kind
  match basedRun isDigit true (if t.head? = some (CodePoint.char '_') then t.drop 1 else t) with
  | .error rest => .error (refused rest)
  | .ok (digits, rest) =>
    if rest.head?.any CodePoint.isDigit then .error (refused rest)
    else endingIn kind (.integer (digits.foldl (fun n c => n * base + c.hexValue?.getD 0) 0)) rest

/-- A decimal number of which the digits before the point have been read. -/
def readDecimalAfter (whole rest : Text) : Except Flaw (Number × Text) := do
  let flaw : Flaw := .invalidLiteral "decimal"
  let orFlaw (o : Option (Text × Text)) : Except Flaw (Text × Text) := match o with
    | some r => .ok r
    | none => .error flaw
  let isPointed := rest.head? = some (CodePoint.char '.')
  let (fraction, rest) ←
    if !isPointed then .ok ([], rest)
    else if (rest.drop 1).head?.any CodePoint.isDigit then orFlaw (digitRun? (rest.drop 1))
    else .ok ([], rest.drop 1)
  let isE (c : CodePoint) : Bool := c = CodePoint.char 'e' || c = CodePoint.char 'E'
  let real (negative : Bool) (exponent : Text) : Number :=
    let e : Int := (exponent.digits?.getD 0 : Nat)
    .real (Binary64.ofDecimal false ((whole ++ fraction).digits?.getD 0)
      ((if negative then -e else e) - fraction.length))
  let plain : Except Flaw Number :=
    if isPointed then .ok (real false [])
    else if whole.head? = some (CodePoint.char '0') && whole.any (· ≠ CodePoint.char '0') then .error .leadingZeros
    else
      let n := whole.digits?.getD 0
      .ok (if 4300 < whole.length && n ≠ 0 then .tooLong whole.length else .integer n)
  let isJ (c : CodePoint) : Bool := c = CodePoint.char 'j' || c = CodePoint.char 'J'
  let finish (n : Except Flaw Number) (rest : Text) : Except Flaw (Number × Text) :=
    if rest.head?.any isJ then endingIn "imaginary" (real false []) (rest.drop 1)
    else n.bind fun n => endingIn "decimal" n rest
  if rest.head?.any isE then
    match rest.drop 1 with
    | sign :: after =>
      let isSign := sign = CodePoint.char '+' || sign = CodePoint.char '-'
      let digits := if isSign then after else sign :: after
      if digits.head?.any CodePoint.isDigit then
        let (exponent, rest) ← orFlaw (digitRun? digits)
        finish (.ok (real (sign = CodePoint.char '-') exponent)) rest
      else if isSign then .error flaw
      else plain.bind fun n => endingIn "decimal" n rest
    | [] => .error flaw
  else finish plain rest

/-- The number at the start of a text, which begins with a digit or with a point and a digit. -/
def read (t : Text) : Except Flaw (Number × Text) :=
  match t with
  | .char '0' :: .char mark :: rest =>
    if mark = 'x' || mark = 'X' then readBased 16 "hexadecimal" rest
    else if mark = 'o' || mark = 'O' then readBased 8 "octal" rest
    else if mark = 'b' || mark = 'B' then readBased 2 "binary" rest
    else decimal t
  | t => decimal t
where
  decimal (t : Text) : Except Flaw (Number × Text) :=
    match digitRun? t with
    | some (whole, rest) => readDecimalAfter whole rest
    | none => .error (.invalidLiteral "decimal")

end Number

/-- A piece of quoted text as it is written, with the letters before the quotes in small letters. -/
structure Quote where
  letters : Text
  content : Text
deriving DecidableEq, Repr

namespace Quote

def isRaw (q : Quote) : Bool := q.letters.contains (CodePoint.char 'r')

def isBytes (q : Quote) : Bool := q.letters.contains (CodePoint.char 'b')

/-- The first run of bytes among the content that cannot be read, as a failure to read it. -/
def undecodable? (t : Text) : Option Text.DecodeError :=
  match Text.decode (Text.keptBytes t) with
  | .error e => some e
  | .ok _ => none

/-- The content with escapes of eight digits for all that is not ASCII. -/
def widened : (run : Text) → Text → Except Text.DecodeError Text
  | run, [] => closing run []
  | run, c :: rest =>
    if c.isAscii then do
      let more ← widened [] rest
      closing run (c :: more)
    else widened (run ++ [c]) rest
where
  /-- Close a run of what is not ASCII. -/
  closing (run after : Text) : Except Text.DecodeError Text :=
    match undecodable? run with
    | some e => .error e
    | none => .ok (run.flatMap (fun c => Text.ofString "\\U" ++ Text.hex 8 c.toNat) ++ after)

/-- A backslash that stands before what is not ASCII, or at the end, by its number. -/
def guarded : Text → Text
  | [] => []
  | [c] => if c = CodePoint.char '\\' then "\\u005c" else [c]
  | c :: d :: rest =>
    if c = CodePoint.char '\\' then
      if d.isAscii then c :: d :: guarded rest else "\\u005c" ++ guarded (d :: rest)
    else c :: guarded (d :: rest)

/-- What a backslash and one code point stand for, if that does not go on. -/
def simpleEscape? (c : CodePoint) : Option Text :=
  match c with
  | .char '\n' => some []
  | .char '\\' => some "\\"
  | .char '\'' => some "'"
  | .char '"' => some "\""
  | .char 'a' => some "\x07"
  | .char 'b' => some "\x08"
  | .char 'f' => some "\x0c"
  | .char 'n' => some "\n"
  | .char 'r' => some "\r"
  | .char 't' => some "\t"
  | .char 'v' => some "\x0b"
  | _ => none

def isOctal (c : CodePoint) : Bool := 0x30 ≤ c.toNat && c.toNat ≤ 0x37

def octalValue (t : Text) : Nat := t.foldl (fun n c => n * 8 + c.digitValue) 0

def hexValue (t : Text) : Nat := t.foldl (fun n c => n * 16 + c.hexValue?.getD 0) 0

/-- The code point of an escape with `count` digits. -/
def numberEscape (position count : Nat) (name : Text) (t : Text) : Except QuoteFlaw CodePoint :=
  let digits := (t.take count).takeWhile fun c => c.hexValue?.isSome
  let bad (reason : Text) : QuoteFlaw := .badEscape position (position + 1 + digits.length) reason
  if digits.length < count then .error (bad ("truncated \\" ++ name ++ " escape"))
  else if 0x110000 ≤ hexValue digits then .error (bad "illegal Unicode character")
  else .ok (.ofNat (hexValue digits))

/-- The name in an escape that gives a character by name, from the opening brace on. -/
def nameEscape (position : Nat) (t : Text) : Except QuoteFlaw (CodePoint × Nat) :=
  let isClosing (c : CodePoint) : Bool := c.toNat = 0x7d
  let bad (length : Nat) (reason : Text) : QuoteFlaw := .badEscape position (position + 1 + length) reason
  match t with
  | [] => .error (bad 0 "malformed \\N character escape")
  | brace :: after =>
    let name := after.takeWhile fun c => !isClosing c
    if brace.toNat ≠ 0x7b then .error (bad 0 "malformed \\N character escape")
    else if name.isEmpty || name.length = after.length then
      .error (bad (name.length + 1) "malformed \\N character escape")
    else match CharacterName.find? name with
      | some c => .ok (c, name.length + 2)
      | none => .error (bad (name.length + 2) "unknown Unicode character name")

/-- What a text with escapes stands for, from a position on; `fuel` bounds the number of code points. -/
def unescaped : (fuel position : Nat) → Text → Except QuoteFlaw Text
  | 0, _, _ => .ok []
  | _, _, [] => .ok []
  | fuel + 1, position, c :: rest =>
    if c ≠ CodePoint.char '\\' then (unescaped fuel (position + 1) rest).map (c :: ·)
    else
      let goOn (read : Text) (length : Nat) : Except QuoteFlaw Text :=
        (unescaped fuel (position + length) ((c :: rest).drop length)).map (read ++ ·)
      match rest with
      | [] => .ok [c]
      | d :: after =>
        let numbered (count : Nat) (name : Text) : Except QuoteFlaw Text := do
          goOn [← numberEscape position count name after] (count + 2)
        match simpleEscape? d, d with
        | some t, _ => goOn t 2
        | none, .char 'x' => numbered 2 "xXX"
        | none, .char 'u' => numbered 4 "uXXXX"
        | none, .char 'U' => numbered 8 "UXXXXXXXX"
        | none, .char 'N' => do
          let (character, length) ← nameEscape position after
          goOn [character] (length + 2)
        | none, d =>
          if isOctal d then
            let digits := (rest.take 3).takeWhile isOctal
            goOn [.ofNat (octalValue digits)] (digits.length + 1)
          else goOn [c, d] 2

/-- What bytes with escapes stand for; a number above 255 counts without its higher bits. -/
def unescapedBytes : (fuel position : Nat) → Text → Except QuoteFlaw (List UInt8)
  | 0, _, _ => .ok []
  | _, _, [] => .ok []
  | fuel + 1, position, c :: rest =>
    let goOn (read : List UInt8) (length : Nat) : Except QuoteFlaw (List UInt8) :=
      (unescapedBytes fuel (position + length) ((c :: rest).drop length)).map (read ++ ·)
    let byte (c : CodePoint) : UInt8 := UInt8.ofNat c.toNat
    match decide (c = CodePoint.char '\\'), rest with
    | false, _ | true, [] => goOn [byte c] 1
    | true, d :: after =>
      match simpleEscape? d, d with
      | some t, _ => goOn (t.map byte) 2
      | none, .char 'x' =>
        let digits := (after.take 2).takeWhile fun c => c.hexValue?.isSome
        if digits.length < 2 then .error (.badByteEscape position) else goOn [UInt8.ofNat (hexValue digits)] 4
      | none, d =>
        if isOctal d then
          let digits := (rest.take 3).takeWhile isOctal
          goOn [UInt8.ofNat (octalValue digits)] (digits.length + 1)
        else goOn [byte c, byte d] 2

/-- The text as it is written, if all of it can be read. -/
def plain (t : Text) : Except QuoteFlaw Text :=
  match undecodable? t with
  | some e => .error (.undecodable e)
  | none => .ok t

def escaped (t : Text) : Except QuoteFlaw Text :=
  match widened [] (guarded t) with
  | .error e => .error (.undecodable e)
  | .ok t => unescaped t.length 0 t

def text (q : Quote) : Except QuoteFlaw Text :=
  if q.isRaw || !q.content.contains (CodePoint.char '\\') then plain q.content else escaped q.content

def bytes (q : Quote) : Except QuoteFlaw (List UInt8) :=
  if !q.content.all CodePoint.isAscii then .error .notAscii
  else if q.isRaw then .ok (q.content.map fun c => UInt8.ofNat c.toNat)
  else unescapedBytes q.content.length 0 q.content

end Quote
end Schematic.Script
