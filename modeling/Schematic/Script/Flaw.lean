import Schematic.Schema.Basic
import Schematic.Text.Utf8

namespace Schematic.Script

inductive QuoteFlaw where
  | undecodable (e : Text.DecodeError)
  /-- The escape from `first` up to `last` means nothing. -/
  | badEscape (first last : Nat) (reason : Text)
  | badByteEscape (position : Nat)
  | notAscii
  | mixed
  /-- A closing brace stands alone in a text with places. -/
  | loneBrace
  | openPlace
  /-- Nothing stands in a place before this. -/
  | emptyPlace (next : CodePoint)
  | backslashInPlace
  | commentInPlace
deriving DecidableEq, Repr

inductive Flaw where
  | wrong
  | unexpectedIndent
  | unexpectedEnd
  | afterContinuation
  | invalidLiteral (base : Text)
  | invalidDigit (digit : CodePoint) (base : Text)
  | leadingZeros
  | tooManyDigits (count : Nat)
  | unterminated (triple : Bool) (lastLine : Nat)
  | invalidCharacter (c : CodePoint)
  | undecodableName (e : Text.DecodeError)
  | unmatched (closing : CodePoint)
  /-- `line` is that of the opening bracket, if it is another one. -/
  | mismatched (closing opening : CodePoint) (line : Option Nat)
  | tooNested
  | unclosed (opening : CodePoint)
  | badQuote (f : QuoteFlaw)
  | commaForgotten
  /-- A function is called without brackets. -/
  | bracketsMissing (name : Text)
  /-- An equals sign stands in brackets after a name. -/
  | comparisonMeant
  | colonExpected
  | cannotAssign (target : Text) (alone : Bool)
  | cannotAssignYield
  | keyWithoutColon
  | colonWithoutValue
  | namedTwice (name : Text)
  | positionalAfterNamed
  /-- An equals sign stands after an argument that is no name. -/
  | noAssignment
  | parameterTwice (name : Text)
  | returnOutside
  | bracketExpected
  | blockExpected (line : Nat)
  | unindented
deriving DecidableEq, Repr

def inSingleQuotes (c : CodePoint) : Text := [.char '\'', c, .char '\'']

def QuoteFlaw.message : QuoteFlaw → Text
  | undecodable e => "(unicode error) " ++ e.message
  | badEscape first last reason =>
    "(unicode error) 'unicodeescape' codec can't decode bytes in position " ++ Text.ofNat first ++ "-" ++
      Text.ofNat last ++ ": " ++ reason
  | badByteEscape position => "(value error) invalid \\x escape at position " ++ Text.ofNat position
  | notAscii => "bytes can only contain ASCII literal characters"
  | mixed => "cannot mix bytes and nonbytes literals"
  | loneBrace => "f-string: single '\x7d' is not allowed"
  | openPlace => "f-string: expecting '\x7d'"
  | emptyPlace next =>
    if next.toNat = 0x7d then "f-string: empty expression not allowed"
    else "f-string: expression required before " ++ inSingleQuotes next
  | backslashInPlace => "f-string expression part cannot include a backslash"
  | commentInPlace => "f-string expression part cannot include '#'"

namespace Flaw

def message : Flaw → Text
  | wrong => "invalid syntax"
  | unexpectedIndent => "unexpected indent"
  | unexpectedEnd => "unexpected EOF while parsing"
  | afterContinuation => "unexpected character after line continuation character"
  | invalidLiteral base => "invalid " ++ base ++ " literal"
  | invalidDigit digit base => "invalid digit " ++ inSingleQuotes digit ++ " in " ++ base ++ " literal"
  | leadingZeros =>
    "leading zeros in decimal integer literals are not permitted; use an 0o prefix for octal integers"
  | tooManyDigits count =>
    "Exceeds the limit (4300 digits) for integer string conversion: value has " ++ Text.ofNat count ++
      " digits; use sys.set_int_max_str_digits() to increase the limit - Consider hexadecimal for huge integer " ++
      "literals to avoid decimal conversion limits."
  | unterminated triple lastLine =>
    "unterminated " ++ (if triple then "triple-quoted " else "") ++ "string literal (detected at line " ++
      Text.ofNat lastLine ++ ")"
  | invalidCharacter c =>
    let number : Text := "U+" ++ (Text.hex (if c.toNat < 0x10000 then 4 else if c.toNat < 0x100000 then 5 else 6)
      c.toNat).map capital
    if c.isPrintable then "invalid character " ++ inSingleQuotes c ++ " (" ++ number ++ ")"
    else "invalid non-printable character " ++ number
  | undecodableName e => "(unicode error) " ++ e.message
  | unmatched closing => "unmatched " ++ inSingleQuotes closing
  | mismatched closing opening line =>
    "closing parenthesis " ++ inSingleQuotes closing ++ " does not match opening parenthesis " ++
      inSingleQuotes opening ++ ((line.map fun n => (" on line " : Text) ++ Text.ofNat n).getD [])
  | tooNested => "too many nested parentheses"
  | unclosed opening => inSingleQuotes opening ++ " was never closed"
  | badQuote f => f.message
  | bracketsMissing t => "Missing parentheses in call to '" ++ t ++ "'. Did you mean " ++ t ++ "(...)?"
  | commaForgotten => "invalid syntax. Perhaps you forgot a comma?"
  | comparisonMeant => "invalid syntax. Maybe you meant '==' or ':=' instead of '='?"
  | colonExpected => "expected ':'"
  | cannotAssign target alone =>
    "cannot assign to " ++ target ++ (if alone then " here. Maybe you meant '==' instead of '='?" else "")
  | cannotAssignYield => "assignment to yield expression not possible"
  | keyWithoutColon => "':' expected after dictionary key"
  | colonWithoutValue => "expression expected after dictionary key and ':'"
  | namedTwice name => "keyword argument repeated: " ++ name
  | positionalAfterNamed => "positional argument follows keyword argument"
  | noAssignment => "expression cannot contain assignment, perhaps you meant \"==\"?"
  | parameterTwice name => "duplicate argument '" ++ name ++ "' in function definition"
  | returnOutside => "'return' outside function"
  | bracketExpected => "expected '('"
  | blockExpected line => "expected an indented block after function definition on line " ++ Text.ofNat line
  | unindented => "unindent does not match any outer indentation level"
where
  capital (c : CodePoint) : CodePoint := if c.isDigit then c else CodePoint.ofNat (c.toNat - 0x20)

def className : Flaw → Text
  | unexpectedIndent | blockExpected _ | unindented => "IndentationError"
  | _ => "SyntaxError"

end Flaw

/-- A flaw on a line of a script; line 0 stands for the script as a whole. -/
structure Misreading where
  flaw : Flaw
  line : Nat
deriving DecidableEq, Repr

/-- What is raised where the text of a script in a file has something wrong on a line. -/
def raisedAt (fileName : Text) (line : Nat) (className message : Text) : Raised :=
  .mk className [.text (message ++ " (" ++ fileName ++ ", line " ++ Text.ofNat line ++ ")")]

def Misreading.toRaised (fileName : Text) (m : Misreading) : Raised :=
  raisedAt fileName m.line m.flaw.className m.flaw.message

end Schematic.Script
