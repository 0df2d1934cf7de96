import Schematic.Text.Property

namespace Schematic.Text

/-- The quote that `quoted` puts around a content. -/
def quoteFor (single double : Bool) : CodePoint := CodePoint.char (if single && !double then '"' else '\'')

/-- The escape of a code point by its number: two, four or eight hexadecimal digits. -/
def numbered (n : Nat) : Text :=
  if n < 0x100 then "\\x" ++ hex 2 n
  else if n < 0x10000 then "\\u" ++ hex 4 n
  else "\\U" ++ hex 8 n

def escapeInQuotes (quote : CodePoint) (printable : CodePoint → Bool) (c : CodePoint) : Text :=
  if c = quote || c = CodePoint.char '\\' then [CodePoint.char '\\', c]
  else if c = CodePoint.char '\n' then "\\n"
  else if c = CodePoint.char '\r' then "\\r"
  else if c = CodePoint.char '\t' then "\\t"
  else if printable c || c.obstacle?.isSome then [c]
  else numbered c.toNat

def quotedBy (printable : CodePoint → Bool) (t : Text) : Text :=
  let quote := quoteFor (t.contains (CodePoint.char '\'')) (t.contains (CodePoint.char '"'))
  quote :: t.flatMap (escapeInQuotes quote printable) ++ [quote]

def quoted (t : Text) : Text := quotedBy CodePoint.isPrintable t

/-- Bytes as quoted text after the letter b; only printing ASCII characters stand for themselves. -/
def quotedBytes (bytes : List UInt8) : Text :=
  CodePoint.char 'b' ::
    quotedBy (fun c => 0x20 ≤ c.toNat && c.toNat < 0x7f) (bytes.map fun b => CodePoint.ofNat b.toNat)

end Schematic.Text
