import Schematic.Value.Written

namespace Schematic
namespace Json

def escapeChar (c : CodePoint) : Text :=
  if c = CodePoint.char '"' then "\\\""
  else if c = CodePoint.char '\\' then "\\\\"
  else if c = CodePoint.char '\n' then "\\n"
  else if c = CodePoint.char '\r' then "\\r"
  else if c = CodePoint.char '\t' then "\\t"
  else if c = CodePoint.char '\x08' then "\\b"
  else if c = CodePoint.char '\x0c' then "\\f"
  else if c.toNat < 0x20 then "\\u" ++ Text.hex 4 c.toNat
  else [c]

def writeText (t : Text) : Text := CodePoint.char '"' :: t.flatMap escapeChar ++ [CodePoint.char '"']

def writeInt? (n : Int) : Option Text := if (Text.ofInt n).hasGap then none else some (Text.ofInt n)

def writeFloat? (x : Binary64) : Option Text := if x.isFinite then some x.text else none

/-- The text of a key: texts, numbers, truth values and null can be keys. -/
def key? : Value → Option Text
  | .text t => some t
  | .bool b => some (if b then "true" else "false")
  | .null => some "null"
  | .int n => writeInt? n
  | .float x => writeFloat? x
  | _ => none

mutual

/-- Compact JSON, if the value and all its parts can be written. -/
def write? : Value → Option Text
  | .null => some "null"
  | .bool b => some (if b then "true" else "false")
  | .int n => writeInt? n
  | .float x => writeFloat? x
  | .text t => some (writeText t)
  | .list items | .tuple items => (writeItems? items).map fun parts => "[" ++ Text.join "," parts ++ "]"
  | .dict entries => (writeEntries? entries).map fun parts => "\x7b" ++ Text.join "," parts ++ "\x7d"
  | _ => none

def writeItems? : List Value → Option (List Text)
  | [] => some []
  | v :: vs => match write? v, writeItems? vs with
    | some part, some parts => some (part :: parts)
    | _, _ => none

def writeEntries? : List (Value × Value) → Option (List Text)
  | [] => some []
  | (k, v) :: rest => match key? k, write? v, writeEntries? rest with
    | some key, some part, some parts => some ((writeText key ++ ":" ++ part) :: parts)
    | _, _, _ => none

end
end Json
end Schematic
