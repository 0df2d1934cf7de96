import Schematic.Text.Basic

namespace Schematic.Table

/-- A backslash before each bar, a blank for each line feed. -/
def escape (t : Text) : Text :=
  t.flatMap fun c =>
    if c = CodePoint.char '|' then [CodePoint.char '\\', c]
    else if c = CodePoint.char '\n' then [CodePoint.char ' ']
    else [c]

def row (cells : List Text) : Text := "| " ++ Text.join " | " cells ++ " |\n"

/-- The line between header and rows: dashes as wide as each column with its blanks. -/
def delimiter (columns : List Text) : Text :=
  let dashes := columns.map fun c => List.replicate (c.length + 2) (CodePoint.char '-')
  "|" ++ Text.join "|" dashes ++ "|\n"

def header (columns : List Text) : Text := row columns ++ delimiter columns

end Schematic.Table
