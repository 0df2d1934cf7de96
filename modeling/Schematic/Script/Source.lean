import Schematic.Script.Flaw
import Schematic.Text.Encoding

/-! The bytes of a script are read in the encoding that a comment on one of the first two lines names, or else
as UTF-8. Without a named encoding, bytes that are no UTF-8 are kept, since they do no harm in comments. Each
way to end a line becomes a line feed, and the last line is ended too. -/
namespace Schematic.Script

/-- Each way to end a line as a line feed, with one at the end. -/
def withLineFeeds : List UInt8 → List UInt8
  | [] => [0x0a]
  | [b] => if b = 0x0a || b = 0x0d then [0x0a] else [b, 0x0a]
  | b :: c :: rest =>
    if b = 0x0d then
      if c = 0x0a then (if rest.isEmpty then [0x0a] else 0x0a :: withLineFeeds rest)
      else 0x0a :: withLineFeeds (c :: rest)
    else b :: withLineFeeds (c :: rest)

def encodingName (given : Text) : Text :=
  let start := (Text.lower (given.take 12)).map fun c => if c = CodePoint.char '_' then CodePoint.char '-' else c
  let isNamed (name : Text) : Bool := start = name || (name ++ "-").isPrefixOf start
  if isNamed "utf-8" then "utf-8"
  else if (["latin-1", "iso-8859-1", "iso-latin-1"] : List Text).any isNamed then "iso-8859-1"
  else given

/-- The name that follows the word `coding` and a colon or an equals sign somewhere in a comment. -/
def namedEncoding? : Text → Option Text
  | [] => none
  | c :: rest =>
    let name : Text := match Text.after? "coding" (c :: rest) with
      | some (mark :: after) =>
        if mark = CodePoint.char ':' || mark = CodePoint.char '=' then
          (after.dropWhile fun d => d = CodePoint.char ' ' || d = CodePoint.char '\t').takeWhile fun d =>
            d.isDigit || d.isAsciiLetter || ("-_." : Text).contains d
        else []
      | _ => []
    if name.isEmpty then namedEncoding? rest else some name

def isGap (c : CodePoint) : Bool := c = CodePoint.char ' ' || c = CodePoint.char '\t' || c = CodePoint.char '\x0c'

/-- The encoding that a line names, if it holds a comment alone. -/
def lineEncoding? (line : Text) : Option Text :=
  match line.dropWhile isGap with
  | .char '#' :: comment => namedEncoding? comment
  | _ => none

/-- Whether the line after this one may name the encoding: this one holds nothing but a comment. -/
def isBare (line : Text) : Bool := ((line.dropWhile isGap).head?.all (· = CodePoint.char '#'))

/-- The encoding that the first or the second line names. -/
def declaredEncoding? (lines : List Text) : Option Text :=
  match lines with
  | first :: rest =>
    (lineEncoding? first).or (if isBare first then rest.head?.bind lineEncoding? else none)
  | [] => none

/-- The text of a script from a file, or what is raised where there is none. -/
def sourceText (fileName : Text) (bytes : List UInt8) : Except Raised Text :=
  if bytes.contains 0 then .error (.mk "ValueError" [.text "source code string cannot contain null bytes"])
  else
    let unified := withLineFeeds bytes
    let isMarked := [0xef, 0xbb, 0xbf].isPrefixOf unified
    let body := if isMarked then unified.drop 3 else unified
    let kept := Text.decodeKeeping body
    match (declaredEncoding? ((kept.splitOn (CodePoint.char '\n')).take 2)).map encodingName with
    | none => .ok kept
    | some name =>
      if name = ("utf-8" : Text) then .ok kept
      else if isMarked then
        .error (raisedAt fileName 0 "SyntaxError" ("encoding problem: " ++ name ++ " with BOM"))
      else match Text.decodeNamed name body with
        | .ok t => .ok t
        | .error message => .error (raisedAt fileName 0 "SyntaxError" message)

end Schematic.Script
