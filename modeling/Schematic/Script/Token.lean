import Schematic.Script.Literal
import Schematic.Script.Source
import Schematic.Text.Compatibility
import Schematic.Text.Word

/-! The text of a script as names, numbers, quoted texts and marks, line by line. Lines end where no bracket
is open; blank lines and comments give nothing. Names are in their compatible form, words of the language are
kept apart from them. Where the text cannot be cut into tokens, those before are given with what is wrong. -/
namespace Schematic.Script

inductive Token where
  | name (t : Text)
  | keyword (t : Text)
  | number (n : Number)
  | quote (q : Quote)
  | mark (c : CodePoint)
  /-- Several marks that belong together. -/
  | marks (t : Text)
  | lineEnd
  /-- A line that begins with blanks, which lead to a column. -/
  | indent (column : Nat)
  | scriptEnd
deriving DecidableEq, Repr

structure Lexeme where
  token : Token
  line : Nat
deriving DecidableEq, Repr

def keywords : List Text :=
  ["False", "None", "True", "and", "as", "assert", "async", "await", "break", "class", "continue", "def", "del",
   "elif", "else", "except", "finally", "for", "from", "global", "if", "import", "in", "is", "lambda", "nonlocal",
   "not", "or", "pass", "raise", "return", "try", "while", "with", "yield"].map Text.ofString

structure Place where
  line : Nat
  /-- The open brackets with their lines, from the inside out. -/
  opened : List (CodePoint × Nat)
  /-- Whether nothing has been read of the line. -/
  fresh : Bool

inductive Advance where
  | done
  | flawed (f : Flaw) (line : Nat)
  | on (token : Option Lexeme) (place : Place) (rest : Text)

namespace Place

def start : Place := ⟨1, [], true⟩

def flawed (p : Place) (f : Flaw) : Advance := .flawed f p.line

def give (p : Place) (t : Token) (rest : Text) : Advance := .on (some ⟨t, p.line⟩) p rest

def atEnd (p : Place) (otherwise : Advance) : Advance :=
  match p.opened with
  | (bracket, line) :: _ => .flawed (.unclosed bracket) line
  | [] => otherwise

def column (blanks : Text) : Nat :=
  blanks.foldl (fun n c =>
    if c = CodePoint.char ' ' then n + 1 else if c = CodePoint.char '\t' then (n / 8 + 1) * 8 else 0) 0

def startLine (p : Place) (t : Text) : Advance :=
  let rest := t.dropWhile isGap
  let next : Place := { p with fresh := false }
  if rest.head?.any fun c => c = CodePoint.char '#' || c = CodePoint.char '\n' then
    .on none ⟨p.line + 1, p.opened, true⟩ ((rest.dropWhile (· ≠ CodePoint.char '\n')).drop 1)
  else
    let start := column (t.takeWhile isGap)
    if rest.isEmpty || start = 0 then .on none next rest else next.give (.indent start) rest

def endLine (p : Place) (rest : Text) : Advance :=
  if p.opened.isEmpty then .on (some ⟨.lineEnd, p.line⟩) ⟨p.line + 1, [], true⟩ rest
  else .on none { p with line := p.line + 1 } rest

def continueLine (p : Place) (rest : Text) : Advance :=
  match rest with
  | [.char '\n'] => p.atEnd (p.flawed .unexpectedEnd)
  | .char '\n' :: more => .on none { p with line := p.line + 1 } more
  | _ => p.flawed .afterContinuation

/-- The content up to the closing quotes and what follows them, or the line on which the search for them
ends. -/
def quoted (triple : Bool) (quote : CodePoint) (line : Nat) : Text → Except Nat (Text × Text)
  | [] => .error (line - 1)
  | .char '\\' :: c :: rest =>
    (quoted triple quote (if c = CodePoint.char '\n' then line + 1 else line) rest).map fun (content, more) =>
      (.char '\\' :: c :: content, more)
  | c :: rest =>
    let isLineEnd := c = CodePoint.char '\n'
    if isLineEnd && !triple then .error line
    else if c = quote && (!triple || [quote, quote].isPrefixOf rest) then .ok ([], if triple then rest.drop 2 else rest)
    else (quoted triple quote (if isLineEnd then line + 1 else line) rest).map fun (content, more) =>
      (c :: content, more)

def readQuote (p : Place) (letters : Text) (quote : CodePoint) (rest : Text) : Advance :=
  let triple := [quote, quote].isPrefixOf rest
  match quoted triple quote p.line (if triple then rest.drop 2 else rest) with
  | .error last => p.flawed (.unterminated triple last)
  | .ok (content, more) =>
    let line := p.line + content.count (CodePoint.char '\n')
    .on (some ⟨.quote ⟨letters, content⟩, p.line⟩) { p with line := line } more

/-- What may stand before the quotes of quoted text, in small letters. -/
def quoteLetters : List Text := ["b", "r", "u", "f", "br", "rb", "fr", "rf"]

def isQuoteMark (c : CodePoint) : Bool := c = CodePoint.char '\'' || c = CodePoint.char '"'

/-- The first code point of a text that spoils it as a name. -/
def spoiler? (t : Text) : Option CodePoint :=
  match t with
  | c :: rest => if c.startsName then rest.find? (!·.continuesName) else some c
  | [] => none

/-- A name or a word of the language, or quoted text with letters before it. -/
def readName (p : Place) (t : Text) : Advance :=
  let word := t.takeWhile Number.isNamePart
  let rest := t.dropWhile Number.isNamePart
  match rest with
  | c :: more =>
    if isQuoteMark c && quoteLetters.contains (Text.lower word) then p.readQuote (Text.lower word) c more
    else ofWord word rest
  | [] => ofWord word rest
where
  ofWord (word rest : Text) : Advance :=
    match Quote.undecodable? word, spoiler? word with
    | some e, _ => p.flawed (.undecodableName e)
    | none, some c => p.flawed (.invalidCharacter c)
    | none, none => p.give (if keywords.contains word then .keyword word else .name (Text.compatible word)) rest

def closingOf (opening : CodePoint) : Nat := match opening with
  | .char '(' => 0x29
  | .char '[' => 0x5d
  | _ => 0x7d

/-- The marks that belong together, longer ones first. -/
def joinedMarks : List Text :=
  ["**=", "//=", "<<=", ">>=", "...", "==", "!=", "<>", "<=", ">=", "->", ":=", "+=", "-=", "*=", "/=", "%=", "&=",
   "|=", "^=", "@=", "**", "//", "<<", ">>"].map Text.ofString

/-- Brackets, which must fit together, and other marks. -/
def readMark (p : Place) (c : CodePoint) (rest : Text) : Advance :=
  let n := c.toNat
  if n = 0x28 || n = 0x5b || n = 0x7b then
    if 200 ≤ p.opened.length then p.flawed .tooNested
    else .on (some ⟨.mark c, p.line⟩) { p with opened := (c, p.line) :: p.opened } rest
  else if n = 0x29 || n = 0x5d || n = 0x7d then
    match p.opened with
    | [] => p.flawed (.unmatched c)
    | (opening, line) :: outer =>
      if closingOf opening = n then .on (some ⟨.mark c, p.line⟩) { p with opened := outer } rest
      else p.flawed (.mismatched c opening (if line = p.line then none else some line))
  else if let some marks := joinedMarks.find? (·.isPrefixOf (c :: rest)) then
    p.give (.marks marks) ((c :: rest).drop marks.length)
  else if c.isPrintable then p.give (.mark c) rest
  else p.flawed (.invalidCharacter c)

def advance (p : Place) (t : Text) : Advance :=
  if p.fresh then p.startLine t
  else match t.dropWhile isGap with
    | [] => p.atEnd .done
    | c :: rest =>
      if c = CodePoint.char '#' then .on none p (rest.dropWhile (· ≠ CodePoint.char '\n'))
      else if c = CodePoint.char '\n' then p.endLine rest
      else if c = CodePoint.char '\\' then p.continueLine rest
      else if isQuoteMark c then p.readQuote [] c rest
      else if c.isDigit || (c = CodePoint.char '.' && rest.head?.any CodePoint.isDigit) then
        match Number.read (c :: rest) with
        | .ok (n, more) => p.give (.number n) more
        | .error f => p.flawed f
      else if Number.isNamePart c then p.readName (c :: rest)
      else p.readMark c rest

end Place

/-- The tokens of a text, with what is wrong after them, if they are not all; `fuel` bounds the number of steps. -/
def tokensFrom : (fuel : Nat) → Place → Text → List Lexeme × Option Misreading
  | 0, p, _ => ([⟨.scriptEnd, p.line⟩], none)
  | fuel + 1, p, t =>
    match p.advance t with
    | .done => ([⟨.scriptEnd, p.line⟩], none)
    | .flawed f line => ([], some ⟨f, line⟩)
    | .on token next rest =>
      let (more, flaw) := tokensFrom fuel next rest
      (token.toList ++ more, flaw)

def tokens (t : Text) : List Lexeme × Option Misreading := tokensFrom (2 * t.length + 2) .start t

end Schematic.Script
