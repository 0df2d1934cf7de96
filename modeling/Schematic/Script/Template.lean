import Schematic.Script.Literal

namespace Schematic.Script.Quote

def isTemplate (q : Quote) : Bool := q.letters.contains (CodePoint.char 'f')

def isOpeningBrace (c : CodePoint) : Bool := c.toNat = 0x7b
def isClosingBrace (c : CodePoint) : Bool := c.toNat = 0x7d

inductive EscapeState where
  | outside
  | afterBackslash
  | beforeName
  | inName
deriving DecidableEq, Repr

/-- How many code points stand before the first brace that is no part of an escape by name. -/
def lengthToBrace (isRaw : Bool) : EscapeState → Text → Nat
  | _, [] => 0
  | state, c :: rest =>
    let isBrace := isOpeningBrace c || isClosingBrace c
    match state with
    | .outside =>
      if isBrace then 0
      else 1 + lengthToBrace isRaw (if c = CodePoint.char '\\' && !isRaw then .afterBackslash else .outside) rest
    | .afterBackslash =>
      if isBrace then 0 else 1 + lengthToBrace isRaw (if c = CodePoint.char 'N' then .beforeName else .outside) rest
    | .beforeName => 1 + lengthToBrace isRaw (if isOpeningBrace c then .inName else .outside) rest
    | .inName => 1 + lengthToBrace isRaw (if isClosingBrace c then .outside else .inName) rest

/-- What is wrong with the place that begins after an opening brace, if that can be told without its value. -/
def placeFlaw? (t : Text) : Option QuoteFlaw :=
  let isSpecial (c : CodePoint) : Bool := c.toNat = 0x7d || (Text.ofString "\\'\"[(#!:=\x7b])").contains c
  let isBlank (c : CodePoint) : Bool := (Text.ofString " \t\n\x0c\r").contains c
  let inside := t.takeWhile fun c => !isSpecial c
  match t.drop inside.length with
  | [] => some .openPlace
  | c :: _ =>
    if c = CodePoint.char '\\' then some .backslashInPlace
    else if c = CodePoint.char '#' then some .commentInPlace
    else if inside.all isBlank && (isClosingBrace c || (Text.ofString "!:=").contains c) then some (.emptyPlace c)
    else none

def templatePiece (isRaw : Bool) (t : Text) : Except QuoteFlaw Text :=
  if isRaw then plain t else escaped t

/-- The text of a template, if it has no places; `fuel` bounds the number of its braces. -/
def templateText? (isRaw : Bool) : (fuel : Nat) → Text → Except QuoteFlaw (Option Text)
  | 0, _ => .ok (some [])
  | fuel + 1, t => do
    let length := lengthToBrace isRaw .outside t
    match t.drop length with
    | [] => return some (← templatePiece isRaw t)
    | brace :: rest =>
      if rest.head? = some brace then
        let piece ← templatePiece isRaw (t.take (length + 1))
        return (← templateText? isRaw fuel (rest.drop 1)).map (piece ++ ·)
      else if isClosingBrace brace then .error .loneBrace
      else
        let _ ← templatePiece isRaw (t.take length)
        match placeFlaw? rest with
        | some f => .error f
        | none => return none

/-- What one piece of quoted text adds to a text, nothing where it has a place for a value. -/
def textOf? (q : Quote) : Except QuoteFlaw (Option Text) :=
  if q.isTemplate then templateText? q.isRaw (q.content.length + 1) q.content else (text q).map some

/-- Check pieces one after the other: each is read before it is compared in kind with the first one, but a
template after that. -/
def texts? (qs : List Quote) : Except QuoteFlaw (Option Text) :=
  match qs with
  | [] => .ok (some [])
  | q :: rest => do
    if q.isBytes then
      let _ ← bytes q
      throw .mixed
    let t ← textOf? q
    let more ← texts? rest
    return t.bind fun t => more.map (t ++ ·)

def bytesOf (qs : List Quote) : Except QuoteFlaw (List UInt8) :=
  match qs with
  | [] => .ok []
  | q :: rest => do
    if !q.isBytes then
      if !q.isTemplate then
        let _ ← text q
      throw .mixed
    return (← bytes q) ++ (← bytesOf rest)

/-- The value of several pieces in a row, nothing where a text has a place for a value. -/
def value? (qs : List Quote) : Except QuoteFlaw (Option Value) :=
  if qs.head?.any isBytes then (bytesOf qs).map fun b => some (.bytes b)
  else (texts? qs).map (·.map .text)

end Schematic.Script.Quote
