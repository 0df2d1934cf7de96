import Schematic.Script.Template
import Schematic.Script.Token

/-! An expression is a constant, a name, a display of items in brackets or a function without a name, with
attributes and calls behind it and signs in front of it. There are no operators between expressions. Reading
stops at the first token that does not fit; which flaw is reported then is said here too. -/
namespace Schematic.Script

inductive Expression where
  | constant (v : Value)
  | name (t : Text)
  | list (items : List Expression)
  | tuple (items : List Expression)
  | set (items : List Expression)
  | dict (entries : List (Expression × Expression))
  | attribute (e : Expression) (name : Text)
  | call (function : Expression) (arguments : List Expression) (named : List (Text × Expression))
  | signed (sign : CodePoint) (e : Expression)
  /-- A function without a name; `code` tells it from others. -/
  | lambda (code : Nat) (parameters : List Text) (body : Expression)

inductive Halt where
  /-- The first of these tokens does not fit. Where there are none, no more could be read. -/
  | unfit (rest : List Lexeme)
  | flawed (m : Misreading) (rest : List Lexeme)

/-- What is read from the start of some tokens, with the tokens left. -/
abbrev Parsed (α : Type) := Except Halt (α × List Lexeme)

def lineOf (ts : List Lexeme) : Nat := ((ts.head?).map Lexeme.line).getD 0

namespace Expression

/-- The value of quoted texts in a row. What follows them must have been read, and a flaw counts there. -/
def quoted (qs : List Quote) (rest : List Lexeme) : Parsed Expression :=
  match rest with
  | [] => .error (.unfit [])
  | next :: _ =>
    match Quote.value? qs with
    | .ok (some v) => .ok (.constant v, rest)
    | .ok none => .error (.unfit rest)
    | .error f => .error (.flawed ⟨.badQuote f, next.line⟩ rest)

def quotesOf (ts : List Lexeme) : List Quote :=
  ts.filterMap fun t => match t.token with
    | .quote q => some q
    | _ => none

def isQuote (t : Lexeme) : Bool := match t.token with
  | .quote _ => true
  | _ => false

def ofNumber (line : Nat) (n : Number) (rest : List Lexeme) : Parsed Expression :=
  match n with
  | .integer n => .ok (.constant (.int n), rest)
  | .tooLong digits => .error (.flawed ⟨.tooManyDigits digits, line⟩ rest)
  | .real x => .ok (.constant (.float x), rest)

def wordConstants : List (Text × Value) := [("None", .null), ("True", .bool true), ("False", .bool false)]

def signs : Text := "-+~"

def softWords : List Text := ["_", "case", "match"]

/-- Functions that could once be called without brackets. -/
def bareNames : List Text := ["exec", "print"]

/-- Whether an expression from here on may be one of two between which a comma was forgotten. -/
def mayLackComma (ts : List Lexeme) : Bool :=
  match ts with
  | ⟨.name _, _⟩ :: ⟨.quote _, _⟩ :: _ => false
  | ⟨.name t, _⟩ :: _ => !softWords.contains t
  | _ => true

mutual

/-- What cannot be assigned to in an expression, by what it is called. -/
def unassigned? : Expression → Option Text
  | .constant .null => some "None"
  | .constant (.bool b) => some (if b then "True" else "False")
  | .constant _ => some "literal"
  | .name _ | .attribute _ _ => none
  | .list items | .tuple items => unassignedItem? items
  | .set _ => some "set display"
  | .dict _ => some "dict literal"
  | .call _ _ _ => some "function call"
  | .signed _ _ => some "expression"
  | .lambda _ _ _ => some "lambda"

def unassignedItem? : List Expression → Option Text
  | [] => none
  | e :: es => (unassigned? e).or (unassignedItem? es)

end

/-- Whether the first token is a constant that is a word. -/
def beginsWithWord (ts : List Lexeme) : Bool :=
  match ts with
  | ⟨.keyword t, _⟩ :: _ => wordConstants.any (·.1 = t)
  | _ => false

def isMark (c : Char) (ts : List Lexeme) : Bool := ts.head?.any fun t => t.token = .mark (.char c)

/-- Whether a function without a name begins here, which no sign can stand before. -/
def beginsFunction (ts : List Lexeme) : Bool := ts.head?.any fun t => t.token = .keyword "lambda"

def closingBrace : Char := Char.ofNat 0x7d

def isOpeningBrace (c : CodePoint) : Bool := c.toNat = 0x7b

def parseParameters (closing : Token) : (fuel : Nat) → List Lexeme → Parsed (List Text)
  | 0, ts => .error (.unfit ts)
  | fuel + 1, ts =>
    match ts with
    | ⟨.name t, _⟩ :: rest =>
      match rest with
      | ⟨.mark (.char ','), _⟩ :: more => (parseParameters closing fuel more).map fun (ts, rest) => (t :: ts, rest)
      | next :: more => if next.token = closing then .ok ([t], more) else .error (.unfit rest)
      | [] => .error (.unfit [])
    | next :: rest => if next.token = closing then .ok ([], rest) else .error (.unfit (next :: rest))
    | [] => .error (.unfit [])

mutual

/-- The expression at the start of some tokens; `fuel` bounds the depth. -/
def parse : (fuel : Nat) → List Lexeme → Parsed Expression
  | 0, ts => .error (.unfit ts)
  | fuel + 1, ts =>
    match ts with
    | ⟨.mark c, _⟩ :: rest =>
      if signs.contains c then
        if beginsFunction rest then .error (.unfit rest)
        else match parse fuel rest with
        | .ok (e, rest) => .ok (.signed c e, rest)
        | .error h => .error h
      else parsePrimary fuel ts
    | _ :: rest => if beginsFunction ts then parseLambda fuel rest else parsePrimary fuel ts
    | ts => parsePrimary fuel ts

/-- A function without a name, after its first word. What is left to read tells it from others. -/
def parseLambda : (fuel : Nat) → List Lexeme → Parsed Expression
  | 0, ts => .error (.unfit ts)
  | fuel + 1, ts =>
    match parseParameters (.mark (.char ':')) (ts.length + 1) ts with
    | .error h => .error h
    | .ok (parameters, rest) =>
      match parse fuel rest with
      | .ok (body, more) => .ok (.lambda rest.length parameters body, more)
      | .error h => .error h

/-- A constant, a name or an expression in brackets, with what follows it. -/
def parsePrimary : (fuel : Nat) → List Lexeme → Parsed Expression
  | 0, ts => .error (.unfit ts)
  | fuel + 1, ts =>
    let start : Parsed Expression := match ts with
      | ⟨.name t, _⟩ :: rest => .ok (.name t, rest)
      | ⟨.keyword t, _⟩ :: rest =>
        match wordConstants.find? (·.1 = t) with
        | some (_, v) => .ok (.constant v, rest)
        | none => .error (.unfit ts)
      | ⟨.number n, line⟩ :: rest => ofNumber line n rest
      | ⟨.quote _, _⟩ :: _ => quoted (quotesOf (ts.takeWhile isQuote)) (ts.dropWhile isQuote)
      | ⟨.mark c, _⟩ :: rest =>
        if c = CodePoint.char '(' then parseBracketed fuel rest
        else if c = CodePoint.char '[' then
          match parseItems fuel ']' rest with
          | .ok (items, more) => .ok (.list items, more)
          | .error h => .error h
        else if isOpeningBrace c then parseBraced fuel rest
        else .error (.unfit ts)
      | ts => .error (.unfit ts)
    match start with
    | .error h => .error h
    | .ok (e, rest) => parseTrailers fuel e rest

/-- After an opening bracket: an expression, or the items of a tuple. -/
def parseBracketed : (fuel : Nat) → List Lexeme → Parsed Expression
  | 0, ts => .error (.unfit ts)
  | fuel + 1, ts =>
    match ts with
    | ⟨.mark (.char ')'), _⟩ :: rest => .ok (.tuple [], rest)
    | ts =>
      match parse fuel ts with
      | .error h => .error h
      | .ok (e, ⟨.mark (.char ')'), _⟩ :: more) => .ok (e, more)
      | .ok (e, ⟨.mark (.char ','), _⟩ :: more) =>
        match parseItems fuel ')' more with
        | .ok (items, more) => .ok (.tuple (e :: items), more)
        | .error h => .error h
      | .ok (e, more) => .error (misfit fuel e ts more)

def parseItems : (fuel : Nat) → (closing : Char) → List Lexeme → Parsed (List Expression)
  | 0, _, ts => .error (.unfit ts)
  | fuel + 1, closing, ts =>
    if isMark closing ts then .ok ([], ts.drop 1)
    else match parse fuel ts with
      | .error h => .error h
      | .ok (e, rest) =>
        if isMark closing rest then .ok ([e], rest.drop 1)
        else if isMark ',' rest then
          match parseItems fuel closing (rest.drop 1) with
          | .ok (items, more) => .ok (e :: items, more)
          | .error h => .error h
        else .error (misfit fuel e ts rest)

/-- After an opening brace: the entries of a dictionary or the members of a set. -/
def parseBraced : (fuel : Nat) → List Lexeme → Parsed Expression
  | 0, ts => .error (.unfit ts)
  | fuel + 1, ts =>
    if isMark closingBrace ts then .ok (.dict [], ts.drop 1)
    else match parse fuel ts with
      | .error h => .error h
      | .ok (_, rest) =>
        if isMark ':' rest then
          match parseEntries fuel ts with
          | .ok (entries, more) => .ok (.dict entries, more)
          | .error h => .error h
        else match parseItems fuel closingBrace ts with
          | .ok (items, more) => .ok (.set items, more)
          | .error h => .error h

def parseEntries : (fuel : Nat) → List Lexeme → Parsed (List (Expression × Expression))
  | 0, ts => .error (.unfit ts)
  | fuel + 1, ts =>
    if isMark closingBrace ts then .ok ([], ts.drop 1)
    else match parse fuel ts with
      | .error h => .error h
      | .ok (key, rest) =>
        if !isMark ':' rest then .error (.flawed ⟨.keyWithoutColon, lineOf rest⟩ rest)
        else if isMark closingBrace (rest.drop 1) || isMark ',' (rest.drop 1) then
          .error (.flawed ⟨.colonWithoutValue, lineOf rest⟩ rest)
        else match parse fuel (rest.drop 1) with
          | .error h => .error h
          | .ok (v, more) =>
            if isMark closingBrace more then .ok ([(key, v)], more.drop 1)
            else if isMark ',' more then
              match parseEntries fuel (more.drop 1) with
              | .ok (entries, more) => .ok ((key, v) :: entries, more)
              | .error h => .error h
            else .error (unclosed fuel (rest.drop 1) more)

def parseTrailers : (fuel : Nat) → Expression → List Lexeme → Parsed Expression
  | 0, _, ts => .error (.unfit ts)
  | fuel + 1, e, ts =>
    match ts with
    | ⟨.mark (.char '.'), _⟩ :: ⟨.name t, _⟩ :: rest => parseTrailers fuel (.attribute e t) rest
    | ⟨.mark (.char '.'), _⟩ :: rest => .error (.unfit rest)
    | ⟨.mark (.char '('), _⟩ :: rest =>
      match parseArguments fuel [] rest with
      | .ok ((arguments, named), rest) => parseTrailers fuel (.call e arguments named) rest
      | .error h => .error h
    | [] => .error (.unfit [])
    | ts => .ok (e, ts)

/-- Arguments up to the closing bracket, first those without a name; `taken` are the names so far. -/
def parseArguments : (fuel : Nat) → (taken : List Text) → List Lexeme →
    Parsed (List Expression × List (Text × Expression))
  | 0, _, ts => .error (.unfit ts)
  | fuel + 1, taken, ts =>
    match ts with
    | ⟨.mark (.char ')'), _⟩ :: rest => .ok (([], []), rest)
    | ⟨.name t, line⟩ :: ⟨.mark (.char '='), _⟩ :: rest =>
      match parse fuel rest with
      | .error h => .error h
      | .ok (e, more) =>
        if taken.contains t then .error (.flawed ⟨.namedTwice t, line⟩ more)
        else if isMark ')' more then .ok (([], [(t, e)]), more.drop 1)
        else if isMark ',' more then
          match parseArguments fuel (t :: taken) (more.drop 1) with
          | .ok ((arguments, named), more) => .ok ((arguments, (t, e) :: named), more)
          | .error h => .error h
        else .error (unclosed fuel rest more)
    | ts =>
      match parse fuel ts with
      | .error h => .error h
      | .ok (e, rest) =>
        if isMark '=' rest then
          .error (.flawed ⟨if beginsWithWord ts then .cannotAssign (e.unassigned?.getD []) false else .noAssignment,
            lineOf ts⟩ rest)
        else if !taken.isEmpty then
          .error (if isMark ')' rest || isMark ',' rest then .flawed ⟨.positionalAfterNamed, lineOf rest⟩ rest
            else unclosed fuel ts rest)
        else if isMark ')' rest then .ok (([e], []), rest.drop 1)
        else if isMark ',' rest then
          match parseArguments fuel taken (rest.drop 1) with
          | .ok ((arguments, named), more) => .ok ((e :: arguments, named), more)
          | .error h => .error h
        else .error (unclosed fuel ts rest)

/-- Why an expression in brackets that begins at `start` is not followed by what may follow it, or by an equals sign. -/
def misfit : (fuel : Nat) → Expression → (start rest : List Lexeme) → Halt
  | 0, _, _, rest => .unfit rest
  | fuel + 1, e, start, rest =>
    if isMark '=' rest then (unassignable fuel e start (rest.drop 1)).getD (.unfit rest) else unclosed fuel start rest

/-- Why an expression that begins at `start` in brackets is not followed by what may follow it. -/
def unclosed : (fuel : Nat) → (start rest : List Lexeme) → Halt
  | 0, _, rest => .unfit rest
  | fuel + 1, start, rest =>
    match bareCall? fuel start with
    | some h => h
    | none =>
      match parse fuel rest with
      | .ok (_, more) =>
        if mayLackComma start then .flawed ⟨.commaForgotten, lineOf start⟩ more
        else .unfit rest
      | .error (.unfit []) => .unfit []
      | .error _ => .unfit rest

/-- What is wrong with a name that an expression follows: the expression itself, or that it should stand in
brackets behind the name. -/
def bareCall? : (fuel : Nat) → (start : List Lexeme) → Option Halt
  | 0, _ => none
  | fuel + 1, start =>
    match start with
    | ⟨.name _, _⟩ :: ⟨.mark (.char '('), _⟩ :: _ => none
    | ⟨.name _, _⟩ :: ⟨.mark (.char '+'), _⟩ :: _ | ⟨.name _, _⟩ :: ⟨.mark (.char '-'), _⟩ :: _ => none
    | ⟨.name t, line⟩ :: rest =>
      match bareCall? fuel rest with
      | some h => some h
      | none =>
        match parse fuel rest with
        | .ok (_, more) => if bareNames.contains t then some (.flawed ⟨.bracketsMissing t, line⟩ more) else none
        | .error (.unfit []) => some (.unfit [])
        | .error (.unfit _) => none
        | .error h => some h
    | _ => none

/-- Why nothing can be assigned to an expression that begins at `start` and that an equals sign follows, where
that can be told from what comes after the sign. -/
def unassignable : (fuel : Nat) → (target : Expression) → (start rest : List Lexeme) → Option Halt
  | 0, _, _, _ => none
  | fuel + 1, target, start, rest =>
    let flaw : Flaw := match target with
      | .name _ => .comparisonMeant
      | target => .cannotAssign (target.unassigned?.getD "attribute") true
    if beginsWithWord start then none
    else match parse fuel rest with
      | .ok (_, more) =>
        if more.head?.any fun t => t.token = .mark (.char '=') || t.token = .marks ":=" then none
        else some (.flawed ⟨flaw, lineOf start⟩ more)
      | .error (.unfit []) => some (.unfit [])
      | .error (.unfit _) => none
      | .error h => some h

end

end Expression

end Schematic.Script
