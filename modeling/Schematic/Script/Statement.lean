import Schematic.Script.Expression

namespace Schematic.Script

inductive Statement where
  | nothing
  /-- Import names from a module, each under another name or the same. -/
  | importing (source : Text) (names : List (Text × Text))
  /-- Import a module, under another name if one is given. -/
  | loading (source : Text) (name : Option Text)
  | assign (targets : List Expression) (e : Expression)
  | evaluate (e : Expression)
  /-- Raise an exception, which may be caused by another. -/
  | raising (e cause : Option Expression)
  | returning (e : Option Expression)
  /-- `code` tells a function from others. -/
  | define (code : Nat) (name : Text) (parameters : List Text) (body : List Statement)

namespace Statement

open Expression (isMark)

def parseDotted : List Lexeme → Parsed Text
  | ⟨.name t, _⟩ :: ⟨.mark (.char '.'), _⟩ :: rest => (parseDotted rest).map fun (more, rest) => (t ++ "." ++ more, rest)
  | ⟨.name t, _⟩ :: rest => .ok (t, rest)
  | ts => .error (.unfit ts)

/-- Another name for something, after the word for it. -/
def parseAlias (ts : List Lexeme) : Parsed (Option Text) :=
  match ts with
  | ⟨.keyword word, line⟩ :: rest =>
    if word = ("as" : Text) then
      match rest with
      | ⟨.name t, _⟩ :: more => .ok (some t, more)
      | rest => .error (.unfit rest)
    else .error (.unfit (⟨.keyword word, line⟩ :: rest))
  | [] => .error (.unfit [])
  | ts => .ok (none, ts)

/-- The names that are imported; in brackets a comma may stand at the end. -/
def parseImported (bracketed : Bool) : (fuel : Nat) → List Lexeme → Parsed (List (Text × Text))
  | 0, ts => .error (.unfit ts)
  | fuel + 1, ts =>
    match ts with
    | ⟨.name t, _⟩ :: rest =>
      match parseAlias rest with
      | .error h => .error h
      | .ok (other, more) =>
        if isMark ',' more && !(bracketed && isMark ')' (more.drop 1)) then
          (parseImported bracketed fuel (more.drop 1)).map fun (names, rest) => ((t, other.getD t) :: names, rest)
        else .ok ([(t, other.getD t)], if isMark ',' more then more.drop 1 else more)
    | ts => .error (.unfit ts)

def parseImport (fuel : Nat) (ts : List Lexeme) : Parsed Statement :=
  match parseDotted ts with
  | .error h => .error h
  | .ok (source, ⟨.keyword word, line⟩ :: rest) =>
    if word ≠ ("import" : Text) then .error (.unfit (⟨.keyword word, line⟩ :: rest))
    else if isMark '(' rest then
      match parseImported true fuel (rest.drop 1) with
      | .ok (names, more) =>
        if isMark ')' more then .ok (.importing source names, more.drop 1) else .error (.unfit more)
      | .error h => .error h
    else (parseImported false fuel rest).map fun (names, more) => (.importing source names, more)
  | .ok (_, rest) => .error (.unfit rest)

def parseLoading (ts : List Lexeme) : Parsed Statement :=
  match parseDotted ts with
  | .ok (source, rest) => (parseAlias rest).map fun (name, more) => (.loading source name, more)
  | .error h => .error h

def isEnd (t : Token) : Bool := t = .lineEnd || t = .mark (.char ';')

/-- An expression, or several with commas between them, which make a tuple. -/
def parseExpressions (fuel : Nat) (ts : List Lexeme) : Parsed Expression :=
  match Expression.parse fuel ts with
  | .error h => .error h
  | .ok (e, rest) => if isMark ',' rest then (more fuel (rest.drop 1)).map fun (es, rest) => (.tuple (e :: es), rest)
    else .ok (e, rest)
where
  more : (fuel : Nat) → List Lexeme → Parsed (List Expression)
    | 0, ts => .error (.unfit ts)
    | fuel + 1, ts =>
      if ts.head?.any fun t => isEnd t.token || t.token = .mark (.char '=') then .ok ([], ts)
      else match Expression.parse fuel ts with
        | .error h => .error h
        | .ok (e, rest) =>
          if isMark ',' rest then (more fuel (rest.drop 1)).map fun (es, rest) => (e :: es, rest) else .ok ([e], rest)

def parseRaising (fuel : Nat) (ts : List Lexeme) : Parsed Statement :=
  match ts with
  | [] => .error (.unfit [])
  | t :: _ =>
    if isEnd t.token then .ok (.raising none none, ts)
    else match Expression.parse fuel ts with
      | .error h => .error h
      | .ok (e, ⟨.keyword word, line⟩ :: rest) =>
        if word ≠ ("from" : Text) then .error (.unfit (⟨.keyword word, line⟩ :: rest))
        else match Expression.parse fuel rest with
          | .ok (cause, rest) => .ok (.raising (some e) (some cause), rest)
          | .error h => .error h
      | .ok (e, rest) => .ok (.raising (some e) none, rest)

def parseReturning (fuel : Nat) (ts : List Lexeme) : Parsed Statement :=
  match ts with
  | [] => .error (.unfit [])
  | t :: _ =>
    if isEnd t.token then .ok (.returning none, ts)
    else (parseExpressions fuel ts).map fun (e, rest) => (.returning (some e), rest)

/-- Whether names that are given to parts of an expression are all it holds. -/
def isTarget (e : Expression) : Bool := match e with
  | .attribute _ _ => false
  | e => e.unassigned?.isNone

/-- An expression, or names that are given to one; `targets` are those that came before. -/
def parseAssignment : (fuel : Nat) → (targets : List Expression) → List Lexeme → Parsed Statement
  | 0, _, ts => .error (.unfit ts)
  | fuel + 1, targets, ts =>
    match parseExpressions fuel ts with
    | .error h => .error h
    | .ok (e, ⟨.mark (.char '='), _⟩ :: rest) =>
      match e.unassigned? with
      | none => if isTarget e then parseAssignment fuel (targets ++ [e]) rest else .error (.unfit rest)
      | some name =>
        let plain : Halt := .flawed ⟨.cannotAssign name false, lineOf ts⟩ rest
        let inBrackets : Bool := ts.head?.any fun t => t.token = .mark (.char '(') || t.token = .mark (.char '[')
        .error (if targets.isEmpty && !inBrackets then (Expression.unassignable fuel e ts rest).getD plain else plain)
    | .ok (e, rest) => .ok (if targets.isEmpty then .evaluate e else .assign targets e, rest)

/-- A statement that begins with a word of the language. -/
def parseKeyword (fuel : Nat) (word : Text) (line : Nat) (ts rest : List Lexeme) : Parsed Statement :=
  let yieldsNothing : Bool := rest.head?.any fun t => t.token = .mark (.char '=')
  if word = ("raise" : Text) then parseRaising fuel rest
  else if word = ("from" : Text) then parseImport fuel rest
  else if word = ("import" : Text) then parseLoading rest
  else if word = ("return" : Text) then parseReturning fuel rest
  else if word = ("pass" : Text) then .ok (.nothing, rest)
  else if word = ("try" : Text) && rest.head?.any (fun t => t.token ≠ .mark (.char ':')) then
    .error (.flawed ⟨.colonExpected, line⟩ rest)
  else if word = ("yield" : Text) && yieldsNothing then .error (.flawed ⟨.cannotAssignYield, line⟩ rest)
  else if word = ("lambda" : Text) || Expression.wordConstants.any (·.1 = word) then parseAssignment fuel [] ts
  else .error (.unfit (if rest.isEmpty then [] else ts))

def parse (fuel : Nat) (ts : List Lexeme) : Parsed Statement :=
  match ts with
  | ⟨.indent _, line⟩ :: rest => .error (.flawed ⟨.unexpectedIndent, line⟩ rest)
  | ⟨.keyword word, line⟩ :: rest => parseKeyword fuel word line ts rest
  | ts => parseAssignment fuel [] ts

/-- Whether a token of a statement stands directly before an expression. -/
def isBeforeExpression (t : Lexeme) : Bool := match t.token with
  | .keyword word => word = ("raise" : Text) || word = ("from" : Text) || word = ("return" : Text)
  | t => t = .mark (.char '=')

/-- Why a statement does not end before `rest`, where it was read from the start of `ts`. -/
def unended (fuel : Nat) (s : Statement) (ts rest : List Lexeme) : Halt :=
  let read := ts.take (ts.length - rest.length)
  let start := ts.drop (read.length - (read.reverse.takeWhile fun t => !isBeforeExpression t).length)
  match s with
  | .importing _ _ | .loading _ _ => .unfit rest
  | _ =>
    match Expression.bareCall? fuel start with
    | some h => h
    | none =>
      if !Expression.mayLackComma start then .unfit rest
      else match Expression.parse fuel rest with
        | .error (.flawed m more) => .flawed m more
        | .error (.unfit []) => .unfit []
        | _ => .unfit rest

/-- The statements of one line, each with the line on which it begins. -/
def parseLine : (fuel : Nat) → List Lexeme → Parsed (List (Nat × Statement))
  | 0, ts => .error (.unfit ts)
  | fuel + 1, ts =>
    match parse fuel ts with
    | .error h => .error h
    | .ok (s, rest) =>
      let first := (lineOf ts, s)
      match rest with
      | ⟨.mark (.char ';'), _⟩ :: ⟨.lineEnd, _⟩ :: more => .ok ([first], more)
      | ⟨.mark (.char ';'), _⟩ :: more => (parseLine fuel more).map fun (others, rest) => (first :: others, rest)
      | ⟨.lineEnd, _⟩ :: more => .ok ([first], more)
      | rest => .error (unended fuel s ts rest)

def parseBlock (column : Nat) : (fuel : Nat) → List Lexeme → Parsed (List (Nat × Statement))
  | 0, ts => .error (.unfit ts)
  | fuel + 1, ts =>
    match ts with
    | ⟨.indent n, line⟩ :: rest =>
      if n < column then .error (.flawed ⟨.unindented, line⟩ rest)
      else if column < n then .error (.flawed ⟨.unexpectedIndent, line⟩ rest)
      else match parseLine fuel rest with
        | .error h => .error h
        | .ok (first, rest) => (parseBlock column fuel rest).map fun (others, rest) => (first ++ others, rest)
    | ts => .ok ([], ts)

/-- The body of a function whose first word stands on a line. -/
def parseBody (fuel line : Nat) (ts : List Lexeme) : Parsed (List (Nat × Statement)) :=
  match ts with
  | ⟨.lineEnd, _⟩ :: rest =>
    match rest with
    | ⟨.indent column, _⟩ :: _ => parseBlock column fuel rest
    | rest => .error (.flawed ⟨.blockExpected line, if rest.length ≤ 1 then lineOf rest - 1 else lineOf rest⟩ rest)
  | ts => parseLine fuel ts

/-- A function, after its first word. What is left to read tells it from others. -/
def parseFunction (fuel line : Nat) (ts : List Lexeme) : Parsed Statement :=
  match ts with
  | ⟨.name name, _⟩ :: ⟨.mark (.char '('), _⟩ :: rest =>
    match Expression.parseParameters (.mark (.char ')')) (rest.length + 1) rest with
    | .error h => .error h
    | .ok (parameters, rest) =>
      if isMark ':' rest then
        (parseBody fuel line (rest.drop 1)).map fun (body, more) =>
          (.define rest.length name parameters (body.map (·.2)), more)
      else .error (.flawed ⟨.colonExpected, lineOf rest⟩ rest)
  | ⟨.name _, _⟩ :: rest => .error (.flawed ⟨.bracketExpected, lineOf rest⟩ rest)
  | ts => .error (.unfit ts)

/-- All statements, each with the line on which it begins. -/
def parseAll : (fuel : Nat) → List Lexeme → Except Halt (List (Nat × Statement))
  | 0, ts => .error (.unfit ts)
  | fuel + 1, ts =>
    match ts with
    | [⟨.scriptEnd, _⟩] => .ok []
    | [] => .error (.unfit [])
    | ⟨.keyword word, line⟩ :: rest =>
      let read : Parsed (List (Nat × Statement)) :=
        if word = ("def" : Text) then (parseFunction fuel line rest).map fun (s, more) => ([(line, s)], more)
        else parseLine fuel ts
      match read with
      | .ok (first, more) => (parseAll fuel more).map (first ++ ·)
      | .error h => .error h
    | ts =>
      match parseLine fuel ts with
      | .ok (first, more) => (parseAll fuel more).map (first ++ ·)
      | .error h => .error h

/-- The flaw that is reported where reading stops: that of the text after the tokens counts more than those of
the statements, if the text cannot be cut into tokens at all. -/
def report (fileName : Text) (ofText : Option Misreading) (h : Halt) : Raised :=
  let overruled (m : Misreading) (current : Nat) : Raised :=
    match ofText with
    | some ⟨.undecodableName e, _⟩ => .mk "UnicodeDecodeError" [.text e.message]
    | some ⟨.afterContinuation, _⟩ | some ⟨.unexpectedEnd, _⟩ | none => m.toRaised fileName
    | some ⟨.unclosed bracket, line⟩ =>
      if line < current then (⟨.unclosed bracket, line⟩ : Misreading).toRaised fileName else m.toRaised fileName
    | some other => other.toRaised fileName
  match h with
  | .unfit [] => ((ofText.getD ⟨.wrong, 0⟩).toRaised fileName)
  | .unfit (t :: _) => overruled ⟨.wrong, t.line⟩ t.line
  | .flawed ⟨.unexpectedIndent, line⟩ _ => (⟨.unexpectedIndent, line⟩ : Misreading).toRaised fileName
  | .flawed m rest => overruled m ((rest.head?.map Lexeme.line).getD m.line)

/-- The names that are given something by an expression on the left. -/
def targetNames : (fuel : Nat) → Expression → List Text
  | fuel + 1, .list items | fuel + 1, .tuple items => items.flatMap (targetNames fuel)
  | _, .name t => [t]
  | _, _ => []

def named : Statement → List Text
  | .importing _ names => names.map (·.2)
  | .loading source name => [name.getD (source.takeWhile (· ≠ CodePoint.char '.'))]
  | .assign targets _ => targets.flatMap (targetNames 100)
  | .define _ name _ _ => [name]
  | _ => []

def repeated? : List Text → Option Text
  | [] => none
  | t :: ts => (repeated? ts).or (if ts.contains t then some t else none)

/-- What is wrong with a statement as a whole that can be read. -/
def flaw? (s : Statement) : Option Flaw :=
  let fixed : Text := "__debug__"
  if s.named.contains fixed then some (.cannotAssign fixed false)
  else match s with
    | .returning _ => some .returnOutside
    | _ => none

def ofScript (fileName : Text) (t : Text) : Except Raised (List Statement) :=
  let (ts, flaw) := tokens t
  match parseAll (4 * ts.length + 8) ts with
  | .error h => .error (report fileName flaw h)
  | .ok all =>
    let twice := all.findSome? fun (line, s) => match s with
      | .define _ _ parameters _ => (repeated? parameters).map fun name => (⟨.parameterTwice name, line⟩ : Misreading)
      | _ => none
    match twice.or (all.findSome? fun (line, s) => s.flaw?.map fun f => ⟨f, line⟩) with
    | some m => .error (m.toRaised fileName)
    | none => .ok (all.map (·.2))

end Statement
end Schematic.Script
