import Schematic.Log.Conversion
import Schematic.Log.Record

/-! A layout is read one code point after another. A place begins with a percent sign; it may name an
attribute of the record, whose value then waits to be taken, and ends with the letter of its form. A value is
taken once, by a place or by the star of a size. Until a place names an attribute, the whole record waits. Two
percent signs are one. -/
namespace Schematic

inductive Stage where
  | flags
  | widthDigits
  | widthTaken
  | point
  | precisionDigits
  | precisionTaken
  | letter
deriving DecidableEq, Inhabited

inductive Phase where
  | plain
  | opened
  | name (depth : Nat) (read : Text)
  | place (stage : Stage) (p : Style)
deriving DecidableEq, Inhabited

structure Filling where
  line : Text
  /-- The number of code points of the layout that were read. -/
  position : Nat
  /-- The value that waits to be taken. -/
  waiting : Option Attribute
  phase : Phase
deriving DecidableEq, Inhabited

namespace Filling

def take (f : Filling) : Except LineFailure (Attribute × Filling) :=
  match f.waiting with
  | some a => .ok (a, { f with waiting := none })
  | none => .error .nothingLeft

def write (f : Filling) (t : Text) : Filling := { f with line := f.line ++ t, phase := .plain }

def goOn (f : Filling) (stage : Stage) (p : Style) : Filling := { f with phase := .place stage p }

def takeSize (f : Filling) (precision : Bool) : Except LineFailure (Int × Filling) := do
  let (a, f) ← f.take
  match a with
  | .whole n =>
    let bound : Int := if precision then 0x80000000 else 0x8000000000000000
    if -bound ≤ n && n < bound then .ok (n, f) else .error (.valueTooBig precision)
  | _ => .error .sizeNotWhole

def extend (n : Nat) (c : CodePoint) (precision : Bool) : Except LineFailure Nat :=
  let bound : Nat := if precision then 0x7fffffff else 0x7fffffffffffffff
  if (bound - c.digitValue) / 10 < n then .error (.sizeTooBig precision) else .ok (n * 10 + c.digitValue)

def atLetter (f : Filling) (p : Style) (c : CodePoint) : Except LineFailure Filling := do
  let (a, f) ← f.take
  return f.write (← p.convert c f.position a)

def atModifier (f : Filling) (p : Style) (c : CodePoint) : Except LineFailure Filling :=
  if ("hlL" : Text).contains c then .ok (f.goOn .letter p) else f.atLetter p c

def atPoint (f : Filling) (p : Style) (c : CodePoint) : Except LineFailure Filling :=
  if c = CodePoint.char '.' then .ok (f.goOn .point { p with precision := some 0 }) else f.atModifier p c

def atPrecision (f : Filling) (p : Style) (c : CodePoint) : Except LineFailure Filling :=
  if c = CodePoint.char '*' then do
    let (n, f) ← f.takeSize true
    return f.goOn .precisionTaken { p with precision := some n.toNat }
  else if c.isDigit then .ok (f.goOn .precisionDigits { p with precision := some c.digitValue })
  else f.atModifier p c

/-- A negative width is that of a place whose value stands on the left. -/
def atWidth (f : Filling) (p : Style) (c : CodePoint) : Except LineFailure Filling :=
  if c = CodePoint.char '*' then do
    let (n, f) ← f.takeSize false
    return f.goOn .widthTaken { p with width := some n.natAbs, leftAligned := p.leftAligned || n < 0 }
  else if c.isDigit then .ok (f.goOn .widthDigits { p with width := some c.digitValue })
  else f.atPoint p c

def atFlags (f : Filling) (p : Style) (c : CodePoint) : Except LineFailure Filling :=
  match c with
  | .char '-' => .ok (f.goOn .flags { p with leftAligned := true })
  | .char '+' => .ok (f.goOn .flags { p with signed := true })
  | .char ' ' => .ok (f.goOn .flags { p with spaced := true })
  | .char '#' => .ok (f.goOn .flags { p with alternate := true })
  | .char '0' => .ok (f.goOn .flags { p with zeroed := true })
  | c => f.atWidth p c

def atStage (f : Filling) (p : Style) (c : CodePoint) : Stage → Except LineFailure Filling
  | .flags => f.atFlags p c
  | .widthDigits =>
    if c.isDigit then do
      let n ← extend (p.width.getD 0) c false
      return f.goOn .widthDigits { p with width := some n }
    else f.atPoint p c
  | .widthTaken => f.atPoint p c
  | .point => f.atPrecision p c
  | .precisionDigits =>
    if c.isDigit then do
      let n ← extend (p.precision.getD 0) c true
      return f.goOn .precisionDigits { p with precision := some n }
    else f.atModifier p c
  | .precisionTaken => f.atModifier p c
  | .letter => f.atLetter p c

/-- A code point of a name, which ends where its parentheses are closed. -/
def atName (attributes : List (Text × Attribute)) (f : Filling) (depth : Nat) (read : Text) (c : CodePoint) :
    Except LineFailure Filling :=
  if c = CodePoint.char ')' && depth ≤ 1 then
    match attributes.find? (·.1 = read) with
    | some (_, a) => .ok { f with waiting := some a, phase := .place .flags {} }
    | none => .error (.unknownName read)
  else
    let depth := if c = CodePoint.char '(' then depth + 1 else if c = CodePoint.char ')' then depth - 1 else depth
    .ok { f with phase := .name depth (read ++ [c]) }

def read (attributes : List (Text × Attribute)) (f : Filling) (c : CodePoint) : Except LineFailure Filling :=
  match f.phase with
  | .plain => .ok (if c = CodePoint.char '%' then { f with phase := .opened } else f.write [c])
  | .opened =>
    if c = CodePoint.char '%' then .ok (f.write "%")
    else if c = CodePoint.char '(' then .ok { f with phase := .name 1 [] }
    else f.atFlags {} c
  | .name depth read => atName attributes f depth read c
  | .place stage p => f.atStage p c stage

def step (attributes : List (Text × Attribute)) (f : Filling) (c : CodePoint) : Except LineFailure Filling :=
  (f.read attributes c).map fun next => { next with position := f.position + 1 }

def steps (attributes : List (Text × Attribute)) (f : Filling) : Text → Except LineFailure Filling
  | [] => .ok f
  | c :: rest => do (← f.step attributes c).steps attributes rest

def finish (f : Filling) : Except LineFailure Text :=
  match f.phase with
  | .plain => .ok f.line
  | .name _ _ => .error .openName
  | _ => .error .openPlace

def whole (attributes : List (Text × Attribute)) : Attribute :=
  .other "dict" ("\x7b" ++ Text.join ", " (attributes.map fun (name, a) => name.quoted ++ ": " ++ a.written) ++ "\x7d")

def start (attributes : List (Text × Attribute)) : Filling := ⟨[], 0, some (whole attributes), .plain⟩

end Filling

/-- The line that a layout gives for the attributes of a record. -/
def fillLayout (attributes : List (Text × Attribute)) (layout : Text) : Except LineFailure Text := do
  ((← (Filling.start attributes).steps attributes layout)).finish

/-- What log lines can show beside a level, a message and the name of a logger. -/
structure Scene where
  /-- The time as a text. -/
  time : Text
  /-- What was given as the message, and what was to be put into it. -/
  given : Attribute
  arguments : Attribute
  path : Text
  file : Text
  module : Text
  lineNumber : Int
  function : Text
  created : Binary64
  milliseconds : Binary64
  running : Binary64
  thread : Int
  threadName : Text
  processName : Text
  process : Int
  /-- The report of a line that cannot be put together. It tells of the installation. -/
  report : LineFailure → Text

namespace Scene

def ofTime (time : Text) : Scene where
  time := time
  given := .text []
  arguments := .other "tuple" "()"
  path := []
  file := []
  module := []
  lineNumber := 0
  function := []
  created := .ofInt 0
  milliseconds := .ofInt 0
  running := .ofInt 0
  thread := 0
  threadName := "MainThread"
  processName := "MainProcess"
  process := 0
  report failure := "--- Logging error ---\n" ++ failure.className ++ ": " ++ failure.message ++ "\n"

def nothing : Attribute := .other "NoneType" "None"

def lasting (s : Scene) (name : Text) (e : Entry) : List (Text × Attribute) :=
  [("name", .text name), ("msg", s.given), ("args", s.arguments), ("levelname", .text (Level.nameOf e.level)),
    ("levelno", .whole e.level), ("pathname", .text s.path), ("filename", .text s.file), ("module", .text s.module),
    ("exc_info", nothing), ("exc_text", nothing), ("stack_info", nothing), ("lineno", .whole s.lineNumber),
    ("funcName", .text s.function), ("created", .real s.created), ("msecs", .real s.milliseconds),
    ("relativeCreated", .real s.running), ("thread", .whole s.thread), ("threadName", .text s.threadName),
    ("processName", .text s.processName), ("process", .whole s.process), ("message", .text e.message)]

/-- The attributes of a record. The time is one of them once a layout has asked for it. -/
def attributes (s : Scene) (name : Text) (e : Entry) (timed : Bool) : List (Text × Attribute) :=
  let time : List (Text × Attribute) := [("asctime", .text s.time)]
  s.lasting name e ++ if timed then time else []

/-- The line of a record in a layout. An empty layout shows the message alone. -/
def line (s : Scene) (name : Text) (e : Entry) (timed : Bool) (layout : Text) : Except LineFailure Text :=
  match e.message.obstacle? with
  | some why => .error (.obstructed why)
  | none => fillLayout (s.attributes name e timed) (if layout.isEmpty then "%(message)s" else layout)

/-- What is written of a record in a layout: its line, or the report that there is none. -/
def written (s : Scene) (name : Text) (e : Entry) (timed : Bool) (layout : Text) : Text :=
  match s.line name e timed layout with
  | .ok t => t ++ "\n"
  | .error failure => s.report failure

def asksForTime : (layout : Text) → Bool
  | [] => false
  | c :: rest => ("%(asctime)" : Text).isPrefixOf (c :: rest) || asksForTime rest

/-- What is written of a record in several layouts, one after another. -/
def writtenIn (s : Scene) (name : Text) (e : Entry) : (timed : Bool) → (layouts : List Text) → Text
  | _, [] => []
  | timed, layout :: rest =>
    let timed := timed || asksForTime layout
    s.written name e timed layout ++ s.writtenIn name e timed rest

end Scene
end Schematic
