import Schematic.Value.Demand
import Schematic.Value.Key
import Schematic.Value.Written

/-! How an exception is written and what it says. Exceptions that report an error of the operating system are
made from a number, words, and names of files: the number decides the class, and the names are shown in the
message, but do not count among the arguments. Those of text say where it is at fault, and those of misread
scripts where they were misread. -/
namespace Schematic

/-- The classes of errors of the operating system, with the error numbers that belong to them. -/
def systemErrors : List (Text × List Int) :=
  [("OSError", []), ("BlockingIOError", [11, 114, 115]), ("ChildProcessError", [10]), ("ConnectionError", []),
   ("BrokenPipeError", [32, 108]), ("ConnectionAbortedError", [103]), ("ConnectionRefusedError", [111]),
   ("ConnectionResetError", [104]), ("FileExistsError", [17]), ("FileNotFoundError", [2]), ("InterruptedError", [4]),
   ("IsADirectoryError", [21]), ("NotADirectoryError", [20]), ("PermissionError", [1, 13]),
   ("ProcessLookupError", [3]), ("TimeoutError", [110])]

/-- The other names of the class of all errors of the operating system. -/
def systemErrorNames : List Text := ["IOError", "EnvironmentError"]

/-- The class of errors of the operating system that a number belongs to. -/
def systemErrorOf? (number : Value) : Option Text :=
  (systemErrors.find? fun entry => entry.2.any fun n => (Value.int n).same number).map (·.1)

namespace Raised

/-- The error of the operating system that a class makes of arguments. -/
def makeSystemError (className : Text) (arguments : List Value) : Except Raised Raised :=
  match arguments with
  | number :: _ :: more =>
    if className = ("OSError" : Text) && more.length ≤ 3 then
      match number.keyFailure? with
      | some e => .error e
      | none => .ok (mk ((systemErrorOf? number).getD className) arguments)
    else .ok (mk className arguments)
  | _ => .ok (mk className arguments)

/-- The exception that a class makes of arguments, or what is raised instead. -/
def make (className : Text) (arguments : List Value) : Except Raised Raised :=
  match refusal? className arguments with
  | some e => .error e
  | none => makeSystemError (if systemErrorNames.contains className then "OSError" else className) arguments

/-- Whether an argument counts as the name of a file. Being blocked may come with a count of bytes in its place. -/
def isName (e : Raised) : Value → Bool
  | .null => false
  | v => v.quantity?.isNone || e.className ≠ ("BlockingIOError" : Text)

/-- Number, words and file names of an error of the operating system, where it has number and words. -/
def report? (e : Raised) : Option (Value × Value × List Value) :=
  match e.arguments with
  | number :: words :: more =>
    if (systemErrors.any fun entry => entry.1 = e.className) && more.length ≤ 3 then
      match more with
      | [] => some (number, words, [])
      | file :: rest =>
        some (number, words, if e.isName file then file :: (rest.drop 1).filter e.isName else [])
    else none
  | _ => none

def kept (e : Raised) : List Value :=
  match e.report? with
  | some (number, words, _ :: _) => [number, words]
  | _ => e.arguments

def written (e : Raised) : Text :=
  match e.kept with
  | [v] => e.className ++ "(" ++ v.written ++ ")"
  | vs => e.className ++ writtenTuple (writtenItems vs)

/-- What failed, from a position up to another one of `what`; it is one item, if that is given. -/
def failed (action what : Text) (item : Option Text) (first last : Int) (reason : Text) : Text :=
  let place : Text := match item with
    | some item => what ++ " " ++ item ++ " in position " ++ Text.ofInt first
    | none => what ++ "s in position " ++ Text.ofInt first ++ "-" ++ Text.ofInt (last - 1)
  action ++ " " ++ place ++ ": " ++ reason

/-- The one item from a position up to another one, if there is one. -/
def single? {α : Type} (items : List α) (first last : Int) : Option α :=
  if 0 ≤ first && last = first + 1 then items[first.toNat]? else none

def escaped (c : CodePoint) : Text :=
  let n := c.toNat
  let digits : Text :=
    if n ≤ 0xff then "\\x" ++ Text.hex 2 n else if n ≤ 0xffff then "\\u" ++ Text.hex 4 n else "\\U" ++ Text.hex 8 n
  "'" ++ digits ++ "'"

def textMessage? (e : Raised) : Option Text :=
  let bound (v : Value) : Int := v.integer?.getD 0
  match e.arguments with
  | [encoding, .bytes bs, first, last, reason] =>
    some (failed ("'" ++ encoding.shown ++ "' codec can't decode") "byte"
      ((single? bs (bound first) (bound last)).map fun b => "0x" ++ Text.hex 2 b.toNat)
      (bound first) (bound last) reason.shown)
  | [encoding, .text t, first, last, reason] =>
    some (failed ("'" ++ encoding.shown ++ "' codec can't encode") "character"
      ((single? t (bound first) (bound last)).map escaped) (bound first) (bound last) reason.shown)
  | [.text t, first, last, reason] =>
    some (failed "can't translate" "character"
      ((single? t (bound first) (bound last)).map escaped) (bound first) (bound last) reason.shown)
  | _ => none

/-- What the exception of a misread script says: its message, with the file and the line, if they are given. -/
def misreadingMessage (e : Raised) : Text :=
  let message : Text := (e.arguments.head?.getD .null).shown
  let place : List Value := match e.arguments with
    | [_, place] => place.iterated?.getD []
    | _ => []
  let file : List Text := match place.head? with
    | some (.text path) => [(path.splitOn (CodePoint.char '/')).getLastD []]
    | _ => []
  let line : List Text := match (place.drop 1).head? with
    | some (.int n) => ["line " ++ Text.ofInt (if -0x8000000000000000 ≤ n && n < 0x8000000000000000 then n else -1)]
    | _ => []
  if (file ++ line).isEmpty then message else message ++ " (" ++ Text.join ", " (file ++ line) ++ ")"

/-- What an exception says; that of a missing key shows the key as it is written. -/
def message (e : Raised) : Text :=
  match e.report? with
  | some (number, words, files) =>
    let names : Text := if files.isEmpty then [] else ": " ++ Text.join " -> " (files.map Value.written)
    "[Errno " ++ number.shown ++ "] " ++ words.shown ++ names
  | none =>
    if misreadings.contains e.className then e.misreadingMessage
    else
      match (if textFailures.any (·.1 = e.className) then e.textMessage? else none), e.arguments with
      | some t, _ => t
      | none, [] => []
      | none, [v] => if e.className = ("KeyError" : Text) then v.written else v.shown
      | none, vs => writtenTuple (writtenItems vs)

def ofObstacle (why : Obstacle) : Raised := .mk (Text.ofString why.className) [.text (Text.ofString why.message)]

/-- What is raised where an integer of too many digits is to be shown. -/
def tooManyDigits : Raised := ofObstacle .tooManyDigits

end Raised

def Text.whole (t : Text) : Except Raised Text :=
  match t.obstacle? with
  | some why => .error (.ofObstacle why)
  | none => .ok t

theorem Text.whole_eq_ok {t : Text} : t.whole = .ok t ↔ t.hasGap = false := by
  rw [whole, hasGap]
  cases t.obstacle? <;> simp

end Schematic
