import Schematic.Json.Writer
import Schematic.Value.Exception

/-! The token by which a default or a literal is shown: nothing for an absent value, `null`, a text between
double quotes, a truth word, a number without a needless point, compact JSON for a container, the word
`Function`, and its own text for all else. A container that JSON cannot hold is shown by a placeholder. -/
namespace Schematic

inductive ValueClass where
  | absent
  | null
  | text
  | boolean
  | number
  | structured
  | callable
  | other
deriving DecidableEq, Repr

def Value.valueClass : Value → ValueClass
  | .absent => .absent
  | .null => .null
  | .text _ => .text
  | .bool _ => .boolean
  | .int _ | .float _ => .number
  | .list _ | .tuple _ | .set _ | .frozenset _ | .dict _ | .cyclicList _ | .cyclicDict _ => .structured
  | .callable _ _ => .callable
  | _ => .other

/-- A floating point number that is whole is shown as the integer. -/
def Binary64.token (x : Binary64) : Text :=
  match x.toInt? with
  | some n => Text.ofInt n
  | none => x.text

def NumberOperand.token : NumberOperand → Text
  | none => "None"
  | int n => Text.ofInt n
  | float x => x.token

/-- The items of a set in the order of their written forms. -/
def inWrittenOrder (items : List Value) : List Value :=
  items.mergeSort fun a b => Text.le a.written b.written

/-- The list that stands for a set at the top of a value. -/
def Value.setAsList : Value → Value
  | .set items | .frozenset items => .list (inWrittenOrder items)
  | v => v

/-- An order of obstacles, by their classes and then by what they say. -/
def Obstacle.le (a b : Obstacle) : Bool :=
  if a.className = b.className then Text.le a.message b.message else Text.le a.className b.className

def Obstacle.least (a b : Obstacle) : Obstacle := if a.le b then a else b

def leastObstacle? : List Obstacle → Option Obstacle
  | [] => none
  | why :: more =>
    match leastObstacle? more with
    | none => some why
    | some other => some (why.least other)

/-- What is met when the items of a set are written to be put in order. Which one of several obstacles is met is up to
the order that the items happen to come in; here it is the least. -/
def Value.itemObstacle? : Value → Option Obstacle
  | .set items | .frozenset items => leastObstacle? (items.filterMap fun v => v.written.obstacle?)
  | _ => none

/-- Whether putting the items of a value in order comes upon one that cannot be written. -/
def Value.hasUnwrittenItem (v : Value) : Bool := v.itemObstacle?.isSome

def placeholder : Text := "\x7b...\x7d"

def functionToken : Text := "Function"

def Value.token (v : Value) : Text :=
  match v with
  | .absent => []
  | .null => "null"
  | .text t => "\"" ++ t ++ "\""
  | .bool b => if b then "true" else "false"
  | .int n => Text.ofInt n
  | .float x => x.token
  | .callable _ _ => functionToken
  | v =>
    match v.valueClass with
    | .structured =>
      match v.itemObstacle? with
      | some why => [.gap why]
      | none => (Json.write? v.setAsList).getD placeholder
    | _ => v.shown

theorem isSome_leastObstacle? (obstacles : List Obstacle) : (leastObstacle? obstacles).isSome = !obstacles.isEmpty := by
  cases obstacles with
  | nil => rfl
  | cons why more =>
    rw [leastObstacle?]
    cases leastObstacle? more <;> rfl

theorem token_of_structured {v : Value} (h : v.valueClass = .structured) :
    v.token = match v.itemObstacle? with
      | some why => [.gap why]
      | none => (Json.write? v.setAsList).getD placeholder := by
  cases v with
  | list | tuple | set | frozenset | dict | cyclicList | cyclicDict => rfl
  | _ => cases h

/-- The display token of a value, or what is raised where it has none. -/
def Value.shownToken (v : Value) : Except Raised Text := v.token.whole

end Schematic
