import Schematic.Value.Token

/-! The call stack has room for a number of containers one inside the other. Writing a value whose containers
go deeper raises an exception, unless something that cannot be written at all is met before. Such a value is
given here by its class and that exception, wherever it may be shown: among the values of nodes, the arguments
of exceptions and the attributes of other objects. -/
namespace Schematic

namespace Obstacle

def writingTooDeep : Obstacle :=
  ⟨"RecursionError", "maximum recursion depth exceeded while getting the repr of an object"⟩

def encodingTooDeep : Obstacle := ⟨"RecursionError", "maximum recursion depth exceeded while encoding a JSON object"⟩

end Obstacle

mutual

/-- How many containers that are not empty stand one inside the other. -/
def Value.nesting : Value → Nat
  | .list items | .tuple items | .set items | .frozenset items => if items.isEmpty then 0 else nestingOfItems items + 1
  | .dict entries => if entries.isEmpty then 0 else nestingOfEntries entries + 1
  | _ => 0

def nestingOfItems : List Value → Nat
  | [] => 0
  | v :: vs => max v.nesting (nestingOfItems vs)

def nestingOfEntries : List (Value × Value) → Nat
  | [] => 0
  | (k, v) :: rest => max (max k.nesting v.nesting) (nestingOfEntries rest)

end

namespace Json

inductive Fate where
  | written
  | refused
  | tooDeep
deriving DecidableEq, Repr

def Fate.obstacle? : Fate → Option Obstacle
  | tooDeep => some .encodingTooDeep
  | _ => none

def Fate.and (first second : Fate) : Fate :=
  match first with
  | written => second
  | f => f

mutual

/-- How writing a value ends where the stack has room for `room` containers that are not empty. -/
def fate (room : Nat) (v : Value) : Fate :=
  match v with
  | .list items | .tuple items =>
    if items.isEmpty then .written
    else match room with
      | 0 => .tooDeep
      | room + 1 => fateOfItems room items
  | .dict entries =>
    if entries.isEmpty then .written
    else match room with
      | 0 => .tooDeep
      | room + 1 => fateOfEntries room entries
  | v =>
    match write? v with
    | some _ => .written
    | none => .refused

def fateOfItems (room : Nat) : List Value → Fate
  | [] => .written
  | v :: vs => (fate room v).and (fateOfItems room vs)

def fateOfEntries (room : Nat) : List (Value × Value) → Fate
  | [] => .written
  | (k, v) :: rest =>
    if (key? k).isNone then .refused else (fate room v).and (fateOfEntries room rest)

end
end Json

/-- What is raised where a value is written inside containers. -/
def Value.writingObstacle? (room : Nat) (v : Value) : Option Obstacle :=
  if room < v.nesting then some .writingTooDeep else v.written.obstacle?

/-- What is raised where the token of a container is put together. -/
def Value.tokenObstacle? (room : Nat) : Value → Option Obstacle
  | .set items | .frozenset items =>
    (items.findSome? (Value.writingObstacle? room)).or (Json.fate room (.list (inWrittenOrder items))).obstacle?
  | .list items => (Json.fate room (.list items)).obstacle?
  | .tuple items => (Json.fate room (.tuple items)).obstacle?
  | .dict entries => (Json.fate room (.dict entries)).obstacle?
  | _ => none

mutual

/-- A value as it shows itself where the stack has room for `room` containers. -/
def Value.shallow (room : Nat) : Value → Value
  | .callable i action => .callable i (action.shallow room)
  | .foreign i className attributes unreadable => .foreign i className (shallowAttributes room attributes) unreadable
  | .node d => .node (d.shallow room)
  | v => match v.tokenObstacle? room with
    | some why => .unshown v.className why
    | none => v

def Action.shallow (room : Nat) : Action → Action
  | .returns v => .returns (v.shallow room)
  | .raises e => .raises (e.shallow room)
  | a => a

def Raised.shallow (room : Nat) : Raised → Raised
  | .mk className arguments => .mk className (arguments.map fun v =>
      if room < v.nesting then .unshown v.className .writingTooDeep else v)

def Modifier.shallow (room : Nat) : Modifier → Modifier
  | .default value factory => .default (value.shallow room) (factory.shallow room)
  | .catching value => .catching (value.shallow room)
  | .effect function kind => .effect (function.shallow room) kind
  | m => m

def Body.shallow (room : Nat) : Body → Body
  | .array e low high exact => .array (e.shallow room) low high exact
  | .object properties => .object (shallowEntries room properties)
  | .union options => .union (shallowNodes room options)
  | .intersection left right => .intersection (left.shallow room) (right.shallow room)
  | .record key value => .record (key.shallow room) (value.shallow room)
  | .tuple items rest => .tuple (shallowNodes room items) (rest.shallow room)
  | .literal value => .literal (value.shallow room)
  | .promise inner => .promise (inner.shallow room)
  | .modified m inner => .modified (m.shallow room) (inner.shallow room)
  | .lazy i getter => .lazy i (getter.shallow room)
  | b => b

def Descriptor.shallow (room : Nat) : Descriptor → Descriptor
  | .mk i description body => .mk i description (body.shallow room)

def shallowEntries (room : Nat) : List (Value × Value) → List (Value × Value)
  | [] => []
  | (k, v) :: rest => (k, v.shallow room) :: shallowEntries room rest

def shallowAttributes (room : Nat) : List (Text × Value) → List (Text × Value)
  | [] => []
  | (name, v) :: rest => (name, v.shallow room) :: shallowAttributes room rest

def shallowNodes (room : Nat) : List Descriptor → List Descriptor
  | [] => []
  | d :: ds => d.shallow room :: shallowNodes room ds

end

def Definitions.shallow (room : Nat) (defs : Definitions) : Definitions :=
  defs.map fun
    | .ok v => .ok (v.shallow room)
    | .error e => .error (e.shallow room)

end Schematic
