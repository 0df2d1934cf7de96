import Schematic.Fluent.Builder
import Schematic.Fluent.Method
import Schematic.Value.Demand

/-! Values are made step by step and kept under the names of registers. A step calls a builder or a method,
assigns a field, or compares two registers. A field of a node cannot be assigned; under a name that begins
with an underscore a node keeps what is assigned beside its fields, and so do the copies made of it. -/
namespace Schematic

structure Workbench where
  registers : List (Text × Value)
  /-- What is kept beside the fields of objects. -/
  attached : List (Identity × Text × Value)

namespace Workbench

def empty : Workbench := ⟨[], []⟩

inductive Step where
  | build (builder : Text) (arguments : List Value)
  | call (register method : Text) (arguments : List Value)
  | assign (register field : Text) (value : Value)
  | compare (first second : Text)

def get? (w : Workbench) (register : Text) : Option Value := (w.registers.find? (·.1 = register)).map (·.2)

def get (w : Workbench) (register : Text) : Except Raised Value :=
  match w.get? register with
  | some v => .ok v
  | none => .error (.noEntry (.text register))

def put (w : Workbench) (register : Text) (v : Value) : Workbench :=
  { w with registers := (register, v) :: w.registers }

/-- The object to which something can be attached under a name. -/
def holder? (name : Text) : Value → Option Identity
  | .node d => if name.head? = some (CodePoint.char '_') then some d.identity else none
  | .foreign i _ _ _ | .callable i _ => some i
  | .exotic e => if e.isUnique then some e.identity else none
  | _ => none

def attached? (w : Workbench) (i : Identity) (name : Text) : Option Value :=
  (w.attached.find? fun entry => entry.1 = i && entry.2.1 = name).map (·.2.2)

/-- What is raised where a value is assigned to what makes an object what it is: its class or its fields. -/
def refusal? (name : Text) (value : Value) : Option Raised :=
  if name = ("__class__" : Text) then
    some (.typeFailure ("__class__ must be set to a class, not '" ++ value.typeName ++ "' object"))
  else if name = ("__dict__" : Text) && value.entries?.isNone then
    some (.typeFailure ("__dict__ must be set to a dictionary, not a '" ++ value.typeName ++ "'"))
  else none

def assign (w : Workbench) (v : Value) (name : Text) (value : Value) : Outcome Workbench :=
  match holder? name v, v with
  | some i, _ =>
    match refusal? name value with
    | some e => .error (.raised e)
    | none => .ok { w with attached := (i, name, value) :: w.attached }
  | none, .node _ => .error (.invalid [⟨.frozen, [.name name]⟩])
  | none, v => .error (.raised (.noAttribute v name))

/-- What is attached to a node is attached to a copy of it too. -/
def carryOver (w : Workbench) (source copy : Value) : Workbench :=
  match source, copy with
  | .node d, .node e =>
    { w with attached :=
      (w.attached.filter (·.1 = d.identity)).map (fun entry => (e.identity, entry.2)) ++ w.attached }
  | _, _ => w

/-- Call a method of a value, or what is attached to it under that name. -/
def callMethod (w : Workbench) (defs : Definitions) (copy : Nat) (i : Identity) (v : Value) (name : Text)
    (arguments : List Value) : Outcome (Value × Workbench) :=
  match (holder? name v).bind fun h => w.attached? h name with
  | some (.callable _ action) => (action.outcome defs copy).map fun r => (r, w)
  | some other => .error (.raised (.notCallable other))
  | none => do
    let r ← v.call defs copy i name arguments
    let isCopy := match v with
      | .node d => (Method.named? d.toKind name).any Method.copies
      | _ => false
    return (r, if isCopy then w.carryOver v r else w)

/-- Do one step. A new node has identity `i`, what a function builds has number `copy`. -/
def run (w : Workbench) (defs : Definitions) (copy : Nat) (i : Identity) : Step → Outcome (Value × Workbench)
  | .build builder arguments => (Builder.call defs copy i builder arguments).map fun d => (.node d, w)
  | .call register method arguments => do
    let v ← (w.get register).mapError .raised
    w.callMethod defs copy i v method arguments
  | .assign register field value => do
    let v ← (w.get register).mapError .raised
    return (.null, ← w.assign v field value)
  | .compare first second => do
    let a ← (w.get first).mapError .raised
    let b ← (w.get second).mapError .raised
    return (.bool (← (a.equals b).outcome.mapError .raised), w)

end Workbench
end Schematic
