import Schematic.Value.Equality

/-! Whether a schema admits an absent value or a null. The question is passed down through modifiers, unions
and intersections from left to right, and stops as soon as the answer is known. An answer is any value that an
object gives by its own method, and counts as a yes if it counts as true; a union turns it into a truth value.
The question may fail: at a getter that raises, at a value that does not know the question, or because it
never ends. A failure anywhere on the way is a failure of the whole question and counts as a no. -/
namespace Schematic

inductive Capability where
  | optional
  | nullable
deriving DecidableEq, Repr

inductive Answer where
  | gives (v : Value)
  | fails (e : Raised)

namespace Answer

def isYes : Answer → Bool
  | gives v => v.truthy
  | fails _ => false

def ofBool (b : Bool) : Answer := gives (.bool b)

def or (first second : Answer) : Answer :=
  match first with
  | gives v => if v.truthy then ofBool true else second
  | a => a

def and (first second : Answer) : Answer := if first.isYes then second else first

end Answer

namespace Capability

/-- The method that answers the question for an object that is no descriptor. -/
def methodName : Capability → Text
  | optional => "is_optional"
  | nullable => "is_nullable"

def ofPrimitive : Capability → Primitive → Bool
  | _, .any | _, .unknown => true
  | optional, .undefined | optional, .void => true
  | nullable, .null => true
  | _, _ => false

def ofLiteral : Capability → Value → Bool
  | optional, .absent => true
  | nullable, .null => true
  | _, _ => false

/-- Whether a modifier alone makes the answer a yes; otherwise the question is passed to what it
wraps. -/
def grantedBy : Capability → Modifier → Bool
  | _, .catching _ => true
  | optional, .optional | optional, .default _ _ => true
  | nullable, .nullable => true
  | _, _ => false

end Capability

def Value.answerOfCall (defs : Definitions) : Value → Answer
  | .callable _ action => match action.call defs 0 with
    | .ok v => .gives v
    | .error e => .fails e
  | v => .fails (.notCallable v)

mutual

/-- The answer for a value, when `jump` answers for the shared definitions. -/
def Value.ask (c : Capability) (defs : Definitions) (jump : Nat → Answer) : Value → Answer
  | .node d => d.ask c defs jump
  | .foreign i className attributes unreadable =>
    match (Value.foreign i className attributes unreadable).attribute? c.methodName with
    | some v => v.answerOfCall defs
    | none => .fails (.noAttribute (.foreign i className attributes unreadable) c.methodName)
  | v => .fails (.noAttribute v c.methodName)

def Action.ask (c : Capability) (defs : Definitions) (jump : Nat → Answer) : Action → Answer
  | .returns v => v.ask c defs jump
  | .raises e => .fails e
  | .shares n => jump n
  | .rebuilds n => jump n

def Descriptor.ask (c : Capability) (defs : Definitions) (jump : Nat → Answer) : Descriptor → Answer
  | .mk _ _ body => body.ask c defs jump

def Body.ask (c : Capability) (defs : Definitions) (jump : Nat → Answer) : Body → Answer
  | .primitive p => .ofBool (c.ofPrimitive p)
  | .literal v => .ofBool (c.ofLiteral v)
  | .union options => askAny c defs jump options
  | .intersection left right => (left.ask c defs jump).and (right.ask c defs jump)
  | .modified m inner => if c.grantedBy m then .ofBool true else inner.ask c defs jump
  | .lazy _ getter => getter.ask c defs jump
  | _ => .ofBool false

/-- A yes if one of the answers is, unless an earlier one fails. -/
def askAny (c : Capability) (defs : Definitions) (jump : Nat → Answer) : List Descriptor → Answer
  | [] => .ofBool false
  | d :: ds => (d.ask c defs jump).or (askAny c defs jump ds)

end

/-- The answer for a shared definition if at most `entries` definitions are entered one inside the
other. -/
def askDefinition (c : Capability) (defs : Definitions) : (entries : Nat) → Nat → Answer
  | 0, _ => .fails .endless
  | entries + 1, n => match defs.get n with
    | .ok v => v.ask c defs (askDefinition c defs entries)
    | .error e => .fails e

/-- The answer for `v`. A question that enters more definitions than there are, one inside the other,
comes back to one of them and never ends. -/
def Value.answer (c : Capability) (defs : Definitions) (v : Value) : Answer :=
  v.ask c defs (askDefinition c defs defs.length)

/-- Whether `v` has the capability. -/
def Value.can (c : Capability) (defs : Definitions) (v : Value) : Bool := (v.answer c defs).isYes

end Schematic
