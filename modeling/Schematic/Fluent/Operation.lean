import Schematic.Fluent.Call

namespace Schematic

inductive LengthBound where
  | min
  | max
  | exact
deriving DecidableEq, Repr

def TextCheck.make (rule : TextRule) (operand : Value) (flags : Text) : Checked TextCheck :=
  (fun o => ⟨rule, o, flags⟩) <$> Checked.within (.name "value") (Checked.textOperand operand)

def NumberCheck.make (rule : NumberRule) (operand : Value) (inclusive : Bool) : Checked NumberCheck :=
  (fun o => ⟨rule, o, inclusive⟩) <$> Checked.within (.name "value") (Checked.numberOperand operand)

namespace Descriptor

/-- `d` with another description. -/
def describe (i : Identity) (description : Value) (d : Descriptor) : Descriptor := .mk i description d.body

def withBody (i : Identity) (body : Body) (d : Descriptor) : Descriptor := .mk i d.description body

/-- A node of kind `k` around `d`, with the description of `d` and some further fields. -/
def wrapped (k : Kind) (more : Fields) (i : Identity) (d : Descriptor) : Checked Descriptor :=
  ofFields k i ((.text "inner", .node d) :: (.text "description", d.description) :: more)

def optional (i : Identity) (d : Descriptor) : Checked Descriptor := d.wrapped .optional [] i

def nullable (i : Identity) (d : Descriptor) : Checked Descriptor := d.wrapped .nullable [] i

def nullish (i : Identity) (d : Descriptor) : Checked Descriptor :=
  match d.nullable (i.child 0) with
  | .ok inner => inner.optional i
  | .faulty issues => .faulty issues

/-- A function given as the default makes it anew each time. -/
def default (value : Value) (i : Identity) (d : Descriptor) : Checked Descriptor :=
  match value with
  | .callable j action => d.wrapped .default [(.text "default_factory", .callable j action)] i
  | v => d.wrapped .default [(.text "default_value", v)] i

def readonly (i : Identity) (d : Descriptor) : Checked Descriptor := d.wrapped .readonly [] i

def catching (value : Value) (i : Identity) (d : Descriptor) : Checked Descriptor :=
  d.wrapped .catching [(.text "catch_value", value)] i

def effect (kind : EffectKind) (function : Value) (i : Identity) (d : Descriptor) : Checked Descriptor :=
  d.wrapped .effect [(.text "effect", function), (.text "effect_type", .text kind.tag)] i

def brand (name : Value) (i : Identity) (d : Descriptor) : Checked Descriptor :=
  d.wrapped .branded [(.text "brand_name", name)] i

/-- An array whose elements are described by `d`. -/
def array (i : Identity) (d : Descriptor) : Checked Descriptor := ofFields .array i [(.text "element", .node d)]

def or (other : Value) (i : Identity) (d : Descriptor) : Checked Descriptor :=
  ofFields .union i [(.text "options", .tuple [.node d, other])]

def and (other : Value) (i : Identity) (d : Descriptor) : Checked Descriptor :=
  ofFields .intersection i [(.text "left", .node d), (.text "right", other)]

/-- `d` with one more check at the end, if it is a text schema. -/
def withTextCheck (i : Identity) (c : TextCheck) (d : Descriptor) : Descriptor :=
  match d.body with
  | .string checks => d.withBody i (.string (checks ++ [c]))
  | body => d.withBody i body

/-- `d` with one more check at the end, if it is a number schema. -/
def withNumberCheck (i : Identity) (c : NumberCheck) (d : Descriptor) : Descriptor :=
  match d.body with
  | .number checks => d.withBody i (.number (checks ++ [c]))
  | body => d.withBody i body

def checkText (rule : TextRule) (operand : Value) (i : Identity) (d : Descriptor) : Checked Descriptor :=
  (TextCheck.make rule operand []).map fun c => d.withTextCheck i c

def matching (pattern : Value) (i : Identity) (d : Descriptor) : Checked Descriptor :=
  match pattern with
  | .pattern source flags => (TextCheck.make .regex (.text source) flags).map fun c => d.withTextCheck i c
  | v => d.checkText .regex v i

/-- A check given by the name of its rule, of which all arguments are looked at. -/
def withCheck (arguments : List Value) (i : Identity) (d : Descriptor) : Checked Descriptor :=
  let fields (last : Text) : Fields := [.text "kind", .text "value", .text last].zip arguments
  match d.body with
  | .string _ => (TextCheck.ofFields (fields "flags")).map fun c => d.withTextCheck i c
  | _ => (NumberCheck.ofFields (fields "inclusive")).map fun c => d.withNumberCheck i c

def checkNumber (rule : NumberRule) (operand : Value) (inclusive : Bool) (i : Identity) (d : Descriptor) :
    Checked Descriptor :=
  (NumberCheck.make rule operand inclusive).map fun c => d.withNumberCheck i c

def withLength (bound : LengthBound) (length : Value) (i : Identity) (d : Descriptor) : Descriptor :=
  match d.body, bound with
  | .array e _ high exact, .min => d.withBody i (.array e length high exact)
  | .array e low _ exact, .max => d.withBody i (.array e low length exact)
  | .array e low high _, .exact => d.withBody i (.array e low high length)
  | body, _ => d.withBody i body

def properties (d : Descriptor) : Fields :=
  match d.body with
  | .object properties => properties
  | _ => []

def withProperties (i : Identity) (properties : Fields) (d : Descriptor) : Descriptor :=
  d.withBody i (.object properties)

/-- Properties of the same key are replaced in their place, others come at the end. -/
def extend (shape : Fields) (i : Identity) (d : Descriptor) : Descriptor :=
  d.withProperties i (Entries.putAll d.properties shape)

/-- The properties with a key among `keys`. -/
def pick (keys : List Value) (i : Identity) (d : Descriptor) : Descriptor :=
  d.withProperties i (d.properties.filter fun property => keys.any property.1.same)

/-- The properties with a key not among `keys`. -/
def omitting (keys : List Value) (i : Identity) (d : Descriptor) : Descriptor :=
  d.withProperties i (d.properties.filter fun property => !keys.any property.1.same)

/-- A property that may be left out: an optional node stays as it is, another one is wrapped; an object that
is no node is asked for its own way. -/
def optionalProperty (defs : Definitions) (copy : Nat) (i : Identity) (v : Value) : Outcome Value :=
  match v with
  | .node d => if v.isOptionalNode then .ok v else (d.optional i).outcome.map .node
  | v => v.callAttribute defs copy "optional"

/-- Each property as one that may be left out; the first has position `n`. -/
def optionalProperties (defs : Definitions) (copy : Nat) (i : Identity) : (n : Nat) → Fields → Outcome Fields
  | _, [] => .ok []
  | n, (key, v) :: rest => do
    let property ← optionalProperty defs copy (i.child n) v
    let more ← optionalProperties defs copy i (n + 1) rest
    return (key, property) :: more

def allOptional (defs : Definitions) (copy : Nat) (i : Identity) (d : Descriptor) : Outcome Descriptor :=
  (optionalProperties defs copy i 0 d.properties).map fun properties => d.withProperties i properties

def withRest (rest : Value) (i : Identity) (d : Descriptor) : Descriptor :=
  match d.body with
  | .tuple items _ => d.withBody i (.tuple items rest)
  | body => d.withBody i body

end Descriptor
end Schematic
