import Schematic.Fluent.Call

namespace Schematic

inductive Builder where
  /-- A text, a number or a kind without structure. -/
  | plain (k : Kind)
  | array
  | object
  | enum
  | union
  | intersection
  | record
  | tuple
  | literal
  | promise
  | lazy
  | preprocess
deriving DecidableEq, Repr

namespace Builder

def all : List (Text × Builder) :=
  [("string", plain .string), ("number", plain .number), ("boolean", plain (.primitive .boolean)),
   ("date", plain (.primitive .date)), ("null", plain (.primitive .null)),
   ("undefined", plain (.primitive .undefined)), ("any_", plain (.primitive .any)),
   ("unknown", plain (.primitive .unknown)), ("never", plain (.primitive .never)), ("void", plain (.primitive .void)),
   ("bigint", plain (.primitive .bigint)), ("function", plain (.primitive .function)), ("array", array),
   ("object_", object), ("enum_", enum), ("union", union), ("intersection", intersection), ("record", record),
   ("tuple_", tuple), ("literal", literal), ("promise", promise), ("lazy", lazy), ("preprocess", preprocess)]

def named? (name : Text) : Option Builder := (all.find? (·.1 = name)).map (·.2)

def parameters : Builder → Parameters
  | plain _ => .ofNames []
  | array => .ofNames ["element"]
  | object => ⟨["shape"], 0, false⟩
  | enum | union => .ofNames ["options"]
  | intersection => .ofNames ["left", "right"]
  | record => ⟨["key_or_value", "value"], 1, false⟩
  | tuple => ⟨["items", "rest"], 1, false⟩
  | literal => .ofNames ["value"]
  | promise => .ofNames ["inner"]
  | lazy => .ofNames ["getter"]
  | preprocess => .ofNames ["fn", "inner"]

/-- The node that a builder makes of fitting arguments, of which the second may be null if it is not
given; what a function builds on the way has number `copy`. -/
def make (defs : Definitions) (copy : Nat) (i : Identity) (b : Builder) (first second : Value) : Outcome Descriptor :=
  match b with
  | plain k => (Descriptor.ofFields k i []).outcome
  | array => (Descriptor.ofFields .array i [(.text "element", first)]).outcome
  | object => do
    let shape ← if first.truthy then first.toDictionary defs copy else .ok []
    (Descriptor.ofFields .object i [(.text "shape", .dict shape)]).outcome
  | enum => do (Descriptor.ofFields .enum i [(.text "options", .tuple (← first.iterate))]).outcome
  | union => do (Descriptor.ofFields .union i [(.text "options", .tuple (← first.iterate))]).outcome
  | intersection => (Descriptor.ofFields .intersection i [(.text "left", first), (.text "right", second)]).outcome
  | record =>
    (Descriptor.ofFields .record i (match second with
      | .null => [(.text "value_type", first)]
      | value => [(.text "key_type", first), (.text "value_type", value)])).outcome
  | tuple => do
    (Descriptor.ofFields .tuple i [(.text "items", .tuple (← first.iterate)), (.text "rest", second)]).outcome
  | literal => (Descriptor.ofFields .literal i [(.text "value", first)]).outcome
  | promise => (Descriptor.ofFields .promise i [(.text "inner", first)]).outcome
  | lazy => (Descriptor.ofFields .lazy i [(.text "getter", first)]).outcome
  | preprocess =>
    (Descriptor.ofFields .effect i
      [(.text "inner", second), (.text "effect", first),
       (.text "effect_type", .text EffectKind.preprocess.tag)]).outcome

/-- The kinds whose classes stand beside the builders. -/
def classes : List Kind :=
  Kind.all.filter fun k => !([.optional, .nullable, .default, .readonly, .catching, .branded] : List Kind).contains k

/-- Other names beside the builders, with what is said when they are called. -/
def uncallable : List (Text × Text) :=
  [("Any", "Any cannot be instantiated"),
   ("Callable", "Can't instantiate abstract class Callable with abstract method __call__"),
   ("Iterable", "Can't instantiate abstract class Iterable with abstract method __iter__"),
   ("Mapping", "Can't instantiate abstract class Mapping with abstract methods __getitem__, __iter__, __len__"),
   ("Descriptor", "Cannot instantiate typing.Union"), ("annotations", "'_Feature' object is not callable")]

/-- Make a node of a class, whose fields all take their defaults. -/
def instantiate (i : Identity) (k : Kind) (given : Nat) : Outcome Descriptor :=
  if given = 0 then (Descriptor.ofFields k i []).outcome
  else typeError ((Parameters.ofNames []).tooMany "BaseModel.__init__" 1 given)

def unknown (name : Text) : Raised :=
  .mk "AttributeError" [.text ("module 'schemadoc.builders' has no attribute '" ++ name ++ "'")]

def call (defs : Definitions) (copy : Nat) (i : Identity) (name : Text) (arguments : List Value) : Outcome Descriptor :=
  match named? name with
  | none =>
    match classes.find? (·.className = name), uncallable.find? (·.1 = name) with
    | some k, _ => instantiate i k arguments.length
    | none, some (_, message) => typeError message
    | none, none => .error (.raised (unknown name))
  | some b => do
    b.parameters.check name 0 arguments.length
    b.make defs copy i (arguments.getD 0 .null) (arguments.getD 1 .null)

end Builder
end Schematic
