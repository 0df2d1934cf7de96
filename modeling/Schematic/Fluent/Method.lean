import Schematic.Fluent.Operation
import Schematic.Schema.Summary
import Schematic.Value.Exotic
import Schematic.Value.Dictionary

namespace Schematic

inductive Method where
  | describe
  | optional
  | nullable
  | nullish
  | default
  | readonly
  | catching
  | transform
  | refine
  | brand
  | array
  | or
  | and
  | asks (c : Capability)
  | textCheck (rule : TextRule)
  | bareTextCheck (rule : TextRule)
  | matching
  | bound (rule : NumberRule) (inclusive : Bool)
  | boundAtZero (rule : NumberRule) (inclusive : Bool)
  | integer
  | multipleOf
  | length (bound : LengthBound)
  | nonempty
  | extend
  | pick
  | omitting
  | allOptional
  | withRest
  | withCheck
  | getDefault
  | resolve
  | duplicate
  | dictionary
  | written
  | shown
  | equals
deriving DecidableEq, Repr

namespace Method

def general : List (Text × Method) :=
  [("describe", describe), ("optional", optional), ("nullable", nullable), ("nullish", nullish), ("default", default),
   ("readonly", readonly), ("catch", catching), ("transform", transform), ("refine", refine), ("brand", brand),
   ("array", array), ("or_", or), ("and_", and), ("is_optional", asks .optional), ("is_nullable", asks .nullable)]

/-- The methods that nodes have because they are records of fields. -/
def ofRecords : List (Text × Method) :=
  [("model_copy", duplicate), ("copy", duplicate), ("model_dump", dictionary), ("dict", dictionary),
   ("__repr__", written), ("__str__", shown), ("__eq__", equals)]

/-- What nodes have beside fields and methods, with the class of each. -/
def attributes : List (Text × Text) :=
  [("model_config", "dict"), ("model_fields", "dict"), ("model_computed_fields", "dict"), ("model_fields_set", "set"),
   ("model_extra", "NoneType"), ("__dict__", "dict"), ("__module__", "str"), ("__annotations__", "dict")]

/-- The methods that nodes of one kind have beside the general ones. -/
def special : Kind → List (Text × Method)
  | .string =>
    [("min", textCheck .min), ("max", textCheck .max), ("length", textCheck .length), ("email", bareTextCheck .email),
     ("url", bareTextCheck .url), ("uuid", bareTextCheck .uuid), ("regex", matching),
     ("starts_with", textCheck .startsWith), ("ends_with", textCheck .endsWith), ("_with_check", withCheck)]
  | .number =>
    [("gte", bound .min true), ("min", bound .min true), ("gt", bound .min false), ("lte", bound .max true),
     ("max", bound .max true), ("lt", bound .max false), ("integer", integer), ("multiple_of", multipleOf),
     ("positive", boundAtZero .min false), ("nonnegative", boundAtZero .min true),
     ("negative", boundAtZero .max false), ("nonpositive", boundAtZero .max true),
     ("_with_check", withCheck)]
  | .array => [("min", length .min), ("max", length .max), ("length", length .exact), ("nonempty", nonempty)]
  | .object => [("extend", extend), ("pick", pick), ("omit", omitting), ("partial", allOptional)]
  | .tuple => [("with_rest", withRest)]
  | .default => [("get_default", getDefault)]
  | .lazy => [("resolve", resolve)]
  | _ => []

def named? (k : Kind) (name : Text) : Option Method :=
  ((special k ++ general ++ ofRecords).find? (·.1 = name)).map (·.2)

def parameters (k : Kind) : Method → Parameters
  | withCheck => ⟨["kind", "value", if k = .string then "flags" else "inclusive"], 1, false⟩
  | describe => .ofNames ["description"]
  | default | catching | textCheck _ | bound _ _ | multipleOf | length _ => .ofNames ["value"]
  | transform | refine => .ofNames ["fn"]
  | brand => .ofNames ["name"]
  | or | and | equals => .ofNames ["other"]
  | matching => .ofNames ["pattern"]
  | extend => .ofNames ["shape"]
  | withRest => .ofNames ["rest"]
  | pick | omitting => ⟨[], 0, true⟩
  | _ => .ofNames []

/-- Whether the result is a copy of the node, with other fields. -/
def copies : Method → Bool
  | describe | textCheck _ | bareTextCheck _ | matching | bound _ _ | boundAtZero _ _ | integer | multipleOf
  | length _ | nonempty | extend | pick | omitting | allOptional | withRest | withCheck | duplicate => true
  | _ => false

/-- Whether nodes of a kind answer for a capability in their own way. -/
def answersItself : Capability → Kind → Bool
  | _, .primitive .any | _, .primitive .unknown | _, .union | _, .intersection | _, .literal | _, .lazy
  | _, .optional | _, .nullable | _, .default | _, .readonly | _, .catching | _, .effect | _, .branded => true
  | .optional, .primitive .undefined | .optional, .primitive .void | .nullable, .primitive .null => true
  | _, _ => false

/-- The class that defines a method of nodes of a kind. -/
def owner (k : Kind) (name : Text) : Method → Text
  | asks c => if answersItself c k then k.className else "BaseDescriptor"
  | _ =>
    if (special k).any (·.1 = name) then k.className
    else if ofRecords.any (·.1 = name) then "BaseModel"
    else "BaseDescriptor"

end Method

def Answer.outcome : Answer → Outcome Value
  | gives v => .ok v
  | fails e => .error (.raised e)

def Action.outcome (defs : Definitions) (copy : Nat) (action : Action) : Outcome Value :=
  (action.call defs copy).mapError .raised

namespace Descriptor

/-- What a method gives for fitting arguments: a new node has identity `i`, what a getter or a factory
builds has number `copy`. -/
def perform (defs : Definitions) (copy : Nat) (i : Identity) (d : Descriptor) (m : Method) (arguments : List Value) :
    Outcome Value :=
  let argument := arguments.headD .null
  let checked (c : Checked Descriptor) : Outcome Value := c.outcome.map .node
  match m with
  | .describe => .ok (.node (d.describe i argument))
  | .optional => checked (d.optional i)
  | .nullable => checked (d.nullable i)
  | .nullish => checked (d.nullish i)
  | .default => checked (d.default argument i)
  | .readonly => checked (d.readonly i)
  | .catching => checked (d.catching argument i)
  | .transform => checked (d.effect .transform argument i)
  | .refine => checked (d.effect .refinement argument i)
  | .brand => checked (d.brand argument i)
  | .array => checked (d.array i)
  | .or => checked (d.or argument i)
  | .and => checked (d.and argument i)
  | .asks c => ((Value.node d).answer c defs).outcome
  | .textCheck rule => checked (d.checkText rule argument i)
  | .bareTextCheck rule => checked (d.checkText rule .null i)
  | .matching => checked (d.matching argument i)
  | .bound rule inclusive => checked (d.checkNumber rule argument inclusive i)
  | .boundAtZero rule inclusive => checked (d.checkNumber rule (.int 0) inclusive i)
  | .integer => checked (d.checkNumber .int .null true i)
  | .multipleOf => checked (d.checkNumber .multipleOf argument true i)
  | .length bound => .ok (.node (d.withLength bound argument i))
  | .nonempty => .ok (.node (d.withLength .min (.int 1) i))
  | .withCheck => checked (d.withCheck arguments i)
  | .extend => (argument.mapping defs copy).map fun shape => .node (d.extend shape i)
  | .pick => .ok (.node (d.pick arguments i))
  | .omitting => .ok (.node (d.omitting arguments i))
  | .allOptional => (d.allOptional defs copy i).map .node
  | .withRest => .ok (.node (d.withRest argument i))
  | .getDefault => ((Value.node d).madeDefault defs copy).mapError .raised
  | .resolve =>
    match d.body with
    | .lazy _ getter => getter.outcome defs copy
    | _ => .ok .null
  | .duplicate => .ok (.node (.mk i d.description d.body))
  | .dictionary => d.dictionary.mapError .raised
  | .written => .ok (.text (Value.node d).written)
  | .shown => .ok (.text (Value.node d).shown)
  | .equals =>
    match argument with
    | .node e => ((Value.node d).equals (.node e)).outcome.mapError .raised |>.map .bool
    | _ => .ok (.exotic (Exotic.plain i "NotImplementedType" "NotImplemented" "NotImplemented"))

end Descriptor

def Value.call (defs : Definitions) (copy : Nat) (i : Identity) (v : Value) (name : Text) (arguments : List Value) :
    Outcome Value :=
  match v with
  | .node d =>
    match Method.named? d.toKind name with
    | some m => do
      (m.parameters d.toKind).check (m.owner d.toKind name ++ "." ++ name) 1 arguments.length
      d.perform defs copy i m arguments
    | none =>
      match d.field? name with
      | some (.callable _ action) => action.outcome defs copy
      | some field => .error (.raised (.notCallable field))
      | none =>
        match Method.attributes.find? (·.1 = name) with
        | some (_, className) => typeError ("'" ++ className ++ "' object is not callable")
        | none => .error (.raised (.noAttribute v name))
  | v => v.callAttribute defs copy name

end Schematic
