import Schematic.Schema.Basic

namespace Schematic

inductive Kind where
  | string
  | number
  | primitive (p : Primitive)
  | array
  | object
  | enum
  | union
  | intersection
  | record
  | tuple
  | literal
  | promise
  | optional
  | nullable
  | default
  | readonly
  | catching
  | effect
  | branded
  | lazy
deriving DecidableEq, Inhabited, Repr

def Primitive.all : List Primitive :=
  [.boolean, .date, .null, .undefined, .any, .unknown, .never, .void, .bigint, .function]

def Primitive.tag : Primitive → Text
  | boolean => "boolean"
  | date => "date"
  | null => "null"
  | undefined => "undefined"
  | any => "any"
  | unknown => "unknown"
  | never => "never"
  | void => "void"
  | bigint => "bigint"
  | function => "function"

namespace Kind

/-- Every kind, in the order in which error messages list the tags. -/
def all : List Kind :=
  [string, number] ++ Primitive.all.map primitive ++
    [array, object, enum, union, intersection, record, tuple, literal, promise,
     optional, nullable, default, readonly, catching, effect, branded, lazy]

def tag : Kind → Text
  | string => "string"
  | number => "number"
  | primitive p => p.tag
  | array => "array"
  | object => "object"
  | enum => "enum"
  | union => "union"
  | intersection => "intersection"
  | record => "record"
  | tuple => "tuple"
  | literal => "literal"
  | promise => "promise"
  | optional => "optional"
  | nullable => "nullable"
  | default => "default"
  | readonly => "readonly"
  | catching => "catch"
  | effect => "effect"
  | branded => "branded"
  | lazy => "lazy"

def ofTag? (t : Text) : Option Kind := all.find? (·.tag = t)

/-- Capitalised tag; only `bigint` has a second capital. -/
def className (k : Kind) : Text :=
  (match k with
   | primitive .bigint => "BigInt"
   | k => match k.tag with
     | first :: rest => CodePoint.ofNat (first.toNat - 0x20) :: rest
     | [] => []) ++ "Descriptor"

end Kind

def Modifier.toKind : Modifier → Kind
  | optional => .optional
  | nullable => .nullable
  | default _ _ => .default
  | readonly => .readonly
  | catching _ => .catching
  | effect _ _ => .effect
  | branded _ => .branded

def Body.toKind : Body → Kind
  | string _ => .string
  | number _ => .number
  | primitive p => .primitive p
  | array _ _ _ _ => .array
  | object _ => .object
  | enum _ => .enum
  | union _ => .union
  | intersection _ _ => .intersection
  | record _ _ => .record
  | tuple _ _ => .tuple
  | literal _ => .literal
  | promise _ => .promise
  | modified m _ => m.toKind
  | lazy _ _ => .lazy

def Descriptor.toKind (d : Descriptor) : Kind := d.body.toKind

def TextRule.all : List TextRule := [.min, .max, .length, .email, .url, .uuid, .regex, .startsWith, .endsWith]

def TextRule.tag : TextRule → Text
  | min => "min"
  | max => "max"
  | length => "length"
  | email => "email"
  | url => "url"
  | uuid => "uuid"
  | regex => "regex"
  | startsWith => "starts_with"
  | endsWith => "ends_with"

def NumberRule.all : List NumberRule := [.min, .max, .int, .multipleOf]

def NumberRule.tag : NumberRule → Text
  | min => "min"
  | max => "max"
  | int => "int"
  | multipleOf => "multiple_of"

def EffectKind.all : List EffectKind := [.transform, .refinement, .preprocess]

def EffectKind.tag : EffectKind → Text
  | transform => "transform"
  | refinement => "refinement"
  | preprocess => "preprocess"

def Value.isOptionalNode : Value → Bool
  | .node (.mk _ _ (.modified .optional _)) => true
  | _ => false

def Value.className : Value → Text
  | .absent => "_Undefined"
  | .null => "NoneType"
  | .bool _ => "bool"
  | .int _ => "int"
  | .float _ => "float"
  | .text _ => "str"
  | .bytes _ => "bytes"
  | .list _ | .cyclicList _ => "list"
  | .tuple _ => "tuple"
  | .set _ => "set"
  | .frozenset _ => "frozenset"
  | .dict _ | .cyclicDict _ => "dict"
  | .pattern _ _ => "Pattern"
  | .exotic e => e.className
  | .unshown className _ => className
  | .callable _ _ => "function"
  | .foreign _ className _ _ => className
  | .node d => d.toKind.className

/-- The name of the class of a value with the module that defines it, where messages show that. -/
def Value.typeName (v : Value) : Text :=
  match v with
  | .pattern _ _ => "re.Pattern"
  | .exotic e =>
    if e.className = ("Decimal" : Text) then "decimal.Decimal"
    else if e.className = ("date" : Text) then "datetime.date"
    else e.className
  | v => v.className

/-- What is raised when a value has no attribute `name`. -/
def Raised.noAttribute (v : Value) (name : Text) : Raised :=
  .mk "AttributeError" [.text ("'" ++ v.typeName ++ "' object has no attribute '" ++ name ++ "'")]

/-- What is raised when a value is called that is no function. -/
def Raised.notCallable (v : Value) : Raised := .mk "TypeError" [.text ("'" ++ v.typeName ++ "' object is not callable")]

/-- What is raised where a value of a class is used as the name of an attribute. -/
def Raised.noAttributeName (typeName : Text) : Raised :=
  .mk "TypeError" [.text ("attribute name must be string, not '" ++ typeName ++ "'")]

/-- What is raised when a question or a construction never ends. -/
def Raised.endless : Raised := .mk "RecursionError" [.text "maximum recursion depth exceeded"]

def Raised.noEntry (key : Value) : Raised := .mk "KeyError" [key]

/-- What is raised when the attribute `name` of a value that is no descriptor is read. A missing attribute
is not raised but left out. -/
def Value.obstacleAt? (name : Text) : Value → Option Obstacle
  | .foreign _ _ _ unreadable =>
    ((unreadable.find? (·.1 = name)).map (·.2)).filter (·.className ≠ "AttributeError")
  | _ => none

/-- The attribute `name` of a value that is no descriptor. -/
def Value.attribute? (name : Text) : Value → Option Value
  | .foreign _ _ attributes unreadable =>
    if unreadable.any (·.1 = name) then none else (attributes.reverse.find? (·.1 = name)).map (·.2)
  | _ => none

/-- The name that stands for a value where no signature does: the tag of its kind, or else the name
of its class in lower case. -/
def Value.fallbackName (v : Value) : Text :=
  match v with
  | .node d => d.toKind.tag
  | v =>
    match v.obstacleAt? "kind", v.attribute? "kind" with
    | some why, _ => [.gap why]
    | none, some (.text (c :: rest)) => Text.lower (c :: rest)
    | none, _ =>
      match Text.lower (Text.removeTail "Descriptor" v.className) with
      | [] => "unknown"
      | name => name

end Schematic
