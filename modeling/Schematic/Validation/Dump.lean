import Schematic.Validation.Data

namespace Schematic

def TextOperand.toValue : TextOperand → Value
  | none => .null
  | int n => .int n
  | text t => .text t

def TextCheck.dump (c : TextCheck) : Value :=
  .dict [(.text "kind", .text c.rule.tag), (.text "value", c.operand.toValue), (.text "flags", .text c.flags)]

def NumberCheck.dump (c : NumberCheck) : Value :=
  .dict [(.text "kind", .text c.rule.tag), (.text "value", c.operand.toValue), (.text "inclusive", .bool c.inclusive)]

def Modifier.dumpFields : Modifier → Fields
  | .optional | .nullable | .readonly => []
  | .default value _ => [(.text "default_value", value)]
  | .catching value => [(.text "catch_value", value)]
  | .effect _ kind => [(.text "effect_type", .text kind.tag)]
  | .branded name => [(.text "brand_name", .text name)]

mutual

/-- The data of a value where a descriptor is expected. -/
def Value.dump : Value → Value
  | .node d => d.dump
  | v => v

def Descriptor.dump : Descriptor → Value
  | .mk _ description body =>
    .dict ((.text "description", description) :: (.text "kind", .text body.toKind.tag) :: body.dumpFields)

def Body.dumpFields : Body → Fields
  | .string checks => [(.text "checks", .list (checks.map TextCheck.dump))]
  | .number checks => [(.text "checks", .list (checks.map NumberCheck.dump))]
  | .primitive _ => []
  | .array element low high exact =>
    [(.text "element", element.dump), (.text "min_length", low), (.text "max_length", high),
     (.text "exact_length", exact)]
  | .object properties => [(.text "shape", .dict (dumpProperties properties))]
  | .enum options => [(.text "options", .list (options.map .text))]
  | .union options => [(.text "options", .list (dumpNodes options))]
  | .intersection left right => [(.text "left", left.dump), (.text "right", right.dump)]
  | .record key value => [(.text "key_type", key.dump), (.text "value_type", value.dump)]
  | .tuple items rest => [(.text "items", .list (dumpNodes items)), (.text "rest", rest.dump)]
  | .literal value => [(.text "value", value)]
  | .promise inner => [(.text "inner", inner.dump)]
  | .modified m inner => (.text "inner", inner.dump) :: m.dumpFields
  | .lazy _ _ => []

def dumpProperties : List (Value × Value) → List (Value × Value)
  | [] => []
  | (key, v) :: rest => (key, v.dump) :: dumpProperties rest

def dumpNodes : List Descriptor → List Value
  | [] => []
  | d :: ds => d.dump :: dumpNodes ds

end
end Schematic
