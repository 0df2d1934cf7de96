import Schematic.Schema.Kind

namespace Schematic

/-- The fields of a node by name. Checks are not shown. -/
def Descriptor.fieldValues (d : Descriptor) : List (Text × Value) :=
  let own : List (Text × Value) := match d.body with
    | .string _ | .number _ => [("checks", .tuple [])]
    | .primitive _ => []
    | .array e low high exact =>
      [("element", .node e), ("min_length", low), ("max_length", high), ("exact_length", exact)]
    | .object properties => [("shape", .dict properties)]
    | .enum options => [("options", .tuple (options.map .text))]
    | .union options => [("options", .tuple (options.map .node))]
    | .intersection left right => [("left", .node left), ("right", .node right)]
    | .record key value => [("key_type", .node key), ("value_type", .node value)]
    | .tuple items rest => [("items", .tuple (items.map .node)), ("rest", rest)]
    | .literal value => [("value", value)]
    | .promise inner => [("inner", .node inner)]
    | .modified m inner => ("inner", .node inner) :: (match m with
      | .optional | .nullable | .readonly => []
      | .default value factory => [("default_value", value), ("default_factory", factory)]
      | .catching value => [("catch_value", value)]
      | .effect function kind => [("effect", function), ("effect_type", .text kind.tag)]
      | .branded name => [("brand_name", .text name)])
    | .lazy i getter => [("getter", .callable i getter)]
  ("description", d.description) :: ("kind", .text d.toKind.tag) :: own

def Descriptor.field? (d : Descriptor) (name : Text) : Option Value :=
  (d.fieldValues.find? (·.1 = name)).map (·.2)

def Descriptor.fieldItems (d : Descriptor) : List Value := d.fieldValues.map fun (name, v) => .tuple [.text name, v]

end Schematic
