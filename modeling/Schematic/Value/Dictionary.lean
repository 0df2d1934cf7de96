import Schematic.Value.Key

namespace Schematic

def namedEntries (fields : List (Text × Value)) : Value := .dict (fields.map fun (name, v) => (.text name, v))

def TextCheck.dictionary (c : TextCheck) : Value :=
  namedEntries [("kind", .text c.rule.tag), ("value", match c.operand with
    | .none => .null
    | .int n => .int n
    | .text t => .text t), ("flags", .text c.flags)]

def NumberCheck.dictionary (c : NumberCheck) : Value :=
  namedEntries [("kind", .text c.rule.tag), ("value", c.operand.toValue), ("inclusive", .bool c.inclusive)]

/-- What is raised where something that contains itself is gone through. -/
def Raised.circular : Raised := .mk "ValueError" [.text "Circular reference detected (id repeated)"]

mutual

def Value.unfolded : Value → Except Raised Value
  | .list items => return .list (← unfoldedItems items)
  | .tuple items => return .tuple (← unfoldedItems items)
  | .set items => do return .set (← members (← unfoldedItems items))
  | .frozenset items => do return .frozenset (← members (← unfoldedItems items))
  | .dict entries => return .dict (← unfoldedEntries entries)
  | .cyclicList _ | .cyclicDict _ => throw .circular
  | .node d => d.dictionary
  | v => return v

def Descriptor.dictionary : Descriptor → Except Raised Value
  | .mk _ description body => do
    let description ← description.unfolded
    return namedEntries (("description", description) :: ("kind", .text body.toKind.tag) :: (← body.unfolded))

def Body.unfolded : Body → Except Raised (List (Text × Value))
  | .string checks => return [("checks", .tuple (checks.map TextCheck.dictionary))]
  | .number checks => return [("checks", .tuple (checks.map NumberCheck.dictionary))]
  | .primitive _ => return []
  | .array e low high exact => do
    return [("element", ← e.dictionary), ("min_length", ← low.unfolded), ("max_length", ← high.unfolded),
      ("exact_length", ← exact.unfolded)]
  | .object properties => do return [("shape", .dict (← unfoldedEntries properties))]
  | .enum options => return [("options", .tuple (options.map .text))]
  | .union options => do return [("options", .tuple (← dictionaries options))]
  | .intersection left right => do return [("left", ← left.dictionary), ("right", ← right.dictionary)]
  | .record key value => do return [("key_type", ← key.dictionary), ("value_type", ← value.dictionary)]
  | .tuple items rest => do return [("items", .tuple (← dictionaries items)), ("rest", ← rest.unfolded)]
  | .literal value => do return [("value", ← value.unfolded)]
  | .promise inner => do return [("inner", ← inner.dictionary)]
  | .modified m inner => do
    let inner ← inner.dictionary
    return ("inner", inner) :: (← m.unfolded)
  | .lazy i getter => return [("getter", .callable i getter)]

def Modifier.unfolded : Modifier → Except Raised (List (Text × Value))
  | .optional | .nullable | .readonly => return []
  | .default value factory => do return [("default_value", ← value.unfolded), ("default_factory", factory)]
  | .catching value => do return [("catch_value", ← value.unfolded)]
  | .effect function kind => return [("effect", function), ("effect_type", .text kind.tag)]
  | .branded name => return [("brand_name", .text name)]

def unfoldedItems : List Value → Except Raised (List Value)
  | [] => return []
  | v :: vs => do return (← v.unfolded) :: (← unfoldedItems vs)

def unfoldedEntries : List (Value × Value) → Except Raised (List (Value × Value))
  | [] => return []
  | (k, v) :: rest => do
    let v ← v.unfolded
    return (k, v) :: (← unfoldedEntries rest)

def dictionaries : List Descriptor → Except Raised (List Value)
  | [] => return []
  | d :: ds => do return (← d.dictionary) :: (← dictionaries ds)

end

end Schematic
