import Schematic.Value.Equality

/-! What may be a key of a dictionary or a member of a set: everything but lists, sets, dictionaries, signals,
and what holds one of these in a tuple or in the fields of a node. Sets and dictionaries are made here from
what they are to hold; of equal members the first stays. -/
namespace Schematic

/-- What is raised where a value of a class is to be a key that can be none. -/
def Raised.noKey (typeName : Text) : Raised := .mk "TypeError" [.text ("unhashable type: '" ++ typeName ++ "'")]

mutual

/-- What is raised where a value is to be a key, if it can be none. -/
def Value.keyFailure? : Value → Option Raised
  | .list _ | .cyclicList _ => some (.noKey "list")
  | .set _ => some (.noKey "set")
  | .dict _ | .cyclicDict _ => some (.noKey "dict")
  | .tuple items => itemKeyFailure? items
  | .exotic e =>
    if e.quantity.any Quantity.signals then some (.mk "TypeError" [.text "Cannot hash a signaling NaN value."])
    else none
  | .node d => d.keyFailure?
  | _ => none

def Descriptor.keyFailure? : Descriptor → Option Raised
  | .mk _ description body => description.keyFailure?.or body.keyFailure?

def Body.keyFailure? : Body → Option Raised
  | .array e low high exact =>
    e.keyFailure?.or (low.keyFailure?.or (high.keyFailure?.or exact.keyFailure?))
  | .object _ => some (.noKey "dict")
  | .union options => nodeKeyFailure? options
  | .intersection left right => left.keyFailure?.or right.keyFailure?
  | .record key value => key.keyFailure?.or value.keyFailure?
  | .tuple items rest => (nodeKeyFailure? items).or rest.keyFailure?
  | .literal value => value.keyFailure?
  | .promise inner => inner.keyFailure?
  | .modified m inner => inner.keyFailure?.or m.keyFailure?
  | _ => none

def Modifier.keyFailure? : Modifier → Option Raised
  | .default value _ => value.keyFailure?
  | .catching value => value.keyFailure?
  | _ => none

def itemKeyFailure? : List Value → Option Raised
  | [] => none
  | v :: vs => v.keyFailure?.or (itemKeyFailure? vs)

def nodeKeyFailure? : List Descriptor → Option Raised
  | [] => none
  | d :: ds => d.keyFailure?.or (nodeKeyFailure? ds)

end

/-- The members of a set, of which the first of each class of equal values stays. -/
def members (items : List Value) : Except Raised (List Value) :=
  match itemKeyFailure? items with
  | none => .ok (distinct items)
  | some e => .error e

/-- The entries of a dictionary. An equal later key keeps the place and brings its value. -/
def Entries.make (pairs : List (Value × Value)) : Except Raised (List (Value × Value)) :=
  match itemKeyFailure? (pairs.map (·.1)) with
  | none => .ok (Entries.ofList pairs)
  | some e => .error e

end Schematic
