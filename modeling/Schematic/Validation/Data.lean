import Schematic.Schema.Field
import Schematic.Value.Equality
import Schematic.Value.Written
import Schematic.Validation.Coercion

/-! A descriptor is read from a dictionary whose `kind` is a tag and whose other entries are the fields of
that kind; fields that are left out take their default, unknown ones are passed over. A descriptor that stands
in the data is taken as it is. The paths of issues name the tag of each node on the way. Nodes nest in one
another only so deep. -/
namespace Schematic

abbrev Fields := List (Value × Value)

def Value.entries? : Value → Option Fields
  | .dict entries => some entries
  | .cyclicDict i => some [(.text "self", .cyclicDict i)]
  | _ => none

/-- The items of what may stand for a sequence; those of a node are its fields with their names. -/
def Value.items? : Value → Option (List Value)
  | .list items | .tuple items | .set items | .frozenset items => some items
  | .cyclicList i => some [.cyclicList i]
  | .node d => some d.fieldItems
  | _ => none

namespace Fields

def get? (fields : Fields) (name : Text) : Option Value := Entries.get? (.text name) fields

def required {α : Type} (fields : Fields) (name : Text) (read : Value → Checked α) : Checked α :=
  Checked.within (.name name) (match fields.get? name with
    | some v => read v
    | none => .fault .missing)

def optional {α : Type} (fields : Fields) (name : Text) (default : α) (read : Value → Checked α) : Checked α :=
  match fields.get? name with
  | some v => Checked.within (.name name) (read v)
  | none => .ok default

end Fields

namespace Checked

def sequence {α : Type} (read : Nat → Value → Checked α) (v : Value) : Checked (List α) :=
  match v.items? with
  | some items => each read 0 items
  | none => .fault .noSequence

def callableOrNull (v : Value) : Checked Value :=
  match v with
  | .null => .ok .null
  | .callable i action => .ok (.callable i action)
  | _ => .fault .notCallable

def placeOfKey (key : Value) : Place :=
  match key with
  | .text t => .name t
  | .bool b => .index (if b then 1 else 0)
  | .int n => if -0x8000000000000000 ≤ n && n < 0x8000000000000000 then .index n else .name (Value.int n).written
  | v => .name v.written

def propertyKey (key : Value) : Checked Text :=
  within (placeOfKey key) (within (.name "[key]") (text key))

/-- The properties in a dictionary; `read` is given their positions. -/
def properties (read : Nat → Value → Checked Descriptor) : (n : Nat) → Fields → Checked (List (Value × Value))
  | _, [] => .ok []
  | n, (key, v) :: rest =>
    (fun key d more => (.text key, .node d) :: more) <$> propertyKey key <*> within (placeOfKey key) (read n v) <*>
      properties read (n + 1) rest

def shape (read : Nat → Value → Checked Descriptor) (v : Value) : Checked (List (Value × Value)) :=
  match v.entries? with
  | some entries => (properties read 0 entries).map Entries.ofList
  | none => .fault .noDictionary

end Checked

namespace TextCheck

def ofFields (fields : Fields) : Checked TextCheck :=
  TextCheck.mk <$> fields.required "kind" (Checked.choice TextRule.all TextRule.tag) <*>
    fields.optional "value" .none Checked.textOperand <*> fields.optional "flags" [] Checked.text

def ofValue (v : Value) : Checked TextCheck :=
  match v.entries? with
  | some fields => ofFields fields
  | none => .fault (.noFieldsOf "StringCheck")

end TextCheck

namespace NumberCheck

def ofFields (fields : Fields) : Checked NumberCheck :=
  NumberCheck.mk <$> fields.required "kind" (Checked.choice NumberRule.all NumberRule.tag) <*>
    fields.optional "value" .none Checked.numberOperand <*> fields.optional "inclusive" true Checked.boolean

def ofValue (v : Value) : Checked NumberCheck :=
  match v.entries? with
  | some fields => ofFields fields
  | none => .fault (.noFieldsOf "NumberCheck")

end NumberCheck

/-- A text schema without checks, the keys of a record unless others are given. -/
def Descriptor.plainText (i : Identity) : Descriptor := .mk i .null (.string [])

def Checked.getter (v : Value) : Checked Body :=
  match v with
  | .callable i action => .ok (.lazy i action)
  | _ => .fault .notCallable

def Body.wrapperOfFields (m : Checked Modifier) (inner : Checked Descriptor) : Checked Body :=
  (fun inner m => .modified m inner) <$> inner <*> m

/-- The fields of a node of kind `k`; `child` reads the node at a position. -/
def Body.ofFields (child : Nat → Value → Checked Descriptor) (k : Kind) (i : Identity) (fields : Fields) :
    Checked Body :=
  let inner := fields.required "inner" (child 0)
  match k with
  | .string => .string <$> fields.optional "checks" [] (Checked.sequence fun _ => TextCheck.ofValue)
  | .number => .number <$> fields.optional "checks" [] (Checked.sequence fun _ => NumberCheck.ofValue)
  | .primitive p => .ok (.primitive p)
  | .array =>
    .array <$> fields.required "element" (child 0) <*> fields.optional "min_length" .null Checked.integerOrNull <*>
      fields.optional "max_length" .null Checked.integerOrNull <*>
      fields.optional "exact_length" .null Checked.integerOrNull
  | .object => .object <$> fields.optional "shape" [] (Checked.shape child)
  | .enum => .enum <$> fields.required "options" (Checked.sequence fun _ => Checked.text)
  | .union => .union <$> fields.required "options" (Checked.sequence child)
  | .intersection => .intersection <$> fields.required "left" (child 0) <*> fields.required "right" (child 1)
  | .record =>
    .record <$> fields.optional "key_type" (Descriptor.plainText (i.child 0)) (child 0) <*>
      fields.required "value_type" (child 1)
  | .tuple =>
    .tuple <$> fields.optional "items" [] (Checked.sequence fun n => child (n + 1)) <*>
      fields.optional "rest" .null (fun v => match v with
        | .null => .ok .null
        | v => (child 0 v).map .node)
  | .literal => .ok (.literal ((fields.get? "value").getD .null))
  | .promise => .promise <$> inner
  | .optional => wrapperOfFields (.ok .optional) inner
  | .nullable => wrapperOfFields (.ok .nullable) inner
  | .default =>
    wrapperOfFields (.default ((fields.get? "default_value").getD .null) <$>
      fields.optional "default_factory" .null Checked.callableOrNull) inner
  | .readonly => wrapperOfFields (.ok .readonly) inner
  | .catching => wrapperOfFields (.ok (.catching ((fields.get? "catch_value").getD .null))) inner
  | .effect =>
    wrapperOfFields (.effect <$> fields.optional "effect" .null Checked.callableOrNull <*>
      fields.optional "effect_type" .refinement (Checked.choice EffectKind.all EffectKind.tag)) inner
  | .branded => wrapperOfFields (.branded <$> fields.optional "brand_name" [] Checked.text) inner
  | .lazy => fields.required "getter" Checked.getter

/-- A node of kind `k` with identity `i`; `read` reads the nodes in it. -/
def Descriptor.ofFieldsWith (read : Identity → Value → Checked Descriptor) (k : Kind) (i : Identity)
    (fields : Fields) : Checked Descriptor :=
  Descriptor.mk i <$> fields.optional "description" .null Checked.textOrNull <*>
    Body.ofFields (fun n => read (i.child n)) k i fields

/-- The kind that the `kind` of a value names. -/
def kindNamed (tag : Value) : Except Fault Kind :=
  match tag with
  | .text t => match Kind.ofTag? t with
    | some k => .ok k
    | none => .error (.unknownTag t.withoutHalves)
  | v => .error (.unknownTag v.shown.withoutHalves)

/-- The kind of node that a value describes. Values of basic types describe none; other objects are
asked for their attribute. -/
def Value.describedKind (v : Value) : Except Fault Kind :=
  match v with
  | .dict entries => match Fields.get? entries "kind" with
    | some tag => kindNamed tag
    | none => .error .noTag
  | .foreign i className attributes unreadable =>
    match (Value.foreign i className attributes unreadable).attribute? "kind" with
    | some tag => kindNamed tag
    | none => .error .noTag
  | .node d => .ok d.toKind
  | .absent | .cyclicDict _ | .pattern _ _ => .error .noTag
  | .exotic e => .error (if e.mayHoldFields then .noTag else .noObject)
  | _ => .error .noObject

/-- The node that a value stands for, if at most `levels` nodes are entered one inside the other. A node
that is refused for its depth is still known by its tag. -/
def descriptorAt (levels : Nat) (i : Identity) (v : Value) : Checked Descriptor :=
  match v.describedKind with
  | .error fault => .fault fault
  | .ok k =>
    Checked.within (.name k.tag) (match levels with
      | 0 => .fault .tooDeep
      | levels + 1 =>
        match v with
        | .node d => .ok d
        | v => match v.entries? with
          | some fields => Descriptor.ofFieldsWith (descriptorAt levels) k i fields
          | none => .fault (.noFieldsOf k.className))

/-- How many nodes of plain data may be entered one inside the other. -/
def deepestLevel : Nat := 254

/-- The descriptor that a value stands for, with identity `i` if it is built. -/
def Value.toDescriptor (i : Identity) (v : Value) : Checked Descriptor := descriptorAt deepestLevel i v

def Descriptor.ofFields (k : Kind) (i : Identity) (fields : Fields) : Checked Descriptor :=
  ofFieldsWith (descriptorAt (deepestLevel - 1)) k i fields

end Schematic
