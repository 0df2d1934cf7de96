import Schematic.Schema.Kind
import Schematic.Text.Quoted
import Schematic.Decimal.Shortest

/-! `Value.written` is the form in which values appear inside containers, in the order of a sorted set and in
error messages; `Value.shown` leaves a text without quotes and is written otherwise. Items of a set are
written in the order in which they were put in. -/
namespace Schematic

def boolWord (b : Bool) : Text := if b then "True" else "False"

/-- A pair of parentheses around `parts`, with a comma after a single one. -/
def writtenTuple (parts : List Text) : Text :=
  match parts with
  | [part] => "(" ++ part ++ ",)"
  | parts => "(" ++ Text.join ", " parts ++ ")"

def TextOperand.written : TextOperand → Text
  | none => "None"
  | int n => Text.ofInt n
  | text t => t.quoted

def NumberOperand.written : NumberOperand → Text
  | none => "None"
  | int n => Text.ofInt n
  | float x => x.text

def TextCheck.written (c : TextCheck) : Text :=
  "StringCheck(kind=" ++ c.rule.tag.quoted ++ ", value=" ++ c.operand.written ++ ", flags=" ++ c.flags.quoted ++ ")"

def NumberCheck.written (c : NumberCheck) : Text :=
  "NumberCheck(kind=" ++ c.rule.tag.quoted ++ ", value=" ++ c.operand.written ++ ", inclusive=" ++
    boolWord c.inclusive ++ ")"

def flagNames (flags : Text) : List Text :=
  ([("i", "re.IGNORECASE"), ("m", "re.MULTILINE"), ("s", "re.DOTALL"), ("x", "re.VERBOSE"),
    ("a", "re.ASCII")] : List (Text × Text)).filterMap fun (letter, name) =>
      if letter.all (flags.contains ·) then some name else none

def writtenPattern (source flags : Text) : Text :=
  let shown := source.quoted.take 200
  match flagNames flags with
  | [] => "re.compile(" ++ shown ++ ")"
  | names => "re.compile(" ++ shown ++ ", " ++ Text.join "|" names ++ ")"

/-- `name=value` with `separator` between the fields. -/
def writtenFields (separator : Text) (fields : List (Text × Text)) : Text :=
  Text.join separator (fields.map fun (name, value) => name ++ "=" ++ value)

mutual

def Value.written : Value → Text
  | .absent => "UNDEFINED"
  | .null => "None"
  | .bool b => boolWord b
  | .int n => Text.ofInt n
  | .float x => x.text
  | .text t => t.quoted
  | .bytes bs => Text.quotedBytes bs
  | .list items => "[" ++ Text.join ", " (writtenItems items) ++ "]"
  | .tuple items => writtenTuple (writtenItems items)
  | .set [] => "set()"
  | .set items => "\x7b" ++ Text.join ", " (writtenItems items) ++ "\x7d"
  | .frozenset [] => "frozenset()"
  | .frozenset items => "frozenset(\x7b" ++ Text.join ", " (writtenItems items) ++ "\x7d)"
  | .dict entries => "\x7b" ++ Text.join ", " (writtenEntries entries) ++ "\x7d"
  | .cyclicList _ => "[[...]]"
  | .cyclicDict _ => "\x7b'self': \x7b...\x7d\x7d"
  | .pattern source flags => writtenPattern source flags
  | .exotic e => e.written
  | .unshown _ why => [.gap why]
  | .callable _ _ => "<function>"
  | .foreign _ className _ _ => "<" ++ className ++ ">"
  | .node d => d.written

def Descriptor.written : Descriptor → Text
  | .mk _ description body =>
    body.toKind.className ++ "(" ++
      writtenFields ", " (("description", description.written) :: ("kind", body.toKind.tag.quoted) :: body.fields) ++
      ")"

/-- The fields of a node after its description and kind. -/
def Body.fields : Body → List (Text × Text)
  | .string checks => [("checks", writtenTuple (checks.map TextCheck.written))]
  | .number checks => [("checks", writtenTuple (checks.map NumberCheck.written))]
  | .primitive _ => []
  | .array element low high exact =>
    [("element", element.written), ("min_length", low.written), ("max_length", high.written),
     ("exact_length", exact.written)]
  | .object properties => [("shape", "\x7b" ++ Text.join ", " (writtenEntries properties) ++ "\x7d")]
  | .enum options => [("options", writtenTuple (options.map Text.quoted))]
  | .union options => [("options", writtenTuple (writtenNodes options))]
  | .intersection left right => [("left", left.written), ("right", right.written)]
  | .record key value => [("key_type", key.written), ("value_type", value.written)]
  | .tuple items rest => [("items", writtenTuple (writtenNodes items)), ("rest", rest.written)]
  | .literal value => [("value", value.written)]
  | .promise inner => [("inner", inner.written)]
  | .modified m inner => ("inner", inner.written) :: m.fields
  | .lazy _ _ => [("getter", "<function>")]

def Modifier.fields : Modifier → List (Text × Text)
  | .optional | .nullable | .readonly => []
  | .default value factory => [("default_value", value.written), ("default_factory", factory.written)]
  | .catching value => [("catch_value", value.written)]
  | .effect function kind => [("effect", function.written), ("effect_type", kind.tag.quoted)]
  | .branded name => [("brand_name", name.quoted)]

def writtenItems : List Value → List Text
  | [] => []
  | v :: vs => v.written :: writtenItems vs

def writtenEntries : List (Value × Value) → List Text
  | [] => []
  | (k, v) :: rest => (k.written ++ ": " ++ v.written) :: writtenEntries rest

def writtenNodes : List Descriptor → List Text
  | [] => []
  | d :: ds => d.written :: writtenNodes ds

end

/-- The text of a value on its own: a text stands for itself, a node shows its fields only. -/
def Value.shown : Value → Text
  | .text t => t
  | .exotic e => e.text
  | .node (.mk _ description body) =>
    writtenFields " " (("description", description.written) :: ("kind", body.toKind.tag.quoted) :: body.fields)
  | v => v.written

end Schematic
