import Schematic.Value.Token

namespace Schematic

/-- An operand as it is shown in a line; a missing one shows as `None`. -/
def TextOperand.shown : TextOperand → Text
  | none => "None"
  | int n => Text.ofInt n
  | text t => t

def TextCheck.line (c : TextCheck) : Text :=
  match c.rule with
  | .min => "Minimum length: " ++ c.operand.shown
  | .max => "Maximum length: " ++ c.operand.shown
  | .length => "Exact length: " ++ c.operand.shown
  | .email => "Must be a valid email"
  | .url => "Must be a valid URL"
  | .uuid => "Must be a valid UUID"
  | .regex => "Must match regex: /" ++ c.operand.shown ++ "/" ++ c.flags
  | .startsWith => "Must start with: \"" ++ c.operand.shown ++ "\""
  | .endsWith => "Must end with: \"" ++ c.operand.shown ++ "\""

def NumberCheck.bound (label : Text) (c : NumberCheck) : Text :=
  label ++ (if c.inclusive then Text.ofString " (inclusive): " else " (exclusive): ") ++ c.operand.token

def NumberCheck.line (c : NumberCheck) : Text :=
  match c.rule with
  | .min => c.bound "Minimum"
  | .max => c.bound "Maximum"
  | .int => "Must be an integer"
  | .multipleOf => "Must be a multiple of " ++ c.operand.token

def lengthLine (label : Text) (length : Value) : List Text :=
  match length with
  | .null => []
  | v => [label ++ ": " ++ v.shown]

def arrayLines (low high exact : Value) : List Text :=
  lengthLine "Minimum length" low ++ lengthLine "Maximum length" high ++ lengthLine "Exact length" exact

namespace Descriptor

/-- The constraint lines of a text, number or array schema; other kinds have none. -/
def constraintLines (d : Descriptor) : List Text :=
  match d.body with
  | .string checks => checks.map TextCheck.line
  | .number checks => checks.map NumberCheck.line
  | .array _ low high exact => arrayLines low high exact
  | _ => []

end Descriptor
end Schematic
