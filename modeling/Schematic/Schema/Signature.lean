import Schematic.Schema.Constraint

namespace Schematic

/-- `name`, followed by its constraints in parentheses if there are any. -/
def withConstraints (name : Text) : List Text → Text
  | [] => name
  | lines => name ++ " (" ++ Text.join ", " lines ++ ")"

/-- The positions of a tuple with the signatures of its items and of its rest, if it has one. -/
def tuplePositions (items : List Text) (rest : Option Text) : Text :=
  let listed := Text.join ", " items
  match rest with
  | none => listed
  | some r =>
    let more : Text := "..." ++ r ++ "[]"
    if listed.isEmpty then more else listed ++ ", " ++ more

/-- The signature of a node whose children have the signatures `child`. -/
def Descriptor.signatureWith (child : Value → Text) (d : Descriptor) : Text :=
  match d.body with
  | .modified .optional inner => child (.node inner) ++ "?"
  | .modified .nullable inner => child (.node inner) ++ " | null"
  | .modified (.default _ _) inner => child (.node inner)
  | .string _ => withConstraints "string" d.constraintLines
  | .number _ => withConstraints "number" d.constraintLines
  | .array element _ _ _ => child (.node element) ++ "[]"
  | .object _ => "object"
  | .enum options => "enum (" ++ Text.join " , " options ++ ")"
  | .union options => Text.join " | " (options.map fun o => child (.node o))
  | .intersection left right => child (.node left) ++ " & " ++ child (.node right)
  | .record key value => "Record<" ++ child (.node key) ++ ", " ++ child (.node value) ++ ">"
  | .tuple items rest =>
    "[" ++ tuplePositions (items.map fun i => child (.node i))
      (match rest with
       | .null => none
       | r => some (child r)) ++ "]"
  | .literal v => "literal (" ++ v.token ++ ")"
  | .promise inner => "Promise<" ++ child (.node inner) ++ ">"
  | .primitive p => p.tag
  | .modified m _ => m.toKind.tag
  | .lazy _ _ => Kind.lazy.tag

namespace Value

/-- The signature of a value down to `levels` levels; `marker` stands for a deeper one. -/
def signatureIn (marker : Text) : (levels : Nat) → Value → Text
  | _, .null => "unknown"
  | 0, _ => marker
  | levels + 1, .node d => d.signatureWith (signatureIn marker levels)
  | _ + 1, v => v.fallbackName

/-- The number of levels from a depth to the deepest one that is shown. -/
def levels (maxDepth depth : Int) : Nat := (maxDepth + 1 - depth).toNat

/-- The signature of a value whose nesting is followed to depth `maxDepth`. -/
def signature (maxDepth : Int) (marker : Text) (v : Value) : Text :=
  v.signatureIn marker (levels maxDepth 0)

/-- The signature of a value, or what is raised where it has none. -/
def shownSignature (maxDepth : Int) (marker : Text) (v : Value) : Except Raised Text :=
  (v.signature maxDepth marker).whole

end Value

/-- The constraint lines, if all of them can be written. -/
def Descriptor.shownLines (d : Descriptor) : Except Raised (List Text) := d.constraintLines.mapM Text.whole

end Schematic
