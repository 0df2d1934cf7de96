import Schematic.Schema.Capability
import Schematic.Value.Exception

namespace Schematic

structure Summary where
  /-- Null if there is none; a description that counts as false is none. -/
  description : Value
  optional : Bool
  nullable : Bool
  /-- Absent if there is none. -/
  default : Value

namespace Summary

def hasDefault (s : Summary) : Bool :=
  match s.default with
  | .absent => false
  | _ => true

end Summary

/-- The description of a value, or null. One that cannot be read has a gap for its text. -/
def Value.descriptionOrNull (v : Value) : Value :=
  let description := match v with
    | .node d => d.description
    | v =>
      match v.obstacleAt? "description" with
      | some why => .text [.gap why]
      | none => (v.attribute? "description").getD .null
  if description.truthy then description else .null

/-- The default of a `default` modifier: what its factory makes, or else its value. What the factory builds
has number `copy`. -/
def Value.madeDefault (defs : Definitions) (copy : Nat) (v : Value) : Except Raised Value :=
  match v with
  | .node (.mk _ _ (.modified (.default _ (.callable _ action)) _)) => action.call defs copy
  | .node (.mk _ _ (.modified (.default value _) _)) => .ok value
  | _ => .ok .absent

/-- The summary of a value; the default is absent if its factory fails. -/
def Value.summary (defs : Definitions) (v : Value) : Summary where
  description := v.descriptionOrNull
  optional := v.can .optional defs
  nullable := v.can .nullable defs
  default := match v.madeDefault defs 0 with
    | .ok d => d
    | .error _ => .absent

/-- The summary of a value, or what is raised where its description cannot be read. -/
def Value.shownSummary (defs : Definitions) (v : Value) : Except Raised Summary :=
  match v.obstacleAt? "description" with
  | some why => .error (.ofObstacle why)
  | none => .ok (v.summary defs)

end Schematic
