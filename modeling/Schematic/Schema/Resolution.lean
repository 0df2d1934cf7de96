import Schematic.Value.Exception

/-! Modifiers are stripped off a value until something that is no modifier is met. A lazy node is resolved by
calling its getter; the number of resolutions is limited, and a getter may fail. Where the exception of a
getter or a limit cannot be written, the report of the failure raises an exception itself, which gets out in
its place. -/
namespace Schematic

inductive ResolutionFailure where
  /-- A lazy node was met after `limit` resolutions. -/
  | unresolved (limit : Int)
  /-- The getter of resolution number `resolution` recursed without end. -/
  | recursed (resolution : Nat)
  /-- A getter failed for another reason. -/
  | getterFailed (e : Raised)
  /-- What failed could not be said. -/
  | unsaid (why : Obstacle)

/-- What stands in a document for a value that is not resolved. -/
inductive Mark where
  | recursion
  | unresolved
  /-- Nothing: the document is given up. -/
  | gap (why : Obstacle)
deriving DecidableEq, Repr

namespace ResolutionFailure

/-- The depth that belongs to the failure, if one does. -/
def depth? : ResolutionFailure → Option Int
  | unresolved limit => some limit
  | recursed resolution => some resolution
  | getterFailed _ | unsaid _ => none

def cause? : ResolutionFailure → Option Text
  | unresolved _ | unsaid _ => none
  | recursed _ => some "RecursionError"
  | getterFailed e => some e.className

/-- Whether the failure counts as recursion and not as a failed getter. -/
def isRecursive : ResolutionFailure → Bool
  | getterFailed _ | unsaid _ => false
  | _ => true

def mark : ResolutionFailure → Mark
  | unresolved _ | recursed _ => .recursion
  | getterFailed _ => .unresolved
  | unsaid why => .gap why

def className : ResolutionFailure → Text
  | unresolved _ | recursed _ => "RecursiveDescriptorError"
  | getterFailed _ => "DescriptorResolutionError"
  | unsaid why => Text.ofString why.className

def reason : ResolutionFailure → Text
  | unresolved _ => "Lazy descriptor did not resolve"
  | recursed _ => "Lazy descriptor recursed while resolving"
  | getterFailed e => "Lazy descriptor getter failed: " ++ e.written
  | unsaid why => Text.ofString why.message

def message (f : ResolutionFailure) : Text :=
  match f.depth? with
  | some n => f.reason ++ " after " ++ Text.ofInt n ++ " lazy resolutions"
  | none => f.reason

/-- The failure of resolution number `resolution` when its getter raises `e`. -/
def ofRaised (resolution : Nat) (e : Raised) : ResolutionFailure :=
  if e.className = ("RecursionError" : Text) then recursed resolution else getterFailed e

/-- What keeps a failure from being said. No number of resolutions is so high that it has too many digits,
so a limit that has them is negative. -/
def obstacle? : ResolutionFailure → Option Obstacle
  | unresolved limit => if limit < 0 then (Text.ofInt limit).obstacle? else none
  | recursed _ => none
  | getterFailed e => e.written.obstacle?
  | unsaid why => some why

/-- The failure that gets out where `f` is to be reported. -/
def said (f : ResolutionFailure) : ResolutionFailure :=
  match f.obstacle? with
  | some why => unsaid why
  | none => f

end ResolutionFailure

def Descriptor.strip : Descriptor → Descriptor
  | .mk _ _ (.modified _ inner) => inner.strip
  | d => d

/-- Unwrap `v` with at most `budget` further resolutions, of which the next has number `resolution`.
New buildings are numbered from `copy` on; the next unused number is given back. -/
def unwrapFrom (defs : Definitions) (limit : Int) :
    (budget resolution copy : Nat) → Value → Except ResolutionFailure (Value × Nat)
  | budget, resolution, copy, .node d =>
    match d.strip, budget with
    | .mk _ _ (.lazy _ _), 0 => .error (.unresolved limit)
    | .mk _ _ (.lazy _ getter), budget + 1 =>
      match getter.call defs copy with
      | .error e => .error (.ofRaised resolution e)
      | .ok v => unwrapFrom defs limit budget (resolution + 1) (copy + 1) v
    | canonical, _ => .ok (.node canonical, copy)
  | _, _, copy, v => .ok (v, copy)

/-- What is under all modifiers of `v`, resolving at most `limit` lazy nodes. -/
def Value.unwrap (defs : Definitions) (limit : Int) (copy : Nat) (v : Value) :
    Except ResolutionFailure (Value × Nat) :=
  (unwrapFrom defs limit limit.toNat 1 copy v).mapError ResolutionFailure.said

/-- Whether `v` is a modifier, and hence changed by unwrapping. -/
def Value.isModifier : Value → Bool
  | .node (.mk _ _ (.modified _ _)) => true
  | .node (.mk _ _ (.lazy _ _)) => true
  | _ => false

end Schematic
