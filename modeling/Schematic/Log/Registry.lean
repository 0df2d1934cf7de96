import Schematic.Log.Filling
import Schematic.Log.Layout

/-! Loggers are known by dotted names and stand below one another: `a` is above `a.b`, and the root, which has
the names `root` and the empty one, is above all. A logger comes to be when its name is first used, in its
fresh state; it is put below the nearest logger that there is, and what it belongs between is put below it. A
record that passes the logger it was given to is written once for each handler of that logger and of each one
above, in the layout of the handler. -/
namespace Schematic

structure LoggerState where
  /-- The least level that passes; zero leaves it to the loggers above. -/
  level : Int
  disabled : Bool
  /-- The layouts of the handlers. -/
  handlers : List Text
deriving DecidableEq, Inhabited, Repr

structure LoggerConfig where
  name : Text
  enabled : Bool
  level : Int
  layout : Text
deriving DecidableEq, Inhabited, Repr

structure LoggerSettings where
  name : Option Text := none
  enabled : Option Bool := none
  level : Option Int := none
  layout : Option Text := none
deriving DecidableEq, Inhabited, Repr

namespace LoggerConfig

def standard : LoggerConfig where
  name := "schemadoc"
  enabled := true
  level := Level.warning.number
  layout := "%(asctime)s - %(name)s - %(levelname)s - %(message)s"

/-- The given settings over those of `base`. -/
def overlay (base : LoggerConfig) (given : LoggerSettings) : LoggerConfig where
  name := given.name.getD base.name
  enabled := given.enabled.getD base.enabled
  level := given.level.getD base.level
  layout := given.layout.getD base.layout

end LoggerConfig

def LoggerState.fresh : LoggerState := ⟨0, false, []⟩

structure Logger where
  name : Text
  /-- The logger right above, if that is not the root. -/
  parent : Option Text
  state : LoggerState
deriving DecidableEq, Inhabited, Repr

structure Registry where
  root : LoggerState
  loggers : List Logger
deriving DecidableEq, Inhabited, Repr

/-- The names above a name, given backwards, from the nearest on. A part is not empty. -/
def namesAbove : (backwards : Text) → List Text
  | [] => []
  | [_] => []
  | c :: d :: rest =>
    if c = CodePoint.char '.' then (d :: rest).reverse :: namesAbove rest else namesAbove (d :: rest)

structure UnsoundLayout where
  layout : Text
deriving DecidableEq, Repr

def UnsoundLayout.message (e : UnsoundLayout) : Text := "Invalid format '" ++ e.layout ++ "' for '%' style"

namespace Registry

def rootName : Text := "root"

def initial : Registry := ⟨⟨Level.warning.number, false, []⟩, []⟩

def isRootName (name : Text) : Bool := name.isEmpty || name = rootName

def shownName (name : Text) : Text := if isRootName name then rootName else name

def logger? (r : Registry) (name : Text) : Option Logger := r.loggers.find? (·.name = name)

/-- The logger put below a new one of a name, if it is one of those that the new one belongs above and what
it stood below does not begin with that name. -/
def settledBelow (name : Text) (l : Logger) : Logger :=
  if (namesAbove l.name.reverse).contains name && !name.isPrefixOf (l.parent.getD rootName) then
    { l with parent := some name }
  else l

def withLogger (r : Registry) (name : Text) : Registry :=
  if isRootName name || (r.logger? name).isSome then r
  else
    let parent := (namesAbove name.reverse).find? fun above => (r.logger? above).isSome
    { r with loggers := ⟨name, parent, .fresh⟩ :: r.loggers.map (settledBelow name) }

def state (r : Registry) (name : Text) : LoggerState :=
  if isRootName name then r.root else ((r.logger? name).map Logger.state).getD .fresh

def setState (r : Registry) (name : Text) (s : LoggerState) : Registry :=
  if isRootName name then { r with root := s }
  else
    let r := r.withLogger name
    { r with loggers := r.loggers.map fun l => if l.name = name then { l with state := s } else l }

/-- The states of a logger and of those above it, with the root at the end; `fuel` bounds their number. -/
def lineageFrom (r : Registry) : (fuel : Nat) → (name : Option Text) → List LoggerState
  | fuel + 1, some name =>
    match r.logger? name with
    | some l => l.state :: r.lineageFrom fuel l.parent
    | none => [r.root]
  | _, _ => [r.root]

def lineage (r : Registry) (name : Text) : List LoggerState := r.lineageFrom r.loggers.length (some name)

def effectiveLevel (r : Registry) (name : Text) : Int :=
  (((r.lineage name).map LoggerState.level).find? (· ≠ 0)).getD 0

/-- Whether what is given at a level passes a logger. Nothing passes at zero or below. -/
def admits (r : Registry) (name : Text) (level : Int) : Bool :=
  !(r.state name).disabled && 0 < level && r.effectiveLevel name ≤ level

/-- Set up a logger. A logger that is not enabled keeps its level and handlers; one that is gets a
handler only if it has none. -/
def configure (r : Registry) (c : LoggerConfig) : Registry :=
  let s := r.state c.name
  r.setState c.name
    (if c.enabled then ⟨c.level, false, if s.handlers.isEmpty then [c.layout] else s.handlers⟩
     else { s with disabled := true })

/-- Set up a logger in a layout of any kind, which must be sound if it is used. -/
def setUp (r : Registry) (c : LoggerConfig) : Except UnsoundLayout Registry :=
  if c.enabled && (r.state c.name).handlers.isEmpty && !Layout.isSound c.layout then .error ⟨c.layout⟩
  else .ok (r.configure c)

/-- What is written when a message is given to a logger. A level whose name has too many digits for a text stops the
call. Without any handler, the message alone is written if it is a warning at least. -/
def written (r : Registry) (scene : Scene) (name : Text) (e : Entry) : Text :=
  if !(r.admits name e.level && Level.isNamed e.level) then []
  else match (r.lineage name).flatMap LoggerState.handlers with
    | [] => if Level.warning.number ≤ e.level then scene.written (shownName name) e false [] else []
    | layouts => scene.writtenIn (shownName name) e false layouts

end Registry
end Schematic
