import Schematic.Script.Meaning
import Schematic.Script.Source
import Schematic.Script.Statement

/-! Running the statements of a script one after another gives the names that it defines, or the exception
that ended it. The only modules there are to import are the builders and the package that holds them. A
function that is handed on as a value is called when everything has run: what it gives then is the definition
of its number, whose nodes are built anew in each call. -/
namespace Schematic.Script

abbrev Names := List (Text × Meaning)

def Names.get? (names : Names) (name : Text) : Option Meaning := (names.find? (·.1 = name)).map (·.2)

inductive Function where
  /-- A function of the script, with the names that it takes from the function around it. -/
  | written (code : Nat) (name : Text) (parameters : List Text) (body : List Statement) (around : Names)
  /-- Something else that can be called. -/
  | bound (m : Meaning)

structure State where
  /-- The number of nodes that were made. -/
  made : Nat
  /-- The unit in which nodes are made: that of the script, or that of a definition. -/
  unit : Nat
  functions : List Function
  /-- How often definitions may be asked for while definitions are made. -/
  room : Nat

abbrev Run (α : Type) := StateT State (Except Raised) α

structure Frame where
  globals : Names
  /-- The names of the function that runs. -/
  locals : Names
  /-- All names to which that function gives a meaning. -/
  own : List Text
  around : Names

namespace Frame

def ofScript (globals : Names) : Frame := ⟨globals, [], [], []⟩

def lookUp (f : Frame) (name : Text) : Except Raised Meaning :=
  if f.own.contains name then
    match f.locals.get? name with
    | some m => .ok m
    | none => .error (.mk "UnboundLocalError"
        [.text ("cannot access local variable '" ++ name ++ "' where it is not associated with a value")])
  else match (f.around.get? name).or ((f.globals.get? name).or (given? name)) with
    | some m => .ok m
    | none => .error (undefinedName name)

def bind (f : Frame) (name : Text) (m : Meaning) : Frame :=
  if f.own.contains name then { f with locals := (name, m) :: f.locals } else { f with globals := (name, m) :: f.globals }

end Frame

def fresh : Run Identity := fun s => .ok (⟨s.unit, [s.made], 0⟩, { s with made := s.made + 1 })

/-- The number of a function. One that takes nothing from around it has one number wherever it is met. -/
def register (f : Function) : Run Nat := fun s =>
  let isSame (g : Function) : Bool := match f, g with
    | .written code _ _ _ [], .written other _ _ _ [] => code = other
    | _, _ => false
  match s.functions.findIdx? isSame with
  | some number => .ok (number, s)
  | none => .ok (s.functions.length, { s with functions := s.functions ++ [f] })

def callable (number : Nat) : Value := .callable ⟨0, [number, 0], 0⟩ (.rebuilds (number + 1))

def Meaning.toValue (m : Meaning) : Run Value := do
  match m with
  | .value v => return v
  | .function number => return callable number
  | .package _ => return .exotic (.plain (← fresh) m.className "<module 'schemadoc'>" "<module 'schemadoc'>")
  | .builders =>
    return .exotic (.plain (← fresh) m.className "<module 'schemadoc.builders'>" "<module 'schemadoc.builders'>")
  | .exception e => return .exotic (.plain (← fresh) e.className e.message e.written)
  | .builder _ | .method _ _ | .exceptionClass _ | .given _ _ => return callable (← register (.bound m))

/-- The arguments of a call in the order of the parameters; `bound` of them come with the function itself. -/
def arrange (p : Parameters) (function : Text) (bound : Nat) (arguments : List Value) (named : List (Text × Value)) :
    Except Raised (List Value) :=
  if named.isEmpty then .ok arguments
  else
    let unfit := named.findSome? fun (name, _) =>
      if !p.names.contains name then some (function ++ "() got an unexpected keyword argument '" ++ name ++ "'")
      else if (p.names.take arguments.length).contains name then
        some (function ++ "() got multiple values for argument '" ++ name ++ "'")
      else none
    let given := (p.names.drop arguments.length).map fun name => (name, (named.find? (·.1 = name)).map (·.2))
    let missing := ((p.names.take p.required).drop arguments.length).filter fun name => !named.any (·.1 = name)
    match unfit with
    | some message => .error (.typeFailure message)
    | none =>
      if p.names.length < arguments.length then .error (.typeFailure (p.tooMany function bound arguments.length))
      else if !missing.isEmpty then .error (.typeFailure (({ p with names := missing, required := missing.length } :
        Parameters).tooFew function 0))
      else
        let last := given.reverse.dropWhile fun g => g.2.isNone
        .ok (arguments ++ last.reverse.map fun g => g.2.getD .null)

def emptyOf? (name : Text) : Option Value :=
  (([("bool", .bool false), ("bytes", .bytes []), ("dict", .dict []), ("float", .float (.ofInt 0)),
     ("frozenset", .frozenset []), ("int", .int 0), ("list", .list []), ("set", .set []), ("str", .text []),
     ("tuple", .tuple [])] : List (Text × Value)).find? (·.1 = name)).map (·.2)

/-- Whether a method of a node calls functions that the node holds. -/
def asksFunctions : Method → Bool
  | .asks _ | .getDefault | .resolve | .allOptional | .extend => true
  | _ => false

def notCallable (thing : Text) : Raised := .typeFailure ("'" ++ thing ++ "' object is not callable")

def ofOutcome {α : Type} (o : Outcome α) : Run α :=
  match o with
  | .ok a => return a
  | .error f => throw f.toRaised

def makeNode (name : Text) (arguments : List Value) (named : List (Text × Value)) : Run Meaning := do
  match Builder.named? name, Builder.classes.find? (·.className = name) with
  | some b, _ =>
    let arguments ← arrange b.parameters name 0 arguments named
    return .value (.node (← ofOutcome (Builder.call [] 0 (← fresh) name arguments)))
  | none, some k =>
    if arguments.isEmpty then
      let fields := named.map fun (field, v) => (.text field, v)
      return .value (.node (← ofOutcome (Descriptor.ofFields k (← fresh) fields).outcome))
    else return .value (.node (← ofOutcome (Builder.call [] 0 (← fresh) name arguments)))
  | none, none => return .value (.node (← ofOutcome (Builder.call [] 0 (← fresh) name arguments)))

/-- Call a method of a value; `defs` are needed where the value holds functions. -/
def callMethod (defs : Definitions) (v : Value) (name : Text) (arguments : List Value) (named : List (Text × Value)) :
    Run Meaning := do
  match v, v.integer?.bind fun n => Integer.method? n name with
  | .node d, _ =>
    let arguments ← match Method.named? d.toKind name with
      | some m => liftM (arrange (m.parameters d.toKind) (m.owner d.toKind name ++ "." ++ name) 1 arguments named)
      | none => pure arguments
    let i ← fresh
    return .value (← ofOutcome (v.call defs (i.place.headD 0) i name arguments))
  | _, some r =>
    if !named.isEmpty then throw (.typeFailure ("int." ++ name ++ "() takes no keyword arguments"))
    if arguments.isEmpty then return .value (← r)
    throw (.typeFailure ("int." ++ name ++ "() takes no arguments (" ++ Text.ofNat arguments.length ++ " given)"))
  | _, none =>
    let i ← fresh
    return .value (← ofOutcome (v.call defs (i.place.headD 0) i name arguments))

def needsDefinitions (v : Value) (name : Text) : Bool :=
  match v with
  | .node d => ((Method.named? d.toKind name).map asksFunctions).getD true
  | _ => false

/-- The exception that is raised where something is to be raised. -/
def importFailure (className message : Text) : Raised := .mk className [.text message]

def imported (source name : Text) : Except Raised Meaning :=
  let unknown : Raised :=
    importFailure "ImportError" ("cannot import name '" ++ name ++ "' from '" ++ source ++ "' (unknown location)")
  if source = ("schemadoc" : Text) then if name = ("builders" : Text) then .ok .builders else .error unknown
  else if source = ("schemadoc.builders" : Text) then (Meaning.builders.getAttribute name).mapError fun _ => unknown
  else if source = ("__future__" : Text) then .ok (.value .null)
  else .error (importFailure "ModuleNotFoundError" ("No module named '" ++ source ++ "'"))

/-- The name that importing a module gives, and what it stands for. -/
def loaded (source : Text) (name : Option Text) : Except Raised (Text × Meaning) :=
  match name with
  | some name =>
    if source = ("schemadoc.builders" : Text) then .ok (name, .builders)
    else if source = ("schemadoc" : Text) then .ok (name, .package false)
    else .error (importFailure "ModuleNotFoundError" ("No module named '" ++ source ++ "'"))
  | none =>
    if source = ("schemadoc.builders" : Text) then .ok ("schemadoc", .package true)
    else if source = ("schemadoc" : Text) then .ok (source, .package false)
    else .error (importFailure "ModuleNotFoundError" ("No module named '" ++ source ++ "'"))

/-- Give the names of a target their parts of a meaning; `fuel` bounds how deep the target is. -/
def give : (fuel : Nat) → Frame → (target : Expression) → Meaning → Run Frame
  | 0, frame, _, _ => return frame
  | fuel + 1, frame, target, m => do
    match target with
    | .name t => return frame.bind t m
    | .list targets | .tuple targets =>
      let v ← m.toValue
      match v.iterated? with
      | none => throw (.typeFailure ("cannot unpack non-iterable " ++ v.typeName ++ " object"))
      | some parts =>
        let expected := Text.ofNat targets.length
        if parts.length < targets.length then
          throw (.valueFailure ("not enough values to unpack (expected " ++ expected ++ ", got " ++
            Text.ofNat parts.length ++ ")"))
        if targets.length < parts.length then
          throw (.valueFailure ("too many values to unpack (expected " ++ expected ++ ")"))
        (targets.zip parts).foldlM (fun frame (target, v) => give fuel frame target (.value v)) frame
    | _ => return frame

def paired : List Value → List (Value × Value)
  | key :: v :: rest => (key, v) :: paired rest
  | _ => []

/-- What is raised where a function that every script has is called and not modelled. -/
def unsupported (name : Text) : Raised := .mk "NotImplementedError" [.text ("calls of '" ++ name ++ "' are not supported")]

def tooDeep : Raised := .mk "RecursionError" [.text "maximum recursion depth exceeded"]

mutual

/-- What an expression stands for; `fuel` bounds how deep expressions and calls are. -/
def evaluate : (fuel : Nat) → Frame → Expression → Run Meaning
  | 0, _, _ => throw tooDeep
  | fuel + 1, frame, e => do
    match e with
    | .constant v => return .value v
    | .name t => frame.lookUp t
    | .list items => return .value (.list (← values fuel frame items))
    | .tuple items => return .value (.tuple (← values fuel frame items))
    | .set items => do
      let items ← values fuel frame items
      return .value (.set (← members items))
    | .dict entries => do
      let pairs := paired (← values fuel frame (entries.flatMap fun (key, v) => [key, v]))
      match pairs.findSome? fun entry => entry.1.keyFailure? with
      | some e => throw e
      | none => return .value (.dict (Entries.ofList pairs))
    | .attribute e name => do (← evaluate fuel frame e).getAttribute name
    | .call function arguments named => do
      let m ← evaluate fuel frame function
      let arguments ← values fuel frame arguments
      let named := (named.map (·.1)).zip (← values fuel frame (named.map (·.2)))
      apply fuel frame.globals m arguments named
    | .signed sign e => do (← evaluate fuel frame e).signed sign
    | .lambda code parameters body =>
      return .function (← register
        (.written code "<lambda>" parameters [.returning (some body)] (frame.locals ++ frame.around)))

def values : (fuel : Nat) → Frame → List Expression → Run (List Value)
  | 0, _, _ => throw tooDeep
  | _ + 1, _, [] => return []
  | fuel + 1, frame, e :: es => do
    let v ← (← evaluate fuel frame e).toValue
    return v :: (← values fuel frame es)

def apply : (fuel : Nat) → (globals : Names) → Meaning → List Value → List (Text × Value) → Run Meaning
  | 0, _, _, _, _ => throw tooDeep
  | fuel + 1, globals, m, arguments, named => do
    match m with
    | .value (.callable _ action) =>
      let i ← fresh
      let s ← get
      return .value (← action.call (definitions fuel globals s) (i.place.headD 0))
    | .value v => throw (.notCallable v)
    | .package _ | .builders => throw (notCallable "module")
    | .builder name => makeNode name arguments named
    | .method v name =>
      let s ← get
      callMethod (if needsDefinitions v name then definitions fuel globals s else []) v name arguments named
    | .exceptionClass c =>
      if !named.isEmpty then throw (.typeFailure (c ++ "() takes no keyword arguments"))
      return .exception (← Raised.make c arguments)
    | .exception e => throw (notCallable e.className)
    | .given _ name =>
      match emptyOf? name with
      | some v => if arguments.isEmpty && named.isEmpty then return .value v else throw (unsupported name)
      | none => throw (unsupported name)
    | .function number =>
      match (← get).functions[number]? with
      | some f => applyFunction fuel globals f arguments named
      | none => throw tooDeep

def applyFunction : (fuel : Nat) → (globals : Names) → Function → List Value → List (Text × Value) → Run Meaning
  | 0, _, _, _, _ => throw tooDeep
  | fuel + 1, globals, f, arguments, named => do
    match f with
    | .bound m => apply fuel globals m arguments named
    | .written _ name parameters body around =>
      let p := Parameters.ofNames parameters
      let arguments ← arrange p name 0 arguments named
      let _ ← ofOutcome (p.check name 0 arguments.length)
      let locals := (parameters.zip arguments).map fun (name, v) => (name, Meaning.value v)
      let (_, result) ← perform fuel ⟨globals, locals, parameters ++ body.flatMap Statement.named, around⟩ body
      return result.getD (.value .null)

def perform : (fuel : Nat) → Frame → List Statement → Run (Frame × Option Meaning)
  | 0, _, _ => throw tooDeep
  | _ + 1, frame, [] => return (frame, none)
  | fuel + 1, frame, s :: rest => do
    match s with
    | .nothing => perform fuel frame rest
    | .importing source names =>
      let frame ← names.foldlM (fun frame (name, other) => do return frame.bind other (← imported source name)) frame
      perform fuel frame rest
    | .loading source name =>
      let (name, m) ← loaded source name
      perform fuel (frame.bind name m) rest
    | .assign targets e =>
      let m ← evaluate fuel frame e
      let frame ← targets.foldlM (fun frame target => give fuel frame target m) frame
      perform fuel frame rest
    | .evaluate e =>
      let _ ← evaluate fuel frame e
      perform fuel frame rest
    | .raising none _ => throw (.mk "RuntimeError" [.text "No active exception to reraise"])
    | .raising (some e) cause =>
      let m ← evaluate fuel frame e
      match cause with
      | none => throw (raisedBy m)
      | some cause =>
        let c ← evaluate fuel frame cause
        throw (if isCause c then raisedBy m else .typeFailure "exception causes must derive from BaseException")
    | .returning none => return (frame, some (.value .null))
    | .returning (some e) => return (frame, some (← evaluate fuel frame e))
    | .define code name parameters body =>
      let number ← register (.written code name parameters body (frame.locals ++ frame.around))
      perform fuel (frame.bind name (.function number)) rest

/-- What the functions give when they are called without arguments, each in a unit of its own. Number zero is no
function. -/
def definitions : (fuel : Nat) → (globals : Names) → State → Definitions
  | 0, _, _ => []
  | fuel + 1, globals, s =>
    match s.room with
    | 0 => .ok .null :: s.functions.map fun _ => .error tooDeep
    | room + 1 => .ok .null :: results fuel globals 0 { s with room := room }

/-- What the functions from a number on give. Calling one may bring further ones. -/
def results : (fuel : Nat) → (globals : Names) → (number : Nat) → State → List (Except Raised Value)
  | 0, _, _, _ => []
  | fuel + 1, globals, number, s =>
    match s.functions[number]? with
    | none => []
    | some f =>
      match (applyFunction fuel globals f [] []).run { s with unit := number + 1 } with
      | .error e => .error e :: results fuel globals (number + 1) s
      | .ok (m, after) =>
        match m.toValue.run after with
        | .error e => .error e :: results fuel globals (number + 1) s
        | .ok (v, after) => .ok v :: results fuel globals (number + 1) after

end

structure Finished where
  names : Names
  definitions : Definitions

def run (fileName : Text) (bytes : List UInt8) : Except Raised Finished := do
  let text ← sourceText fileName bytes
  let statements ← Statement.ofScript fileName text
  let fuel := 4 * text.length + 1000
  let ((frame, _), s) ← (perform fuel (.ofScript []) statements).run ⟨0, 0, [], 3⟩
  return ⟨frame.globals, definitions fuel frame.globals s⟩

end Schematic.Script
